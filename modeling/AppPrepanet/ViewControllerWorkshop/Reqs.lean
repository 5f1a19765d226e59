import AppPrepanet.ViewControllerWorkshop.Button

namespace AppPrepanet.ViewControllerWorkshop

open Firestore

-- A requirement with the status of the last inscripcion that carries its title.
def mark (inscripciones : List Inscripcion) (requerimiento : Requerimiento) : Requerimiento :=
  { requerimiento with
    status := ((inscripciones.findRev? fun inscripcion =>
      inscripcion.wkTitle = requerimiento.req).map (·.status)).getD requerimiento.status }

-- The rows that the first loop of `initializeReqObject` appends.
def listed (workshop : Workshop) : List Requerimiento :=
  workshop.req.map fun req => { req := req }

section Titles

@[simp] theorem mark_req (inscripciones : List Inscripcion) (requerimiento : Requerimiento) :
    (mark inscripciones requerimiento).req = requerimiento.req := rfl

theorem titles_mark (inscripciones : List Inscripcion) (reqs : List Requerimiento) :
    (reqs.map (mark inscripciones)).map (·.req) = reqs.map (·.req) := by
  rw [List.map_map]
  apply List.map_congr_left
  intro requerimiento _
  simp

theorem titles_listed (workshop : Workshop) :
    (listed workshop).map (·.req) = workshop.req := by
  simp [listed, Function.comp_def]

end Titles

section Loops

variable (screen : ViewControllerWorkshop)

-- The nested loops, seen from one row.
theorem foldl_applyToReqs_reqs (items : List Inscripcion) :
    (items.foldl applyToReqs screen).reqs = screen.reqs.map (mark items) := by
  let put (requerimiento : Requerimiento) (status : String) : Requerimiento :=
    { requerimiento with status := status }
  let titled (requerimiento : Requerimiento) (inscripcion : Inscripcion) : Bool :=
    inscripcion.wkTitle = requerimiento.req
  have hreqs : (items.foldl applyToReqs screen).reqs = items.foldl (fun reqs inscripcion =>
      reqs.map fun requerimiento => if titled requerimiento inscripcion then
        put requerimiento inscripcion.status else requerimiento) screen.reqs := by
    apply Loop.foldl_project ViewControllerWorkshop.reqs (fun _ => True)
    · simp
    · simp [applyToReqs, reloadTableView, titled, put]
    · trivial
  rw [hreqs, Loop.foldl_map_comm (fun (inscripcion : Inscripcion) requerimiento =>
    if titled requerimiento inscripcion then put requerimiento inscripcion.status
    else requerimiento)]
  apply List.map_congr_left
  intro requerimiento _
  exact Loop.foldl_overwrite_field (·.status) put titled (·.status) (fun _ => rfl)
    (fun _ _ _ => rfl) (fun _ _ _ => rfl) requerimiento items

-- The reload stands inside the loop: without an inscripcion the table is not told.
theorem foldl_applyToReqs_rows (items : List Inscripcion) :
    (items.foldl applyToReqs screen).rows =
      if items = [] then screen.rows else screen.reqs.length := by
  induction items using List.reverseRecOn with
  | nil => rfl
  | append_singleton items item _ =>
      rw [List.foldl_append, List.foldl_cons, List.foldl_nil]
      simp [applyToReqs, reloadTableView, foldl_applyToReqs_reqs]

theorem foldl_listed (items : List String) :
    items.foldl (fun (screen : ViewControllerWorkshop) req =>
      { screen with reqs := screen.reqs ++ [{ req := req }] }) screen =
      { screen with reqs := screen.reqs ++ items.map fun req => { req := req } } := by
  induction items generalizing screen with
  | nil => simp
  | cons item rest ih => simp [ih]

theorem initializeReqObject_eq :
    screen.initializeReqObject = screen.inscripciones.foldl applyToReqs
      { screen with reqs := screen.reqs ++ listed screen.workshop } := by
  rw [initializeReqObject, foldl_listed, listed]

theorem initializeReqObject_reqs :
    screen.initializeReqObject.reqs =
      (screen.reqs ++ listed screen.workshop).map (mark screen.inscripciones) := by
  rw [initializeReqObject_eq, foldl_applyToReqs_reqs]

theorem initializeReqObject_rows :
    screen.initializeReqObject.rows =
      if screen.inscripciones = [] then screen.rows
      else screen.reqs.length + screen.workshop.req.length := by
  rw [initializeReqObject_eq, foldl_applyToReqs_rows]
  simp [listed]

-- One call lists the requirements once more.
theorem initializeReqObject_titles :
    screen.initializeReqObject.reqs.map (·.req) =
      screen.reqs.map (·.req) ++ screen.workshop.req := by
  rw [initializeReqObject_reqs, titles_mark, List.map_append, titles_listed]

end Loops

section FetchCompletion

variable (screen : ViewControllerWorkshop)

-- `isEnrolled` leaves the requirements alone.
theorem isEnrolled_reqs : screen.isEnrolled.reqs = screen.reqs := by
  refine Loop.foldl_frame applyStatus (·.reqs) (fun screen inscripcion => ?_) _ _
  unfold applyStatus
  split_ifs <;> rfl

theorem isEnrolled_rows : screen.isEnrolled.rows = screen.rows := by
  refine Loop.foldl_frame applyStatus (·.rows) (fun screen inscripcion => ?_) _ _
  unfold applyStatus
  split_ifs <;> rfl

theorem fetchCompletion_reqs :
    screen.fetchCompletion.reqs =
      (screen.reqs ++ listed screen.workshop).map (mark screen.inscripciones) := by
  unfold fetchCompletion
  split_ifs <;> simp [initializeReqObject_reqs, isEnrolled_reqs]

theorem fetchCompletion_titles :
    screen.fetchCompletion.reqs.map (·.req) = screen.reqs.map (·.req) ++ screen.workshop.req := by
  rw [fetchCompletion_reqs, titles_mark, List.map_append, titles_listed]

theorem fetchCompletion_rows :
    screen.fetchCompletion.rows =
      if screen.inscripciones = [] then screen.rows
      else screen.reqs.length + screen.workshop.req.length := by
  unfold fetchCompletion
  split_ifs <;> simp_all [initializeReqObject_rows, isEnrolled_reqs, isEnrolled_rows]

end FetchCompletion

section ViewDidLoad

variable (workshop : Workshop) (user : User)

-- A coordinator's screen lists the requirements at once.
theorem viewDidLoad_titles :
    (storyboard workshop user).viewDidLoad.reqs.map (·.req) =
      if user.rol = "Coord" then workshop.req else [] := by
  unfold viewDidLoad
  split_ifs <;> simp_all [reloadTableView, initializeReqObject_titles, storyboard]

end ViewDidLoad

-- With the answer every screen lists them, a coordinator's for the second time.
theorem listedOnce_iff (workshop : Workshop) (user : User) (documents : List Document)
    (screen : ViewControllerWorkshop)
    (hfetch : (storyboard workshop user).viewDidLoad.getEnrollmentStatus (.ok documents) =
      some screen) :
    screen.reqs.map (·.req) = workshop.req ↔ user.rol ≠ "Coord" ∨ workshop.req = [] := by
  obtain ⟨inscripciones, _, rfl⟩ := (getEnrollmentStatus_ok _).mp hfetch
  rw [fetchCompletion_titles]
  have hworkshop : (storyboard workshop user).viewDidLoad.workshop = workshop := by
    simp [storyboard]
  simp only [viewDidLoad_titles, hworkshop]
  by_cases hrol : user.rol = "Coord"
  · simp [hrol]
  · simp [hrol]

private def liderazgo : Workshop :=
  { wkID := "2", title := "Liderazgo", descr := "", req := ["Mis Emociones"], startDate := 6,
    endDate := 9 }

private def persona (rol : String) : User :=
  { nombre := "Gabriela", email := "gaby@tec.mx", matricula := "A07", campus := "MTY", rol := rol }

private def aprobada : Document :=
  ⟨"d1", [("tallerTitle", .string "Mis Emociones"), ("Date", .timestamp ⟨0⟩),
    ("tallerID", .string "1"), ("campusID", .string "MTY"), ("matricula", .string "A07"),
    ("status", .string "Aprobado")]⟩

theorem listedOnce_iff_alumno :
    ∃ screen, (storyboard liderazgo (persona "Alumno")).viewDidLoad.getEnrollmentStatus
        (.ok [aprobada]) = some screen ∧
      (screen.reqs.map (·.req) = liderazgo.req ↔
        (persona "Alumno").rol ≠ "Coord" ∨ liderazgo.req = []) :=
  ⟨_, rfl, listedOnce_iff liderazgo (persona "Alumno") [aprobada] _ rfl⟩

theorem not_listedOnce_coord :
    ¬∀ (workshop : Workshop) (user : User) (documents : List Document)
      (screen : ViewControllerWorkshop), user.rol = "Alumno" ∨ user.rol = "Coord" →
      (storyboard workshop user).viewDidLoad.getEnrollmentStatus (.ok documents) = some screen →
      screen.reqs.map (·.req) = workshop.req := by
  intro h
  have htitles := h liderazgo (persona "Coord") [] _ (by decide) rfl
  exact absurd htitles (by decide)

-- A student's table learns its rows from the loop over the inscripciones or not at all.
theorem seesAllReqs_iff (workshop : Workshop) (user : User) (documents : List Document)
    (screen : ViewControllerWorkshop) (hrol : user.rol = "Alumno")
    (hfetch : (storyboard workshop user).viewDidLoad.firstLayout.getEnrollmentStatus
      (.ok documents) = some screen) :
    screen.rows = workshop.req.length ↔ documents ≠ [] ∨ workshop.req = [] := by
  obtain ⟨inscripciones, hm, rfl⟩ := (getEnrollmentStatus_ok _).mp hfetch
  have hlength := Loop.mapM_eq_some_length hm
  have hcoord : ¬user.rol = "Coord" := by simp [hrol]
  rw [fetchCompletion_rows]
  by_cases hnone : inscripciones = []
  · have hdocuments : documents = [] := by
      rw [hnone, List.length_nil] at hlength
      exact List.length_eq_zero_iff.mp hlength.symm
    simp [hnone, hdocuments, firstLayout, numberOfRowsInSection, viewDidLoad, reloadTableView,
      storyboard, hcoord, eq_comm]
  · have hdocuments : documents ≠ [] := by
      intro hempty
      rw [hempty, List.length_nil] at hlength
      exact hnone (List.length_eq_zero_iff.mp hlength)
    simp [hnone, hdocuments, firstLayout, viewDidLoad, reloadTableView, storyboard, hcoord]

theorem seesAllReqs_iff_aprobada :
    ∃ screen, (storyboard liderazgo (persona "Alumno")).viewDidLoad.firstLayout.getEnrollmentStatus
        (.ok [aprobada]) = some screen ∧
      (screen.rows = liderazgo.req.length ↔ [aprobada] ≠ [] ∨ liderazgo.req = []) :=
  ⟨_, rfl, seesAllReqs_iff liderazgo (persona "Alumno") [aprobada] _ rfl rfl⟩

-- A student without enrolments sees no requirement at all.
theorem not_seesAllReqs_nueva :
    ¬∀ (workshop : Workshop) (user : User) (documents : List Document)
      (screen : ViewControllerWorkshop), user.rol = "Alumno" →
      (storyboard workshop user).viewDidLoad.firstLayout.getEnrollmentStatus (.ok documents) =
        some screen →
      screen.rows = workshop.req.length := by
  intro h
  have hrows := h liderazgo (persona "Alumno") [] _ rfl rfl
  exact absurd hrows (by decide)

end AppPrepanet.ViewControllerWorkshop
