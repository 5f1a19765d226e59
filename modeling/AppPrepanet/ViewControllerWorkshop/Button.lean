import AppPrepanet.ViewControllerWorkshop

namespace AppPrepanet.ViewControllerWorkshop

-- The statuses for which `isEnrolled` disables the button.
def Handled (status : String) : Prop :=
  status = "En Proceso" ∨ status = "Inscrito" ∨ status = "Aprobado"

instance : DecidablePred Handled := fun status => by unfold Handled; infer_instance

-- The inscripciones show that the workshop is already taken.
def Enrolled (workshop : Workshop) (inscripciones : List Inscripcion) : Prop :=
  ∃ inscripcion ∈ inscripciones, inscripcion.wkID = workshop.wkID ∧ Handled inscripcion.status

-- The test of `canEnroll`: there is no requirement, or an approved workshop whose
-- identifier reads as their number.
def CountApproved (workshop : Workshop) (inscripciones : List Inscripcion) : Prop :=
  workshop.req = [] ∨ ∃ inscripcion ∈ inscripciones,
    some (workshop.req.length : Int) = Swift.int inscripcion.wkID ∧ inscripcion.status = "Aprobado"

instance (workshop : Workshop) (inscripciones : List Inscripcion) :
    Decidable (Enrolled workshop inscripciones) := by unfold Enrolled; infer_instance

instance (workshop : Workshop) (inscripciones : List Inscripcion) :
    Decidable (CountApproved workshop inscripciones) := by unfold CountApproved; infer_instance

section Frame

variable (screen : ViewControllerWorkshop) (inscripcion : Inscripcion)

@[simp] theorem applyStatus_workshop :
    (screen.applyStatus inscripcion).workshop = screen.workshop := by
  unfold applyStatus
  split_ifs <;> rfl

@[simp] theorem applyStatus_user : (screen.applyStatus inscripcion).user = screen.user := by
  unfold applyStatus
  split_ifs <;> rfl

@[simp] theorem applyStatus_inscripciones :
    (screen.applyStatus inscripcion).inscripciones = screen.inscripciones := by
  unfold applyStatus
  split_ifs <;> rfl

@[simp] theorem applyStatus_isHidden :
    (screen.applyStatus inscripcion).btInscripcion.isHidden = screen.btInscripcion.isHidden := by
  unfold applyStatus
  split_ifs <;> rfl

@[simp] theorem isEnrolled_workshop : screen.isEnrolled.workshop = screen.workshop :=
  Loop.foldl_frame applyStatus (·.workshop) applyStatus_workshop _ _

@[simp] theorem isEnrolled_user : screen.isEnrolled.user = screen.user :=
  Loop.foldl_frame applyStatus (·.user) applyStatus_user _ _

@[simp] theorem isEnrolled_inscripciones :
    screen.isEnrolled.inscripciones = screen.inscripciones :=
  Loop.foldl_frame applyStatus (·.inscripciones) applyStatus_inscripciones _ _

@[simp] theorem isEnrolled_isHidden :
    screen.isEnrolled.btInscripcion.isHidden = screen.btInscripcion.isHidden :=
  Loop.foldl_frame applyStatus (·.btInscripcion.isHidden) applyStatus_isHidden _ _

-- `initializeReqObject` works on `reqs` and on the table of requirements only.
theorem initializeReqObject_frame {γ : Type*} (view : ViewControllerWorkshop → γ)
    (hview : ∀ (screen : ViewControllerWorkshop) reqs rows,
      view { screen with reqs := reqs, rows := rows } = view screen) :
    view screen.initializeReqObject = view screen := by
  unfold initializeReqObject
  rw [Loop.foldl_frame applyToReqs view (fun screen _ => hview screen _ _)]
  exact Loop.foldl_frame _ view (fun screen _ => hview screen _ _) _ _

@[simp] theorem initializeReqObject_workshop :
    screen.initializeReqObject.workshop = screen.workshop :=
  screen.initializeReqObject_frame (·.workshop) fun _ _ _ => rfl

@[simp] theorem initializeReqObject_user : screen.initializeReqObject.user = screen.user :=
  screen.initializeReqObject_frame (·.user) fun _ _ _ => rfl

@[simp] theorem initializeReqObject_inscripciones :
    screen.initializeReqObject.inscripciones = screen.inscripciones :=
  screen.initializeReqObject_frame (·.inscripciones) fun _ _ _ => rfl

@[simp] theorem initializeReqObject_btInscripcion :
    screen.initializeReqObject.btInscripcion = screen.btInscripcion :=
  screen.initializeReqObject_frame (·.btInscripcion) fun _ _ _ => rfl

end Frame

section Loops

theorem canEnroll_iff (screen : ViewControllerWorkshop) :
    screen.canEnroll = true ↔ CountApproved screen.workshop screen.inscripciones := by
  unfold canEnroll CountApproved
  split_ifs with hreq
  · simp [List.length_eq_zero_iff.mp hreq]
  · have hne : screen.workshop.req ≠ [] := fun h => hreq (by simp [h])
    have hloop := Loop.foldl_raise (fun inscripcion : Inscripcion =>
      decide (some (screen.workshop.req.length : Int) = Swift.int inscripcion.wkID ∧
        inscripcion.status = "Aprobado")) false screen.inscripciones
    simp only [decide_eq_true_eq] at hloop
    rw [hloop]
    simp [hne]

theorem applyStatus_isEnabled (screen : ViewControllerWorkshop) (inscripcion : Inscripcion) :
    (screen.applyStatus inscripcion).btInscripcion.isEnabled =
      if inscripcion.wkID = screen.workshop.wkID ∧ Handled inscripcion.status then false
      else screen.btInscripcion.isEnabled := by
  unfold applyStatus Handled
  by_cases hid : inscripcion.wkID = screen.workshop.wkID
  · by_cases hp : inscripcion.status = "En Proceso"
    · simp [hid, hp]
    · by_cases hi : inscripcion.status = "Inscrito"
      · simp [hid, hi]
      · by_cases ha : inscripcion.status = "Aprobado" <;> simp [hid, hp, hi, ha]
  · simp [hid]

-- The loop of `isEnrolled` only ever disables the button.
theorem foldl_applyStatus_isEnabled (screen : ViewControllerWorkshop) (items : List Inscripcion) :
    (items.foldl applyStatus screen).btInscripcion.isEnabled = true ↔
      screen.btInscripcion.isEnabled = true ∧ ¬Enrolled screen.workshop items := by
  induction items generalizing screen with
  | nil => simp [Enrolled]
  | cons item rest ih =>
      rw [List.foldl_cons, ih, applyStatus_isEnabled, applyStatus_workshop]
      by_cases h : item.wkID = screen.workshop.wkID ∧ Handled item.status
      · simp [Enrolled, h]
      · simp [Enrolled, h]

theorem isEnrolled_isEnabled (screen : ViewControllerWorkshop) :
    screen.isEnrolled.btInscripcion.isEnabled = true ↔
      screen.btInscripcion.isEnabled = true ∧
        ¬Enrolled screen.workshop screen.inscripciones :=
  foldl_applyStatus_isEnabled screen screen.inscripciones

end Loops

section ViewDidLoad

variable (screen : ViewControllerWorkshop)

@[simp] theorem viewDidLoad_workshop : screen.viewDidLoad.workshop = screen.workshop := by
  by_cases hrol : screen.user.rol = "Coord" <;> simp [viewDidLoad, reloadTableView, hrol]

@[simp] theorem viewDidLoad_user : screen.viewDidLoad.user = screen.user := by
  by_cases hrol : screen.user.rol = "Coord" <;> simp [viewDidLoad, reloadTableView, hrol]

@[simp] theorem viewDidLoad_inscripciones :
    screen.viewDidLoad.inscripciones = screen.inscripciones := by
  by_cases hrol : screen.user.rol = "Coord" <;> simp [viewDidLoad, reloadTableView, hrol]

-- The role check of the screen: the button is hidden from a coordinator.
theorem viewDidLoad_isHidden (hrol : screen.user.rol = "Coord") :
    screen.viewDidLoad.btInscripcion.isHidden = true := by
  simp [viewDidLoad, reloadTableView, hrol]

-- Everybody else keeps it as the storyboard has it.
theorem viewDidLoad_isHidden_of_ne (hrol : screen.user.rol ≠ "Coord") :
    screen.viewDidLoad.btInscripcion.isHidden = screen.btInscripcion.isHidden := by
  simp [viewDidLoad, reloadTableView, hrol]

end ViewDidLoad

section FetchCompletion

variable (screen : ViewControllerWorkshop)

@[simp] theorem fetchCompletion_workshop :
    screen.fetchCompletion.workshop = screen.workshop := by
  unfold fetchCompletion
  split_ifs <;> simp

@[simp] theorem fetchCompletion_user : screen.fetchCompletion.user = screen.user := by
  unfold fetchCompletion
  split_ifs <;> simp

@[simp] theorem fetchCompletion_inscripciones :
    screen.fetchCompletion.inscripciones = screen.inscripciones := by
  unfold fetchCompletion
  split_ifs <;> simp

@[simp] theorem fetchCompletion_isHidden :
    screen.fetchCompletion.btInscripcion.isHidden = screen.btInscripcion.isHidden := by
  unfold fetchCompletion
  split_ifs <;> simp

-- What the callback does with an answer whose documents all decode.
theorem getEnrollmentStatus_ok {documents : List Firestore.Document}
    {view : ViewControllerWorkshop} :
    screen.getEnrollmentStatus (.ok documents) = some view ↔
      ∃ inscripciones, documents.mapM inscripcionOf = some inscripciones ∧
        view = fetchCompletion
          { screen with inscripciones := screen.inscripciones ++ inscripciones } := by
  simp only [getEnrollmentStatus, Loop.foldlM_append, Option.bind_eq_bind, Option.bind_eq_some_iff,
    Option.map_eq_some_iff, Option.pure_def, Option.some.injEq]
  constructor
  · rintro ⟨_, ⟨inscripciones, h, rfl⟩, rfl⟩
    exact ⟨inscripciones, h, rfl⟩
  · rintro ⟨inscripciones, h, rfl⟩
    exact ⟨_, ⟨inscripciones, h, rfl⟩, rfl⟩

-- The two guards of the button, after the answer of the fetch.
theorem fetchCompletion_enabled :
    screen.fetchCompletion.btInscripcion.isEnabled = true ↔
      screen.canEnroll = true ∧ ¬Enrolled screen.workshop screen.inscripciones := by
  unfold fetchCompletion
  split_ifs with h <;> simp [isEnrolled_isEnabled, h]

-- Together: the button is enabled after the answer exactly when the count test
-- passes and the workshop is not taken yet.
theorem fetchCompletion_isEnabled_iff :
    screen.fetchCompletion.btInscripcion.isEnabled = true ↔
      CountApproved screen.workshop screen.inscripciones ∧
        ¬Enrolled screen.workshop screen.inscripciones := by
  rw [fetchCompletion_enabled, canEnroll_iff]

end FetchCompletion

end AppPrepanet.ViewControllerWorkshop
