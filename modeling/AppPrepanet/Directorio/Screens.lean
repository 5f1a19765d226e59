import AppPrepanet.Directorio
import AppPrepanet.Growth
import AppPrepanet.Positions

namespace AppPrepanet.Directorio

open Firestore Growth

-- What an answer brings to the two tables.
def nombresCampus : Option QueryResult → List String
  | some (.ok documents) => (documents.mapM TableViewControllerCampus.nombreCampusOf).getD []
  | _ => []

def alumnosDe : Option QueryResult → List User
  | some (.ok documents) => documents.map userOf
  | _ => []

-- What a screen shows is told by the answers it has got, and its table has that many rows.
structure CampusScreen.Shows (screen : CampusScreen) : Prop where
  campusArr : screen.view.campusArr = nombresCampus screen.answer
  rows : screen.view.rows = screen.view.campusArr.length

structure AlumnosScreen.Shows (campuses : List CampusScreen) (screen : AlumnosScreen) : Prop where
  AlumnosArr : screen.view.AlumnosArr = alumnosDe screen.answer
  rows : screen.view.rows = screen.view.AlumnosArr.length
  answered : ∀ result, screen.answer = some result → AnswersTo (alumnosQuery screen.view) result
  opener : ∃ campus, campuses[screen.opener]? = some campus ∧
    screen.view.campus ∈ campus.view.campusArr

structure PerfilScreen.Shows (alumnos : List AlumnosScreen) (screen : PerfilScreen) : Prop where
  view : screen.view = VistaPerfil.shows screen.view.user screen.answers
  coord : ∀ result, screen.answers.coord = some result → AnswersTo (coordQuery screen.view) result
  enrollment : ∀ result, screen.answers.enrollment = some result →
    AnswersTo (enrollmentQuery screen.view) result
  opener : ∀ index, screen.opener = some index → ∃ list, alumnos[index]? = some list ∧
    screen.view.user ∈ list.view.AlumnosArr

structure Shows (state : State) : Prop where
  campuses : ∀ screen ∈ state.campuses, screen.Shows
  alumnos : ∀ screen ∈ state.alumnos, screen.Shows state.campuses
  perfiles : ∀ screen ∈ state.perfiles, screen.Shows state.alumnos

-- Rows are never taken away.
def CampusScreen.Keeps (old new : CampusScreen) : Prop :=
  old.view.campusArr ⊆ new.view.campusArr

def AlumnosScreen.Keeps (old new : AlumnosScreen) : Prop :=
  old.view.AlumnosArr ⊆ new.view.AlumnosArr

instance : Std.Refl CampusScreen.Keeps := ⟨fun _ => List.Subset.refl _⟩

instance : Std.Refl AlumnosScreen.Keeps := ⟨fun _ => List.Subset.refl _⟩

section Documents

variable {document : Document} {field value : String}

theorem stringOrEmpty_of_fieldIs (h : document.fieldIs field value = true) :
    document.stringOrEmpty field = value := by
  have hstored := document.fieldIs_iff.mp h
  simp [Document.stringOrEmpty, hstored]

theorem AnswersTo.fieldIs {conditions : List (String × String)} {documents : List Document}
    (h : AnswersTo conditions (.ok documents)) (hd : document ∈ documents)
    (hcondition : (field, value) ∈ conditions) : document.fieldIs field value = true :=
  h document hd (field, value) hcondition

end Documents

section Screens

variable {campuses later : List CampusScreen} {alumnos : List AlumnosScreen}

theorem CampusScreen.Shows.campusAnswer {screen : CampusScreen} (h : screen.Shows)
    (hanswer : screen.answer = none) {result : QueryResult} {view : TableViewControllerCampus}
    (hview : screen.view.getCampus result = some view) :
    CampusScreen.Shows { view := view, answer := some result } := by
  have hempty : screen.view.campusArr = [] := by
    rw [h.campusArr, hanswer]
    rfl
  cases result with
  | error err =>
      cases hview
      exact ⟨hempty, rfl⟩
  | ok documents =>
      obtain ⟨campusArr, hm, rfl⟩ := screen.view.getCampus_ok.mp hview
      refine ⟨?_, rfl⟩
      show screen.view.campusArr ++ campusArr = nombresCampus (some (.ok documents))
      rw [hempty, nombresCampus, hm, List.nil_append, Option.getD_some]

theorem AlumnosScreen.Shows.mono {screen : AlumnosScreen} (h : screen.Shows campuses)
    (hlater : Extends CampusScreen.Keeps campuses later) : screen.Shows later := by
  obtain ⟨campus, hcampus, hmem⟩ := h.opener
  obtain ⟨found, hfound, hkeeps⟩ := hlater _ campus hcampus
  exact ⟨h.AlumnosArr, h.rows, h.answered, found, hfound, hkeeps hmem⟩

theorem AlumnosScreen.Shows.alumnosAnswer {screen : AlumnosScreen} (h : screen.Shows campuses)
    (hanswer : screen.answer = none) {result : QueryResult}
    (hquery : AnswersTo (alumnosQuery screen.view) result) :
    AlumnosScreen.Shows campuses
      { screen with view := screen.view.getAlumnos result, answer := some result } := by
  have hempty : screen.view.AlumnosArr = [] := by
    rw [h.AlumnosArr, hanswer]
    rfl
  have hcampus := screen.view.getAlumnos_campus result
  refine ⟨?_, screen.view.getAlumnos_rows result, fun found hfound => ?_, ?_⟩
  · rw [screen.view.getAlumnos_AlumnosArr, hempty, List.nil_append]
    cases result <;> rfl
  · cases hfound
    rw [alumnosQuery, hcampus]
    exact hquery
  · rw [hcampus]
    exact h.opener

-- Every user of the list is a student of its campus.
theorem AlumnosScreen.Shows.exists_document {screen : AlumnosScreen} (h : screen.Shows campuses)
    {user : User} (hmem : user ∈ screen.view.AlumnosArr) : ∃ documents usuario,
      screen.answer = some (.ok documents) ∧ usuario ∈ documents ∧ user = userOf usuario ∧
        usuario.fieldIs "campus" screen.view.campus = true ∧
        usuario.fieldIs "rol" "Alumno" = true := by
  rw [h.AlumnosArr] at hmem
  match hanswer : screen.answer with
  | none => simp [hanswer, alumnosDe] at hmem
  | some (.error err) => simp [hanswer, alumnosDe] at hmem
  | some (.ok documents) =>
      rw [hanswer] at hmem
      obtain ⟨usuario, hu, rfl⟩ := List.mem_map.mp hmem
      have hquery := h.answered _ hanswer
      refine ⟨documents, usuario, rfl, hu, rfl, hquery.fieldIs hu ?_, hquery.fieldIs hu ?_⟩
      · simp [alumnosQuery]
      · simp [alumnosQuery]

theorem PerfilScreen.Shows.mono {screen : PerfilScreen} (h : screen.Shows alumnos)
    {new : List AlumnosScreen} (hnew : Extends AlumnosScreen.Keeps alumnos new) :
    screen.Shows new := by
  refine ⟨h.view, h.coord, h.enrollment, fun index hindex => ?_⟩
  obtain ⟨list, hlist, hmem⟩ := h.opener index hindex
  obtain ⟨found, hfound, hkeeps⟩ := hnew index list hlist
  exact ⟨found, hfound, hkeeps hmem⟩

-- The answers change neither the user nor what the queries ask for.
theorem PerfilScreen.Shows.answer {screen new : PerfilScreen} (h : screen.Shows alumnos)
    (hopener : new.opener = screen.opener)
    (hview : new.view = VistaPerfil.shows screen.view.user new.answers)
    (hcoord : ∀ result, new.answers.coord = some result →
      AnswersTo (coordQuery screen.view) result)
    (henrollment : ∀ result, new.answers.enrollment = some result →
      AnswersTo (enrollmentQuery screen.view) result) : new.Shows alumnos := by
  have huser : new.view.user = screen.view.user := by rw [hview, VistaPerfil.shows_user]
  have hcampus : new.view.campus = screen.view.campus := by
    rw [hview, h.view]
    simp
  refine ⟨by rw [huser, hview], fun result hresult => ?_, fun result hresult => ?_,
    fun index hindex => ?_⟩
  · rw [coordQuery, hcampus]
    exact hcoord result hresult
  · rw [enrollmentQuery, huser]
    exact henrollment result hresult
  · rw [huser]
    exact h.opener index (hopener ▸ hindex)

end Screens

section Step

variable {state next : State} {event : Event}

theorem Shows.setCampus (h : Shows state) {index : ℕ} {old new : CampusScreen}
    (hold : state.campuses[index]? = some old) (hkeeps : old.Keeps new) (hnew : new.Shows) :
    Shows (state.setCampus index new) where
  campuses := Positions.forall_mem_set h.campuses hnew
  alumnos := fun screen hs => (h.alumnos screen hs).mono (.set hold hkeeps)
  perfiles := h.perfiles

theorem Shows.setAlumnos (h : Shows state) {index : ℕ} {old new : AlumnosScreen}
    (hold : state.alumnos[index]? = some old) (hkeeps : old.Keeps new)
    (hnew : new.Shows state.campuses) : Shows (state.setAlumnos index new) where
  campuses := h.campuses
  alumnos := Positions.forall_mem_set h.alumnos hnew
  perfiles := fun screen hs => (h.perfiles screen hs).mono (.set hold hkeeps)

theorem Shows.setPerfil (h : Shows state) {index : ℕ} {new : PerfilScreen}
    (hnew : new.Shows state.alumnos) : Shows (state.setPerfil index new) where
  campuses := h.campuses
  alumnos := h.alumnos
  perfiles := Positions.forall_mem_set h.perfiles hnew

theorem Shows.addPerfil (h : Shows state) {new : PerfilScreen} (hnew : new.Shows state.alumnos) :
    Shows (state.addPerfil new) where
  campuses := h.campuses
  alumnos := h.alumnos
  perfiles := Positions.forall_mem_concat h.perfiles hnew

-- What a row of the list of students hands over.
theorem shows_selectAlumno (h : Shows state) {index row : ℕ} {screen : AlumnosScreen}
    (hscreen : state.alumnos[index]? = some screen) {handed : VistaPerfil}
    (hprepare : screen.view.prepare row = some handed) :
    PerfilScreen.Shows state.alumnos { opener := some index, view := handed.viewDidLoad } := by
  obtain ⟨user, huser, hhanded⟩ := Option.bind_eq_some_iff.mp hprepare
  cases hhanded
  have hmem := List.mem_of_getElem? huser
  have hlist := h.alumnos screen (List.mem_of_getElem? hscreen)
  obtain ⟨_, usuario, _, _, rfl, _, hrol⟩ := hlist.exists_document hmem
  have hload := VistaPerfil.viewDidLoad_eq_shows
    { user := userOf usuario, nombre := (userOf usuario).nombre,
      campus := (userOf usuario).campus } rfl rfl rfl (.inr (stringOrEmpty_of_fieldIs hrol)) rfl
  rw [hload]
  refine ⟨rfl, by simp, by simp, fun other hother => ?_⟩
  cases hother
  exact ⟨screen, hscreen, hmem⟩

theorem shows_perfilAlum {alumnos : List AlumnosScreen} {user : User} {handed : VistaPerfil}
    (hprepare : (ViewControllerAlumnos.home user).prepare .perfilAlum = .perfil handed) :
    PerfilScreen.Shows alumnos { opener := none, view := handed.viewDidLoad } := by
  rw [ViewControllerAlumnos.home_perfilAlum] at hprepare
  cases hprepare
  have hload := VistaPerfil.viewDidLoad_eq_shows
    { user := user, nombre := user.nombre, campus := user.campus,
      matricula := some user.matricula } rfl rfl rfl (.inl rfl) rfl
  rw [hload]
  exact ⟨rfl, by simp, by simp, by simp⟩

theorem Shows.step (h : Shows state) (hstep : Step state event next) : Shows next := by
  cases hstep with
  | perfilAlum _ hprepare => exact h.addPerfil (shows_perfilAlum hprepare)
  | campus _ hprepare =>
      cases hprepare
      refine ⟨Positions.forall_mem_concat h.campuses ⟨rfl, rfl⟩, fun screen hs => ?_, h.perfiles⟩
      exact (h.alumnos screen hs).mono (.concat _ _)
  | @campusAnswer index result screen view hscreen hanswer hview =>
      have hold := h.campuses screen (List.mem_of_getElem? hscreen)
      refine h.setCampus hscreen ?_ (hold.campusAnswer hanswer hview)
      have hempty : screen.view.campusArr = [] := by
        rw [hold.campusArr, hanswer]
        rfl
      rw [CampusScreen.Keeps, hempty]
      exact List.nil_subset _
  | @selectCampus index row screen handed htop hscreen hrow hprepare =>
      obtain ⟨campus, hcampus, rfl⟩ := Option.map_eq_some_iff.mp hprepare
      have hnew : AlumnosScreen.Shows state.campuses
          { opener := index, view := { campus := campus } } :=
        ⟨rfl, rfl, by simp, screen, hscreen, List.mem_of_getElem? hcampus⟩
      refine ⟨h.campuses, Positions.forall_mem_concat h.alumnos hnew, fun perfil hp => ?_⟩
      exact (h.perfiles perfil hp).mono (.concat _ _)
  | @alumnosAnswer index result screen hscreen hanswer hquery =>
      have hold := h.alumnos screen (List.mem_of_getElem? hscreen)
      refine h.setAlumnos hscreen ?_ (hold.alumnosAnswer hanswer hquery)
      rw [AlumnosScreen.Keeps, hold.AlumnosArr, hanswer]
      exact List.nil_subset _
  | selectAlumno htop hscreen hrow hprepare =>
      exact h.addPerfil (shows_selectAlumno h hscreen hprepare)
  | @coordAnswer index result screen hscreen hanswer hquery =>
      have hold := h.perfiles screen (List.mem_of_getElem? hscreen)
      apply h.setPerfil
      refine hold.answer ?_ ?_ ?_ ?_
      · rfl
      · show screen.view.getAlumno result = _
        rw [hold.view, VistaPerfil.getAlumno_shows hanswer, VistaPerfil.shows_user]
      · intro found hfound
        cases hfound
        exact hquery
      · exact hold.enrollment
  | @enrollmentAnswer index result screen view hscreen hanswer hquery hview =>
      have hold := h.perfiles screen (List.mem_of_getElem? hscreen)
      rw [hold.view] at hview
      apply h.setPerfil
      refine hold.answer ?_ ?_ ?_ ?_
      · rfl
      · exact VistaPerfil.getEnrollmentStatus_shows hanswer hview
      · exact hold.coord
      · intro found hfound
        cases hfound
        exact hquery
  | campusCell _ _ _ _ | alumnosCell _ _ _ _ | perfilCell _ _ _ _ => exact h
  | dismiss _ => exact ⟨h.campuses, h.alumnos, h.perfiles⟩

end Step

theorem shows_run {events : List Event} {final : State}
    (hrun : Transition.run step start events = some final) : Shows final := by
  have hinv : ∀ state event next, Shows state → step state event = some next → Shows next :=
    fun _ _ _ h hstep => Shows.step h (Step.of_step hstep)
  refine Transition.run_invariant hinv ⟨?_, ?_, ?_⟩ hrun <;> simp [start]

end AppPrepanet.Directorio
