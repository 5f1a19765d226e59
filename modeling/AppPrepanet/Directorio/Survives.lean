import AppPrepanet.Directorio.Screens

namespace AppPrepanet.Directorio

open Firestore

-- What can happen to these screens, whatever they make of it: rows of the top screen are asked
-- for and touched, and the answers come to the queries.
def Enabled (state : State) : Event → Prop
  | .perfilAlum _ | .campus _ => state.top = none
  | .campusAnswer index result => ∃ screen, state.campuses[index]? = some screen ∧
      screen.answer = none ∧ Readable TableViewControllerCampus.nombreCampusOf result
  | .campusCell row _ | .selectCampus row => ∃ index screen, state.top = some (.campus index) ∧
      state.campuses[index]? = some screen ∧ row < screen.view.rows
  | .alumnosAnswer index result => ∃ screen, state.alumnos[index]? = some screen ∧
      screen.answer = none ∧ AnswersTo (alumnosQuery screen.view) result
  | .alumnosCell row _ | .selectAlumno row => ∃ index screen, state.top = some (.alumnos index) ∧
      state.alumnos[index]? = some screen ∧ row < screen.view.rows
  | .coordAnswer index result => ∃ screen, state.perfiles[index]? = some screen ∧
      screen.answers.coord = none ∧ AnswersTo (coordQuery screen.view) result
  | .enrollmentAnswer index result => ∃ screen, state.perfiles[index]? = some screen ∧
      screen.answers.enrollment = none ∧ AnswersTo (enrollmentQuery screen.view) result ∧
        Readable ViewControllerPerfil.inscripcionOf result
  | .perfilCell row _ => ∃ index screen, state.top = some (.perfil index) ∧
      state.perfiles[index]? = some screen ∧ row < screen.view.rows
  | .dismiss => state.top.isSome = true

section Screens

theorem getCampus_isSome_iff (screen : TableViewControllerCampus) (result : QueryResult) :
    (screen.getCampus result).isSome = true ↔
      Readable TableViewControllerCampus.nombreCampusOf result :=
  isSome_iff_readable (fun _ => rfl) (fun _ _ => screen.getCampus_ok) result

theorem getEnrollmentStatus_isSome_iff (screen : VistaPerfil) (result : QueryResult) :
    (screen.getEnrollmentStatus result).isSome = true ↔
      Readable ViewControllerPerfil.inscripcionOf result := by
  rw [VistaPerfil.getEnrollmentStatus, Option.isSome_map]
  exact isSome_iff_readable (fun _ => rfl)
    (fun _ _ => screen.toViewControllerPerfil.getEnrollmentStatus_ok) result

variable {row : ℕ}

theorem campusCell_isSome {screen : CampusScreen} (h : screen.Shows)
    (hrow : row < screen.view.rows) (cell : TableViewCampusCell) :
    (screen.view.cellForRowAt cell row).isSome = true := by
  rw [h.rows] at hrow
  unfold TableViewControllerCampus.cellForRowAt
  split_ifs <;> simp [hrow]

theorem alumnosCell_isSome {campuses : List CampusScreen} {screen : AlumnosScreen}
    (h : screen.Shows campuses) (hrow : row < screen.view.rows) (cell : TableViewAlumnoCell) :
    (screen.view.cellForRowAt cell row).isSome = true := by
  rw [h.rows] at hrow
  unfold TableViewControllerAlumnos.cellForRowAt
  split_ifs <;> simp [hrow]

theorem perfilCell_isSome {alumnos : List AlumnosScreen} {screen : PerfilScreen}
    (h : screen.Shows alumnos) (hrow : row < screen.view.rows) (cell : TableViewPerfilCell) :
    (screen.view.toViewControllerPerfil.cellForRowAt cell row).isSome = true := by
  have hrows : screen.view.rows = screen.view.inscripciones.length := by
    rw [h.view]
    rfl
  rw [hrows] at hrow
  simp [ViewControllerPerfil.cellForRowAt, hrow]

end Screens

theorem Step.enabled {state next : State} {event : Event} (hstep : Step state event next) :
    Enabled state event := by
  cases hstep with
  | perfilAlum hclosed _ | campus hclosed _ => exact hclosed
  | @campusAnswer index result screen view hscreen hanswer hview =>
      have hsome := Option.isSome_iff_exists.mpr ⟨_, hview⟩
      exact ⟨screen, hscreen, hanswer, (getCampus_isSome_iff screen.view result).mp hsome⟩
  | campusCell htop hscreen hrow _ | selectCampus htop hscreen hrow _ =>
      exact ⟨_, _, htop, hscreen, hrow⟩
  | alumnosAnswer hscreen hanswer hquery => exact ⟨_, hscreen, hanswer, hquery⟩
  | alumnosCell htop hscreen hrow _ | selectAlumno htop hscreen hrow _ =>
      exact ⟨_, _, htop, hscreen, hrow⟩
  | coordAnswer hscreen hanswer hquery => exact ⟨_, hscreen, hanswer, hquery⟩
  | @enrollmentAnswer index result screen view hscreen hanswer hquery hview =>
      have hsome := Option.isSome_iff_exists.mpr ⟨_, hview⟩
      have hreadable := (getEnrollmentStatus_isSome_iff screen.view result).mp hsome
      exact ⟨screen, hscreen, hanswer, hquery, hreadable⟩
  | perfilCell htop hscreen hrow _ => exact ⟨_, _, htop, hscreen, hrow⟩
  | dismiss htop => simp [Enabled, htop]

-- Each table is asked for rows that its array has, since it has seen the whole array.
theorem Enabled.step_isSome {state : State} (h : Shows state) {event : Event}
    (henabled : Enabled state event) : (step state event).isSome = true := by
  cases event with
  | perfilAlum user | campus user =>
      have hclosed : state.top = none := henabled
      simp [step, hclosed, ViewControllerAlumnos.prepare, ViewControllerVistaInicial.prepare]
  | campusAnswer index result =>
      obtain ⟨screen, hscreen, hanswer, hreadable⟩ := henabled
      have hsome := (getCampus_isSome_iff screen.view result).mpr hreadable
      obtain ⟨view, hview⟩ := Option.isSome_iff_exists.mp hsome
      simp [step, hscreen, hanswer, hview]
  | campusCell row cell =>
      obtain ⟨index, screen, htop, hscreen, hrow⟩ := henabled
      have hshows := h.campuses screen (List.mem_of_getElem? hscreen)
      simp [step, htop, hscreen, hrow, campusCell_isSome hshows hrow cell]
  | selectCampus row =>
      obtain ⟨index, screen, htop, hscreen, hrow⟩ := henabled
      have hlt := (h.campuses screen (List.mem_of_getElem? hscreen)).rows ▸ hrow
      simp [step, htop, hscreen, hrow, TableViewControllerCampus.prepare, hlt]
  | alumnosAnswer index result =>
      obtain ⟨screen, hscreen, hanswer, hquery⟩ := henabled
      simp [step, hscreen, hanswer, hquery]
  | alumnosCell row cell =>
      obtain ⟨index, screen, htop, hscreen, hrow⟩ := henabled
      have hshows := h.alumnos screen (List.mem_of_getElem? hscreen)
      simp [step, htop, hscreen, hrow, alumnosCell_isSome hshows hrow cell]
  | selectAlumno row =>
      obtain ⟨index, screen, htop, hscreen, hrow⟩ := henabled
      have hlt := (h.alumnos screen (List.mem_of_getElem? hscreen)).rows ▸ hrow
      simp [step, htop, hscreen, hrow, TableViewControllerAlumnos.prepare, hlt]
  | coordAnswer index result =>
      obtain ⟨screen, hscreen, hanswer, hquery⟩ := henabled
      simp [step, hscreen, hanswer, hquery]
  | enrollmentAnswer index result =>
      obtain ⟨screen, hscreen, hanswer, hquery, hreadable⟩ := henabled
      have hsome := (getEnrollmentStatus_isSome_iff screen.view result).mpr hreadable
      obtain ⟨view, hview⟩ := Option.isSome_iff_exists.mp hsome
      simp [step, hscreen, hanswer, hquery, hview]
  | perfilCell row cell =>
      obtain ⟨index, screen, htop, hscreen, hrow⟩ := henabled
      have hshows := h.perfiles screen (List.mem_of_getElem? hscreen)
      simp [step, htop, hscreen, hrow, perfilCell_isSome hshows hrow cell]
  | dismiss =>
      have htop : state.top.isSome = true := henabled
      simp [step, htop]

theorem step_isSome_iff {events : List Event} {final : State}
    (hrun : Transition.run step start events = some final) (event : Event) :
    (step final event).isSome = true ↔ Enabled final event := by
  constructor
  · intro hsome
    obtain ⟨next, hnext⟩ := Option.isSome_iff_exists.mp hsome
    exact (Step.of_step hnext).enabled
  · intro henabled
    exact henabled.step_isSome (shows_run hrun)

end AppPrepanet.Directorio
