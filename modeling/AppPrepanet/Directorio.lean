import AppPrepanet.Inicio
import AppPrepanet.Transition

namespace AppPrepanet.Directorio

open Firestore

-- The screens of campuses, of students and of profiles. Screens are named in the order they
-- were opened; their queries may be answered after they have been closed. `opener` is the
-- screen that a screen was opened from, if it is not a home screen.
structure CampusScreen where
  view : TableViewControllerCampus
  answer : Option QueryResult := none
deriving DecidableEq

structure AlumnosScreen where
  opener : ℕ
  view : TableViewControllerAlumnos
  answer : Option QueryResult := none
deriving DecidableEq

structure PerfilScreen where
  opener : Option ℕ
  view : VistaPerfil
  answers : VistaPerfil.Answers := {}
deriving DecidableEq

-- The screen on top of all others.
inductive Top where
  | campus (index : ℕ)
  | alumnos (index : ℕ)
  | perfil (index : ℕ)
deriving DecidableEq

structure State where
  campuses : List CampusScreen
  alumnos : List AlumnosScreen
  perfiles : List PerfilScreen
  top : Option Top
deriving DecidableEq

inductive Event where
  | perfilAlum (user : User)
  | campus (user : User)
  | campusAnswer (screen : ℕ) (result : QueryResult)
  | campusCell (row : ℕ) (cell : TableViewCampusCell)
  | selectCampus (row : ℕ)
  | alumnosAnswer (screen : ℕ) (result : QueryResult)
  | alumnosCell (row : ℕ) (cell : TableViewAlumnoCell)
  | selectAlumno (row : ℕ)
  | coordAnswer (screen : ℕ) (result : QueryResult)
  | enrollmentAnswer (screen : ℕ) (result : QueryResult)
  | perfilCell (row : ℕ) (cell : TableViewPerfilCell)
  | dismiss
deriving DecidableEq

def start : State where
  campuses := []
  alumnos := []
  perfiles := []
  top := none

namespace State

def addCampus (state : State) (screen : CampusScreen) : State :=
  { state with
    campuses := state.campuses ++ [screen]
    top := some (.campus state.campuses.length) }

def setCampus (state : State) (index : ℕ) (screen : CampusScreen) : State :=
  { state with campuses := state.campuses.set index screen }

def addAlumnos (state : State) (screen : AlumnosScreen) : State :=
  { state with
    alumnos := state.alumnos ++ [screen]
    top := some (.alumnos state.alumnos.length) }

def setAlumnos (state : State) (index : ℕ) (screen : AlumnosScreen) : State :=
  { state with alumnos := state.alumnos.set index screen }

def addPerfil (state : State) (screen : PerfilScreen) : State :=
  { state with
    perfiles := state.perfiles ++ [screen]
    top := some (.perfil state.perfiles.length) }

def setPerfil (state : State) (index : ℕ) (screen : PerfilScreen) : State :=
  { state with perfiles := state.perfiles.set index screen }

-- What is on top once the top screen is dismissed.
def below (state : State) : Top → Option Top
  | .campus _ => none
  | .alumnos index => state.alumnos[index]?.map fun screen => .campus screen.opener
  | .perfil index => (state.perfiles[index]?.bind (·.opener)).map .alumnos

end State

-- Firestore answers a query with documents that meet all its conditions `field = value`.
def AnswersTo (conditions : List (String × String)) : QueryResult → Prop
  | .ok documents => ∀ document ∈ documents, ∀ condition ∈ conditions,
      document.fieldIs condition.1 condition.2 = true
  | .error _ => True

instance (conditions : List (String × String)) : DecidablePred (AnswersTo conditions)
  | .ok documents => inferInstanceAs (Decidable (∀ document ∈ documents, ∀ condition ∈ conditions,
      document.fieldIs condition.1 condition.2 = true))
  | .error _ => .isTrue trivial

-- The conditions of the three queries that have some.
def alumnosQuery (screen : TableViewControllerAlumnos) : List (String × String) :=
  [("campus", screen.campus), ("rol", "Alumno")]

def coordQuery (screen : VistaPerfil) : List (String × String) :=
  [("campus", screen.campus), ("rol", "Coord")]

def enrollmentQuery (screen : VistaPerfil) : List (String × String) :=
  [("matricula", screen.user.matricula)]

def step (state : State) : Event → Option State
  | .perfilAlum user =>
      match state.top, (ViewControllerAlumnos.home user).prepare .perfilAlum with
      | none, .perfil handed =>
          some (state.addPerfil { opener := none, view := handed.viewDidLoad })
      | _, _ => none
  | .campus user =>
      match state.top, (ViewControllerVistaInicial.home user).prepare .alumnos with
      | none, .campus handed => some (state.addCampus { view := handed })
      | _, _ => none
  | .campusAnswer index result => do
      let screen ← state.campuses[index]?
      if screen.answer = none then
        let view ← screen.view.getCampus result
        some (state.setCampus index { view := view, answer := some result })
      else none
  | .campusCell row cell =>
      match state.top with
      | some (.campus index) => do
          let screen ← state.campuses[index]?
          if row < screen.view.rows then (screen.view.cellForRowAt cell row).map fun _ => state
          else none
      | _ => none
  | .selectCampus row =>
      match state.top with
      | some (.campus index) => do
          let screen ← state.campuses[index]?
          if row < screen.view.rows then
            let handed ← screen.view.prepare row
            some (state.addAlumnos { opener := index, view := handed })
          else none
      | _ => none
  | .alumnosAnswer index result => do
      let screen ← state.alumnos[index]?
      if screen.answer = none ∧ AnswersTo (alumnosQuery screen.view) result then
        some (state.setAlumnos index
          { screen with view := screen.view.getAlumnos result, answer := some result })
      else none
  | .alumnosCell row cell =>
      match state.top with
      | some (.alumnos index) => do
          let screen ← state.alumnos[index]?
          if row < screen.view.rows then (screen.view.cellForRowAt cell row).map fun _ => state
          else none
      | _ => none
  | .selectAlumno row =>
      match state.top with
      | some (.alumnos index) => do
          let screen ← state.alumnos[index]?
          if row < screen.view.rows then
            let handed ← screen.view.prepare row
            some (state.addPerfil { opener := some index, view := handed.viewDidLoad })
          else none
      | _ => none
  | .coordAnswer index result => do
      let screen ← state.perfiles[index]?
      if screen.answers.coord = none ∧ AnswersTo (coordQuery screen.view) result then
        some (state.setPerfil index
          { screen with view := screen.view.getAlumno result, answers.coord := some result })
      else none
  | .enrollmentAnswer index result => do
      let screen ← state.perfiles[index]?
      if screen.answers.enrollment = none ∧ AnswersTo (enrollmentQuery screen.view) result then
        let view ← screen.view.getEnrollmentStatus result
        some (state.setPerfil index
          { screen with view := view, answers.enrollment := some result })
      else none
  | .perfilCell row cell =>
      match state.top with
      | some (.perfil index) => do
          let screen ← state.perfiles[index]?
          if row < screen.view.rows then
            (screen.view.toViewControllerPerfil.cellForRowAt cell row).map fun _ => state
          else none
      | _ => none
  | .dismiss => state.top.map fun top => { state with top := state.below top }

-- Everything a step can do, with its guards.
inductive Step (state : State) : Event → State → Prop
  | perfilAlum {user : User} {handed : VistaPerfil} (hclosed : state.top = none)
      (hprepare : (ViewControllerAlumnos.home user).prepare .perfilAlum = .perfil handed) :
      Step state (.perfilAlum user)
        (state.addPerfil { opener := none, view := handed.viewDidLoad })
  | campus {user : User} {handed : TableViewControllerCampus} (hclosed : state.top = none)
      (hprepare : (ViewControllerVistaInicial.home user).prepare .alumnos = .campus handed) :
      Step state (.campus user) (state.addCampus { view := handed })
  | campusAnswer {index : ℕ} {result : QueryResult} {screen : CampusScreen}
      {view : TableViewControllerCampus} (hscreen : state.campuses[index]? = some screen)
      (hanswer : screen.answer = none) (hview : screen.view.getCampus result = some view) :
      Step state (.campusAnswer index result)
        (state.setCampus index { view := view, answer := some result })
  | campusCell {index row : ℕ} {cell shown : TableViewCampusCell} {screen : CampusScreen}
      (htop : state.top = some (.campus index)) (hscreen : state.campuses[index]? = some screen)
      (hrow : row < screen.view.rows) (hcell : screen.view.cellForRowAt cell row = some shown) :
      Step state (.campusCell row cell) state
  | selectCampus {index row : ℕ} {screen : CampusScreen} {handed : TableViewControllerAlumnos}
      (htop : state.top = some (.campus index)) (hscreen : state.campuses[index]? = some screen)
      (hrow : row < screen.view.rows) (hprepare : screen.view.prepare row = some handed) :
      Step state (.selectCampus row) (state.addAlumnos { opener := index, view := handed })
  | alumnosAnswer {index : ℕ} {result : QueryResult} {screen : AlumnosScreen}
      (hscreen : state.alumnos[index]? = some screen) (hanswer : screen.answer = none)
      (hquery : AnswersTo (alumnosQuery screen.view) result) :
      Step state (.alumnosAnswer index result) (state.setAlumnos index
        { screen with view := screen.view.getAlumnos result, answer := some result })
  | alumnosCell {index row : ℕ} {cell shown : TableViewAlumnoCell} {screen : AlumnosScreen}
      (htop : state.top = some (.alumnos index)) (hscreen : state.alumnos[index]? = some screen)
      (hrow : row < screen.view.rows) (hcell : screen.view.cellForRowAt cell row = some shown) :
      Step state (.alumnosCell row cell) state
  | selectAlumno {index row : ℕ} {screen : AlumnosScreen} {handed : VistaPerfil}
      (htop : state.top = some (.alumnos index)) (hscreen : state.alumnos[index]? = some screen)
      (hrow : row < screen.view.rows) (hprepare : screen.view.prepare row = some handed) :
      Step state (.selectAlumno row)
        (state.addPerfil { opener := some index, view := handed.viewDidLoad })
  | coordAnswer {index : ℕ} {result : QueryResult} {screen : PerfilScreen}
      (hscreen : state.perfiles[index]? = some screen) (hanswer : screen.answers.coord = none)
      (hquery : AnswersTo (coordQuery screen.view) result) :
      Step state (.coordAnswer index result) (state.setPerfil index
        { screen with view := screen.view.getAlumno result, answers.coord := some result })
  | enrollmentAnswer {index : ℕ} {result : QueryResult} {screen : PerfilScreen}
      {view : VistaPerfil} (hscreen : state.perfiles[index]? = some screen)
      (hanswer : screen.answers.enrollment = none)
      (hquery : AnswersTo (enrollmentQuery screen.view) result)
      (hview : screen.view.getEnrollmentStatus result = some view) :
      Step state (.enrollmentAnswer index result) (state.setPerfil index
        { screen with view := view, answers.enrollment := some result })
  | perfilCell {index row : ℕ} {cell shown : TableViewPerfilCell} {screen : PerfilScreen}
      (htop : state.top = some (.perfil index)) (hscreen : state.perfiles[index]? = some screen)
      (hrow : row < screen.view.rows)
      (hcell : screen.view.toViewControllerPerfil.cellForRowAt cell row = some shown) :
      Step state (.perfilCell row cell) state
  | dismiss {top : Top} (htop : state.top = some top) :
      Step state .dismiss { state with top := state.below top }

theorem Step.of_step {state next : State} {event : Event} (h : step state event = some next) :
    Step state event next := by
  cases event with
  | perfilAlum user =>
      simp only [step] at h
      split at h
      · rename_i hclosed hprepare
        cases h
        exact .perfilAlum hclosed hprepare
      · cases h
  | campus user =>
      simp only [step] at h
      split at h
      · rename_i hclosed hprepare
        cases h
        exact .campus hclosed hprepare
      · cases h
  | campusAnswer index result =>
      simp only [step, Option.bind_eq_bind, Option.bind_eq_some_iff] at h
      obtain ⟨screen, hscreen, h⟩ := h
      split_ifs at h with hanswer
      obtain ⟨view, hview, h⟩ := Option.bind_eq_some_iff.mp h
      cases h
      exact .campusAnswer hscreen hanswer hview
  | campusCell row cell =>
      simp only [step] at h
      split at h
      · rename_i index htop
        simp only [Option.bind_eq_bind, Option.bind_eq_some_iff] at h
        obtain ⟨screen, hscreen, h⟩ := h
        split_ifs at h with hrow
        obtain ⟨shown, hcell, rfl⟩ := Option.map_eq_some_iff.mp h
        exact .campusCell htop hscreen hrow hcell
      · cases h
  | selectCampus row =>
      simp only [step] at h
      split at h
      · rename_i index htop
        simp only [Option.bind_eq_bind, Option.bind_eq_some_iff] at h
        obtain ⟨screen, hscreen, h⟩ := h
        split_ifs at h with hrow
        obtain ⟨handed, hprepare, h⟩ := Option.bind_eq_some_iff.mp h
        cases h
        exact .selectCampus htop hscreen hrow hprepare
      · cases h
  | alumnosAnswer index result =>
      simp only [step, Option.bind_eq_bind, Option.bind_eq_some_iff] at h
      obtain ⟨screen, hscreen, h⟩ := h
      split_ifs at h with hc
      cases h
      exact .alumnosAnswer hscreen hc.1 hc.2
  | alumnosCell row cell =>
      simp only [step] at h
      split at h
      · rename_i index htop
        simp only [Option.bind_eq_bind, Option.bind_eq_some_iff] at h
        obtain ⟨screen, hscreen, h⟩ := h
        split_ifs at h with hrow
        obtain ⟨shown, hcell, rfl⟩ := Option.map_eq_some_iff.mp h
        exact .alumnosCell htop hscreen hrow hcell
      · cases h
  | selectAlumno row =>
      simp only [step] at h
      split at h
      · rename_i index htop
        simp only [Option.bind_eq_bind, Option.bind_eq_some_iff] at h
        obtain ⟨screen, hscreen, h⟩ := h
        split_ifs at h with hrow
        obtain ⟨handed, hprepare, h⟩ := Option.bind_eq_some_iff.mp h
        cases h
        exact .selectAlumno htop hscreen hrow hprepare
      · cases h
  | coordAnswer index result =>
      simp only [step, Option.bind_eq_bind, Option.bind_eq_some_iff] at h
      obtain ⟨screen, hscreen, h⟩ := h
      split_ifs at h with hc
      cases h
      exact .coordAnswer hscreen hc.1 hc.2
  | enrollmentAnswer index result =>
      simp only [step, Option.bind_eq_bind, Option.bind_eq_some_iff] at h
      obtain ⟨screen, hscreen, h⟩ := h
      split_ifs at h with hc
      obtain ⟨view, hview, h⟩ := Option.bind_eq_some_iff.mp h
      cases h
      exact .enrollmentAnswer hscreen hc.1 hc.2 hview
  | perfilCell row cell =>
      simp only [step] at h
      split at h
      · rename_i index htop
        simp only [Option.bind_eq_bind, Option.bind_eq_some_iff] at h
        obtain ⟨screen, hscreen, h⟩ := h
        split_ifs at h with hrow
        obtain ⟨shown, hcell, rfl⟩ := Option.map_eq_some_iff.mp h
        exact .perfilCell htop hscreen hrow hcell
      · cases h
  | dismiss =>
      obtain ⟨top, htop, rfl⟩ := Option.map_eq_some_iff.mp h
      exact .dismiss htop

end AppPrepanet.Directorio
