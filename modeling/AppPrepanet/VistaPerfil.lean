import AppPrepanet.ViewController
import AppPrepanet.ViewControllerPerfil

namespace AppPrepanet

open Firestore

-- The profile screen with all that it shows around its table. `nombre` and `campus` are set by
-- whoever presents it; `matricula` need not be.
structure VistaPerfil extends ViewControllerPerfil where
  nombre : String
  campus : String
  matricula : Option String := none
  nombrePerf : UILabel := { text := "" }
  campusPerf : UILabel := { text := "" }
  nomCoord : UILabel := { text := "" }
  correoCoord : UILabel := { text := "" }
deriving DecidableEq

namespace VistaPerfil

-- The queries of `getAlumno` and `getEnrollmentStatus` are issued on the way.
def viewDidLoad (screen : VistaPerfil) : VistaPerfil :=
  let screen :=
    if screen.user.rol = "Alumno" then { screen with matricula := some screen.user.matricula }
    else screen
  { screen with
    nombrePerf.text := screen.nombre
    campusPerf.text := "Campus " ++ screen.campus
    rows := screen.inscripciones.length }

-- The callback of the query `campus = campus`, `rol = Coord`. It wants one document.
def getAlumno (screen : VistaPerfil) : QueryResult → VistaPerfil
  | .ok [document] =>
      { screen with
        nomCoord.text := document.stringOrEmpty "nombre"
        correoCoord.text := document.stringOrEmpty "email" }
  | .ok _ | .error _ => screen

-- The callback of the query `matricula = user.matricula`.
def getEnrollmentStatus (screen : VistaPerfil) (result : QueryResult) : Option VistaPerfil :=
  (screen.toViewControllerPerfil.getEnrollmentStatus result).map fun perfil =>
    { screen with toViewControllerPerfil := perfil }

section Frame

variable (screen : VistaPerfil)

@[simp] theorem viewDidLoad_user : screen.viewDidLoad.user = screen.user := by
  unfold viewDidLoad
  split_ifs <;> rfl

@[simp] theorem getAlumno_user (result : QueryResult) :
    (screen.getAlumno result).user = screen.user := by
  unfold getAlumno
  split <;> rfl

theorem getEnrollmentStatus_user {result : QueryResult} {next : VistaPerfil}
    (hnext : screen.getEnrollmentStatus result = some next) : next.user = screen.user := by
  obtain ⟨perfil, hperfil, rfl⟩ := Option.map_eq_some_iff.mp hnext
  cases result with
  | error err =>
      cases hperfil
      rfl
  | ok documents =>
      obtain ⟨inscripciones, _, rfl⟩ :=
        screen.toViewControllerPerfil.getEnrollmentStatus_ok.mp hperfil
      rfl

end Frame

-- What the queries of a profile have answered, as far as they have.
structure Answers where
  coord : Option QueryResult := none
  enrollment : Option QueryResult := none
deriving DecidableEq

-- A text of the coordinator, who has to be the only one of the campus.
def coordField (field : String) : Option QueryResult → String
  | some (.ok [document]) => document.stringOrEmpty field
  | _ => ""

theorem coordField_cases (answer : Option QueryResult) :
    (∀ field, coordField field answer = "") ∨ ∃ document, answer = some (.ok [document]) ∧
      ∀ field, coordField field answer = document.stringOrEmpty field := by
  match answer with
  | none | some (.error _) | some (.ok []) | some (.ok (_ :: _ :: _)) => exact .inl fun _ => rfl
  | some (.ok [document]) => exact .inr ⟨document, rfl, fun _ => rfl⟩

def read : Option QueryResult → List Inscripcion
  | some (.ok documents) => (documents.mapM ViewControllerPerfil.inscripcionOf).getD []
  | _ => []

-- The profile of a user, told by the user and the answers alone.
def shows (user : User) (answers : Answers) : VistaPerfil where
  user := user
  inscripciones := read answers.enrollment
  rows := (read answers.enrollment).length
  nombre := user.nombre
  campus := user.campus
  matricula := some user.matricula
  nombrePerf := { text := user.nombre }
  campusPerf := { text := "Campus " ++ user.campus }
  nomCoord := { text := coordField "nombre" answers.coord }
  correoCoord := { text := coordField "email" answers.coord }

section Shows

variable {user : User} {answers : Answers}

@[simp] theorem shows_user : (shows user answers).user = user := rfl

@[simp] theorem shows_campus : (shows user answers).campus = user.campus := rfl

-- The profile of a student loads in the same way whether `matricula` was handed over or not.
theorem viewDidLoad_eq_shows (screen : VistaPerfil) (huser : screen.user = user)
    (hnombre : screen.nombre = user.nombre) (hcampus : screen.campus = user.campus)
    (hmatricula : screen.matricula = some user.matricula ∨ user.rol = "Alumno")
    (hfresh : screen = { user := screen.user, nombre := screen.nombre, campus := screen.campus,
                         matricula := screen.matricula }) :
    screen.viewDidLoad = shows user {} := by
  have hloaded : (if user.rol = "Alumno" then some user.matricula else screen.matricula) =
      some user.matricula := by
    rcases hmatricula with hgiven | hrol
    · simp [hgiven]
    · simp [hrol]
  rw [hfresh]
  unfold viewDidLoad shows
  by_cases hrol : user.rol = "Alumno"
  · simp [huser, hnombre, hcampus, hrol, read, coordField]
  · have hgiven : screen.matricula = some user.matricula := by simpa [hrol] using hloaded
    simp [huser, hnombre, hcampus, hrol, hgiven, read, coordField]

-- The two answers may come in any order: each finds the screen as the other leaves it.
theorem getAlumno_shows (hnone : answers.coord = none) (result : QueryResult) :
    (shows user answers).getAlumno result =
      shows user { answers with coord := some result } := by
  cases result with
  | error err => simp [getAlumno, shows, coordField, hnone]
  | ok documents =>
      match documents with
      | [] => simp [getAlumno, shows, coordField, hnone]
      | [document] => simp [getAlumno, shows, coordField]
      | _ :: _ :: _ => simp [getAlumno, shows, coordField, hnone]

theorem getEnrollmentStatus_shows (hnone : answers.enrollment = none) {result : QueryResult}
    {next : VistaPerfil} (hnext : (shows user answers).getEnrollmentStatus result = some next) :
    next = shows user { answers with enrollment := some result } := by
  obtain ⟨perfil, hperfil, rfl⟩ := Option.map_eq_some_iff.mp hnext
  cases result with
  | error err =>
      cases hperfil
      simp [shows, read, hnone]
  | ok documents =>
      obtain ⟨inscripciones, hm, rfl⟩ :=
        (shows user answers).toViewControllerPerfil.getEnrollmentStatus_ok.mp hperfil
      simp [shows, read, hm, hnone]

end Shows

end VistaPerfil

end AppPrepanet
