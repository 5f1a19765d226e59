import AppPrepanet.Loop
import AppPrepanet.VistaPerfil

namespace AppPrepanet

open Firestore

structure TableViewAlumnoCell where
  lbMatriculaAlumno : UILabel
  View : UIView
deriving DecidableEq

-- A new cell, as the storyboard has it.
def TableViewAlumnoCell.storyboard : TableViewAlumnoCell where
  lbMatriculaAlumno := { text := "Label" }
  View := { backgroundColor := some .systemBackground }

-- The students of one campus. `campus` is set by whoever presents the screen. `rows` is the row
-- count that the table learned at the last `reloadData`.
structure TableViewControllerAlumnos where
  campus : String
  user : Option User := none
  nombreAlumno : Option String := none
  campusAlumno : Option String := none
  matriculaAlumno : Option String := none
  AlumnosArr : List User := []
  rows : ℕ := 0
deriving DecidableEq

namespace TableViewControllerAlumnos

def numberOfRowsInSection (screen : TableViewControllerAlumnos) : ℕ := screen.AlumnosArr.length

def reloadData (screen : TableViewControllerAlumnos) : TableViewControllerAlumnos :=
  { screen with rows := screen.numberOfRowsInSection }

-- What the loop of `getAlumnos` does with one document. No cast of it is forced.
def appendAlumno (screen : TableViewControllerAlumnos) (document : Document) :
    TableViewControllerAlumnos :=
  let alumno := userOf document
  { screen with
    user := some alumno
    nombreAlumno := some alumno.nombre
    campusAlumno := some alumno.campus
    matriculaAlumno := some alumno.matricula
    AlumnosArr := screen.AlumnosArr ++ [alumno] }

-- The callback of the query `campus = campus`, `rol = Alumno`. The table is told after an
-- error as well.
def getAlumnos (screen : TableViewControllerAlumnos) : QueryResult → TableViewControllerAlumnos
  | .error _ => screen.reloadData
  | .ok documents => (documents.foldl appendAlumno screen).reloadData

-- `cell` is the dequeued cell. `none` is an index out of range.
def cellForRowAt (screen : TableViewControllerAlumnos) (cell : TableViewAlumnoCell) (row : ℕ) :
    Option TableViewAlumnoCell := do
  if row % 2 = 0 then
    let alumno ← screen.AlumnosArr[row]?
    let cell : TableViewAlumnoCell := { cell with lbMatriculaAlumno.text := alumno.matricula }
    return { cell with View.backgroundColor := some (.rgb 206 235 255) }
  else
    let alumno ← screen.AlumnosArr[row]?
    let cell : TableViewAlumnoCell := { cell with lbMatriculaAlumno.text := alumno.matricula }
    return { cell with View.backgroundColor := some (.rgb 243 243 243) }

-- What the profile screen is given for the selected row. Its `matricula` is left alone.
def prepare (screen : TableViewControllerAlumnos) (row : ℕ) : Option VistaPerfil := do
  let user ← screen.AlumnosArr[row]?
  return { user := user, nombre := user.nombre, campus := user.campus }

section Lemmas

variable (screen : TableViewControllerAlumnos)

theorem foldl_appendAlumno_AlumnosArr (documents : List Document) :
    (documents.foldl appendAlumno screen).AlumnosArr =
      screen.AlumnosArr ++ documents.map userOf := by
  induction documents generalizing screen with
  | nil => simp
  | cons document rest ih =>
      rw [List.foldl_cons, ih]
      simp [appendAlumno]

@[simp] theorem foldl_appendAlumno_campus (documents : List Document) :
    (documents.foldl appendAlumno screen).campus = screen.campus :=
  Loop.foldl_frame appendAlumno (·.campus) (fun _ _ => rfl) documents screen

@[simp] theorem getAlumnos_campus (result : QueryResult) :
    (screen.getAlumnos result).campus = screen.campus := by
  cases result with
  | error err => rfl
  | ok documents => exact screen.foldl_appendAlumno_campus documents

theorem getAlumnos_rows (result : QueryResult) :
    (screen.getAlumnos result).rows = (screen.getAlumnos result).AlumnosArr.length := by
  cases result <;> rfl

theorem getAlumnos_AlumnosArr (result : QueryResult) :
    (screen.getAlumnos result).AlumnosArr =
      screen.AlumnosArr ++ match result with
        | .ok documents => documents.map userOf
        | .error _ => [] := by
  cases result with
  | error err => simp [getAlumnos, reloadData]
  | ok documents => exact screen.foldl_appendAlumno_AlumnosArr documents

end Lemmas

end TableViewControllerAlumnos

end AppPrepanet
