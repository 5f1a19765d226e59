import AppPrepanet.TableViewControllerAlumnos

namespace AppPrepanet

open Firestore

structure TableViewCampusCell where
  lbNombreCampus : UILabel
  View : UIView
deriving DecidableEq

-- A new cell, as the storyboard has it.
def TableViewCampusCell.storyboard : TableViewCampusCell where
  lbNombreCampus := { text := "Label" }
  View := {}

-- The campuses. `rows` is the row count that the table learned at the last `reloadData`.
structure TableViewControllerCampus where
  campusArr : List String := []
  rows : ℕ := 0
deriving DecidableEq

namespace TableViewControllerCampus

def numberOfRowsInSection (screen : TableViewControllerCampus) : ℕ := screen.campusArr.length

def reloadData (screen : TableViewControllerCampus) : TableViewControllerCampus :=
  { screen with rows := screen.numberOfRowsInSection }

-- The forced cast of the loop of `getCampus`.
def nombreCampusOf (document : Document) : Option String := document.string "campus"

-- The callback of the query of Campus. The table is told after an error as well.
def getCampus (screen : TableViewControllerCampus) :
    QueryResult → Option TableViewControllerCampus
  | .error _ => some screen.reloadData
  | .ok documents => do
      let campusArr ← documents.foldlM
        (fun array document => (nombreCampusOf document).map fun nombreCampus =>
          array ++ [nombreCampus]) screen.campusArr
      return { screen with campusArr := campusArr }.reloadData

-- `cell` is the dequeued cell. `none` is an index out of range.
def cellForRowAt (screen : TableViewControllerCampus) (cell : TableViewCampusCell) (row : ℕ) :
    Option TableViewCampusCell := do
  if row % 2 = 0 then
    let campus ← screen.campusArr[row]?
    let cell : TableViewCampusCell := { cell with lbNombreCampus.text := campus }
    return { cell with View.backgroundColor := some (.rgb 206 235 255) }
  else
    let campus ← screen.campusArr[row]?
    let cell : TableViewCampusCell := { cell with lbNombreCampus.text := campus }
    return { cell with View.backgroundColor := some (.rgb 243 243 243) }

-- What the screen of students is given for the selected row.
def prepare (screen : TableViewControllerCampus) (row : ℕ) : Option TableViewControllerAlumnos :=
  screen.campusArr[row]?.map fun campus => { campus := campus }

theorem getCampus_ok (screen : TableViewControllerCampus) {documents : List Document}
    {next : TableViewControllerCampus} :
    screen.getCampus (.ok documents) = some next ↔
      ∃ campusArr, documents.mapM nombreCampusOf = some campusArr ∧
        next = reloadData { screen with campusArr := screen.campusArr ++ campusArr } := by
  simp only [getCampus, Loop.foldlM_append, Option.bind_eq_bind, Option.pure_def]
  cases documents.mapM nombreCampusOf with
  | none => simp
  | some campusArr => simp [eq_comm]

end TableViewControllerCampus

end AppPrepanet
