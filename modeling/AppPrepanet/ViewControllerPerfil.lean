import AppPrepanet.Loop
import AppPrepanet.Model
import AppPrepanet.UIKit

namespace AppPrepanet

open Firestore

structure TableViewPerfilCell where
  wkTitle : UILabel
  imgStatus : UIImageView
deriving DecidableEq

-- A new cell, as the storyboard has it: without an image.
def TableViewPerfilCell.storyboard : TableViewPerfilCell where
  wkTitle := { text := "Label" }
  imgStatus := {}

-- The profile screen. `rows` is the row count that its table learned at the last
-- `reloadData`.
structure ViewControllerPerfil where
  user : User
  inscripciones : List Inscripcion := []
  rows : ℕ := 0
deriving DecidableEq

namespace ViewControllerPerfil

def inscripcionOf (document : Document) : Option Inscripcion := do
  let wkTitleDB ← document.string "tallerTitle"
  let wkIDDB ← document.string "tallerID"
  let campusIDDB ← document.string "campusID"
  let matriculaAlumID ← document.string "matricula"
  let statusDB ← document.string "status"
  let dateDB ← document.timestamp "Date"
  return { wkTitle := wkTitleDB, wkID := wkIDDB, campusID := campusIDDB,
           matriculaAlum := matriculaAlumID, status := statusDB, date := dateDB.dateValue }

-- The callback of the query `matricula = user.matricula`; its closure only prints.
def getEnrollmentStatus (screen : ViewControllerPerfil) :
    QueryResult → Option ViewControllerPerfil
  | .error _ => some screen
  | .ok documents => do
      let inscripciones ← documents.foldlM
        (fun array document => (inscripcionOf document).map fun inscripcion =>
          array ++ [inscripcion]) screen.inscripciones
      return { screen with inscripciones := inscripciones, rows := inscripciones.length }

-- `cell` is the dequeued cell. `none` is an index out of range.
def cellForRowAt (screen : ViewControllerPerfil) (cell : TableViewPerfilCell) (row : ℕ) :
    Option TableViewPerfilCell := do
  let inscripcion ← screen.inscripciones[row]?
  let cell : TableViewPerfilCell := { cell with wkTitle.text := inscripcion.wkTitle }
  let checkmark : UIImage := { systemName := "checkmark" }
  let circle : UIImage := { systemName := "checkmark.circle" }
  let cell : TableViewPerfilCell :=
    if inscripcion.status = "En Proceso" then
      { cell with imgStatus.image := some (checkmark.withTintColor .systemBlue) }
    else cell
  let cell : TableViewPerfilCell :=
    if inscripcion.status = "Inscrito" then
      { cell with imgStatus.image := some (circle.withTintColor .systemTeal) }
    else cell
  let cell : TableViewPerfilCell :=
    if inscripcion.status = "Aprobado" then
      { cell with imgStatus.image := some (circle.withTintColor .systemGreen) }
    else cell
  return cell

theorem getEnrollmentStatus_ok (screen : ViewControllerPerfil) {documents : List Document}
    {next : ViewControllerPerfil} :
    screen.getEnrollmentStatus (.ok documents) = some next ↔
      ∃ inscripciones, documents.mapM inscripcionOf = some inscripciones ∧
        next = { screen with
          inscripciones := screen.inscripciones ++ inscripciones
          rows := (screen.inscripciones ++ inscripciones).length } := by
  simp only [getEnrollmentStatus, Loop.foldlM_append, Option.bind_eq_bind, Option.pure_def]
  cases documents.mapM inscripcionOf with
  | none => simp
  | some inscripciones => simp [eq_comm]

end ViewControllerPerfil

end AppPrepanet
