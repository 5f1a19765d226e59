import AppPrepanet.Loop
import AppPrepanet.Model
import AppPrepanet.Swift
import AppPrepanet.UIKit

namespace AppPrepanet

open Firestore

structure TableViewSingleWorkshopCell where
  lbWkTitle : UILabel
  imgStatus : UIImageView
deriving DecidableEq

-- A new cell of the table of requirements, as the storyboard has it.
def TableViewSingleWorkshopCell.storyboard : TableViewSingleWorkshopCell where
  lbWkTitle := { text := "Label" }
  imgStatus := { image := some { systemName := "checkmark" } }

-- The detail screen of one workshop. `rows` is the row count that the table of
-- requirements learned at the last `reloadData`.
structure ViewControllerWorkshop where
  workshop : Workshop
  user : User
  reqs : List Requerimiento := []
  inscripciones : List Inscripcion := []
  btInscripcion : UIButton
  lbEstado : UILabel
  lbDescEstado : UILabel
  rows : ℕ := 0
deriving DecidableEq

namespace ViewControllerWorkshop

-- The screen as the storyboard leaves it. The button has no `enabled` attribute
-- there, so it starts enabled.
def storyboard (workshop : Workshop) (user : User) : ViewControllerWorkshop where
  workshop := workshop
  user := user
  btInscripcion := { title := "Inscribirse", backgroundColor := .systemBlue }
  lbEstado := { text := "Estado:" }
  lbDescEstado := { text := "No Inscrito" }

def reloadTableView (screen : ViewControllerWorkshop) : ViewControllerWorkshop :=
  { screen with rows := screen.reqs.length }

-- What the second loop of `initializeReqObject` does with one inscripcion. The
-- reload stands inside this loop.
def applyToReqs (screen : ViewControllerWorkshop) (inscripcion : Inscripcion) :
    ViewControllerWorkshop :=
  let reqs := screen.reqs.map fun requerimiento : Requerimiento =>
    if inscripcion.wkTitle = requerimiento.req then
      { requerimiento with status := inscripcion.status }
    else requerimiento
  reloadTableView { screen with reqs := reqs }

def initializeReqObject (screen : ViewControllerWorkshop) : ViewControllerWorkshop :=
  let screen := screen.workshop.req.foldl
    (fun screen req => { screen with reqs := screen.reqs ++ [{ req := req }] }) screen
  screen.inscripciones.foldl applyToReqs screen

def canEnroll (screen : ViewControllerWorkshop) : Bool :=
  if screen.workshop.req.length = 0 then true
  else screen.inscripciones.foldl
    (fun enroll inscripcion =>
      if some (screen.workshop.req.length : Int) = Swift.int inscripcion.wkID ∧
          inscripcion.status = "Aprobado" then true
      else enroll) false

-- What the loop of `isEnrolled` does with one inscripcion.
def applyStatus (screen : ViewControllerWorkshop) (inscripcion : Inscripcion) :
    ViewControllerWorkshop :=
  if inscripcion.wkID = screen.workshop.wkID then
    let screen :=
      if inscripcion.status = "En Proceso" then
        { screen with btInscripcion.isEnabled := false }
      else screen
    let screen :=
      if inscripcion.status = "Inscrito" then
        { screen with
          btInscripcion.isEnabled := false
          btInscripcion.backgroundColor := .systemGreen
          btInscripcion.title := inscripcion.status }
      else screen
    let screen :=
      if inscripcion.status = "Aprobado" then
        { screen with
          btInscripcion.isEnabled := false
          btInscripcion.backgroundColor := .systemGreen
          btInscripcion.title := inscripcion.status }
      else screen
    { screen with lbDescEstado.text := inscripcion.status }
  else screen

def isEnrolled (screen : ViewControllerWorkshop) : ViewControllerWorkshop :=
  screen.inscripciones.foldl applyStatus screen

-- The closure that `viewDidLoad` hands to `getEnrollmentStatus`.
def fetchCompletion (screen : ViewControllerWorkshop) : ViewControllerWorkshop :=
  let screen :=
    if screen.canEnroll then { screen with btInscripcion.isEnabled := true }
    else { screen with btInscripcion.isEnabled := false }
  screen.isEnrolled.initializeReqObject

def inscripcionOf (document : Document) : Option Inscripcion := do
  let wkIDDB ← document.string "tallerID"
  let wkTitleDB ← document.string "tallerTitle"
  let campusIDDB ← document.string "campusID"
  let matriculaAlumID ← document.string "matricula"
  let statusDB ← document.string "status"
  let dateDB ← document.timestamp "Date"
  return { wkTitle := wkTitleDB, wkID := wkIDDB, campusID := campusIDDB,
           matriculaAlum := matriculaAlumID, status := statusDB, date := dateDB.dateValue }

-- The callback of the query `matricula = user.matricula`. After an error nothing
-- happens: the button stays as it is.
def getEnrollmentStatus (screen : ViewControllerWorkshop) :
    QueryResult → Option ViewControllerWorkshop
  | .error _ => some screen
  | .ok documents => do
      let inscripciones ← documents.foldlM
        (fun array document => (inscripcionOf document).map fun inscripcion =>
          array ++ [inscripcion]) screen.inscripciones
      return { screen with inscripciones := inscripciones }.fetchCompletion

-- The synchronous part; the query of `getEnrollmentStatus` is issued on the way.
def viewDidLoad (screen : ViewControllerWorkshop) : ViewControllerWorkshop :=
  let screen := if screen.user.rol = "Coord" then screen.initializeReqObject else screen
  let screen :=
    if screen.user.rol = "Coord" then
      { screen with
        lbEstado.isHidden := true
        lbDescEstado.isHidden := true
        btInscripcion.isHidden := true }
    else screen
  screen.reloadTableView

def numberOfRowsInSection (screen : ViewControllerWorkshop) : ℕ := screen.reqs.length

-- The table also asks for its row count when it is laid out for the first time, which is
-- after `viewDidLoad`.
def firstLayout (screen : ViewControllerWorkshop) : ViewControllerWorkshop :=
  { screen with rows := screen.numberOfRowsInSection }

-- `cell` is the dequeued cell. `none` is an index out of range.
def cellForRowAt (screen : ViewControllerWorkshop) (cell : TableViewSingleWorkshopCell)
    (row : ℕ) : Option TableViewSingleWorkshopCell := do
  let requerimiento ← screen.reqs[row]?
  let cell : TableViewSingleWorkshopCell := { cell with lbWkTitle.text := requerimiento.req }
  let checkmark : UIImage := { systemName := "checkmark" }
  let circle : UIImage := { systemName := "checkmark.circle" }
  if requerimiento.status = "En Proceso" then
    return { cell with imgStatus.image := some (checkmark.withTintColor .systemBlue) }
  else if requerimiento.status = "Inscrito" then
    return { cell with imgStatus.image := some (circle.withTintColor .systemTeal) }
  else if requerimiento.status = "Aprobado" then
    return { cell with imgStatus.image := some (circle.withTintColor .systemGreen) }
  else return { cell with imgStatus.image := none }

-- A `Date` is stored as the timestamp of that date.
def enrollData (screen : ViewControllerWorkshop) : Fields :=
  [("tallerTitle", .string screen.workshop.title),
   ("Date", .timestamp ⟨screen.workshop.startDate⟩),
   ("tallerID", .string screen.workshop.wkID),
   ("campusID", .string screen.user.campus),
   ("matricula", .string screen.user.matricula),
   ("status", .string "En Proceso")]

-- Hands `enrollData` to `addDocument` and disables the button at once.
def enrollStudent (screen : ViewControllerWorkshop) : ViewControllerWorkshop :=
  { screen with btInscripcion.isEnabled := false }

-- The callback of `addDocument`.
def enrollStudentCompletion (screen : ViewControllerWorkshop) (err : Option String) :
    ViewControllerWorkshop :=
  match err with
  | some _ => screen
  | none => { screen with lbDescEstado.text := "En Proceso" }

-- The closure that would run `isEnrolled` again is never called by `enrollStudent`.
def enrollBt (screen : ViewControllerWorkshop) : ViewControllerWorkshop := screen.enrollStudent

end ViewControllerWorkshop

end AppPrepanet
