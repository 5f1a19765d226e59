import AppPrepanet.Loop
import AppPrepanet.Model
import AppPrepanet.UIKit

namespace AppPrepanet

open Firestore

-- `Workshop` is a class: `ref` tells its objects apart.
structure WorkshopObject where
  ref : ℕ
  workshop : Workshop
deriving DecidableEq

structure TableViewWorkshopCell where
  lbTitle : UILabel
  lbDescription : UILabel
  lbEstado : UILabel
deriving DecidableEq

-- A new cell, as the storyboard has it.
def TableViewWorkshopCell.storyboard : TableViewWorkshopCell where
  lbTitle := { text := "Label", textColor := some .black }
  lbDescription := { text := "Label" }
  lbEstado := { text := "Label" }

-- The list of workshops. `rows` is the array as the table saw it at the last `reloadData`:
-- the table knows as many rows. `allocated` counts the objects made so far.
structure TableViewControllerAWorkshop where
  user : User
  workshopArr : List WorkshopObject := []
  inscripciones : List Inscripcion := []
  rows : List WorkshopObject := []
  allocated : ℕ := 0
deriving DecidableEq

namespace TableViewControllerAWorkshop

def numberOfRowsInSection (screen : TableViewControllerAWorkshop) : ℕ := screen.workshopArr.length

def reloadTableView (screen : TableViewControllerAWorkshop) : TableViewControllerAWorkshop :=
  { screen with rows := screen.workshopArr }

-- The query of `getWorkshops` is issued on the way.
def viewWillAppear (screen : TableViewControllerAWorkshop) : TableViewControllerAWorkshop :=
  { screen with workshopArr := [] }.reloadTableView

-- The forced casts and the two subscripts of `dates`.
def workshopOf (document : Document) : Option Workshop := do
  let titBD ← document.string "titulo"
  let desBD ← document.string "descripcion"
  let reqBD ← document.strings "requerimientos"
  let dates ← document.timestamps "wkDate"
  let startDateBD ← dates[0]?
  let endDateBD ← dates[1]?
  return { wkID := document.documentID, title := titBD, descr := desBD, req := reqBD,
           startDate := startDateBD.dateValue, endDate := endDateBD.dateValue }

def appendWorkshop (screen : TableViewControllerAWorkshop) (workshop : Workshop) :
    TableViewControllerAWorkshop :=
  { screen with
    workshopArr := screen.workshopArr ++ [{ ref := screen.allocated, workshop := workshop }]
    allocated := screen.allocated + 1 }

-- The callback of the query of Talleres. After an answer the query of `getStatus` is issued.
def getWorkshops (screen : TableViewControllerAWorkshop) :
    QueryResult → Option TableViewControllerAWorkshop
  | .error _ => some screen
  | .ok documents => do
      let screen ← documents.foldlM
        (fun screen document => (workshopOf document).map fun workshop =>
          screen.appendWorkshop workshop) screen
      return screen.reloadTableView

-- The inner loop of the merge.
def applyStatus (workshopArr : List WorkshopObject) (inscripcion : Inscripcion) :
    List WorkshopObject :=
  workshopArr.map fun object : WorkshopObject =>
    if inscripcion.wkID = object.workshop.wkID then
      { object with workshop.status := inscripcion.status }
    else object

-- The closure that `getWorkshops` hands to `getStatus`.
def mergeStatus (screen : TableViewControllerAWorkshop) : TableViewControllerAWorkshop :=
  { screen with workshopArr := screen.inscripciones.foldl applyStatus screen.workshopArr }

-- This reader leaves the title out.
def inscripcionOf (document : Document) : Option Inscripcion := do
  let wkIDDB ← document.string "tallerID"
  let campusIDDB ← document.string "campusID"
  let matricula ← document.string "matricula"
  let statusDB ← document.string "status"
  let date ← document.timestamp "Date"
  return { wkID := wkIDDB, campusID := campusIDDB, matriculaAlum := matricula,
           status := statusDB, date := date.dateValue }

-- The callback of the query `matricula = user.matricula`.
def getStatus (screen : TableViewControllerAWorkshop) :
    QueryResult → Option TableViewControllerAWorkshop
  | .error _ => some screen
  | .ok documents => do
      let inscripciones ← documents.foldlM
        (fun array document => (inscripcionOf document).map fun inscripcion =>
          array ++ [inscripcion]) screen.inscripciones
      return { screen with inscripciones := inscripciones }.reloadTableView.mergeStatus

-- `cell` is the dequeued cell, which may have shown another row before. `none` is an index
-- out of range.
def cellForRowAt (screen : TableViewControllerAWorkshop) (cell : TableViewWorkshopCell)
    (row : ℕ) : Option TableViewWorkshopCell := do
  let object ← screen.workshopArr[row]?
  let workshop := object.workshop
  let cell : TableViewWorkshopCell :=
    { cell with
      lbTitle.text := workshop.title
      lbDescription.text := workshop.descr
      lbEstado.text := workshop.status }
  if screen.user.rol = "Alumno" then
    if workshop.status = "Aprobado" then
      return { cell with lbEstado.textColor := some .systemGreen }
    else if workshop.status = "Inscrito" then
      return { cell with lbEstado.textColor := some .systemBlue }
    else if workshop.status = "En Proceso" then
      return { cell with lbEstado.textColor := some .systemTeal }
    else return { cell with lbEstado.text := "No inscrito" }
  else return { cell with lbEstado.isHidden := true }

-- What the detail screen is given for the selected row.
def prepare (screen : TableViewControllerAWorkshop) (row : ℕ) : Option (WorkshopObject × User) :=
  screen.workshopArr[row]?.map fun object => (object, screen.user)

end TableViewControllerAWorkshop

end AppPrepanet
