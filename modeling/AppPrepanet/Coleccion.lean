import AppPrepanet.Inscripciones
import AppPrepanet.ViewControllerWorkshop.Documents

namespace AppPrepanet.Coleccion

open Firestore Inscripciones

-- The collection Inscripciones, written by the screens of any students for any workshops.
inductive Event where
  | enrollStudent (documentID : String) (screen : ViewControllerWorkshop)
  | setStatus (documentID status : String)
deriving DecidableEq

-- `addDocument` picks an identifier that is not in use.
def step (collection : List Document) : Event → Option (List Document)
  | .enrollStudent documentID screen =>
      if documentID ∉ collection.map (·.documentID) then
        some (collection ++ [⟨documentID, screen.enrollData⟩])
      else none
  | .setStatus documentID status => some (collection.map (updateStatus documentID status))

-- What the collection is there to remember: who enrolled in what, and how it stands.
structure Enrolment where
  documentID : String
  workshop : Workshop
  user : User
  status : String
deriving DecidableEq

namespace Enrolment

def inscripcion (enrolment : Enrolment) : Inscripcion where
  wkTitle := enrolment.workshop.title
  wkID := enrolment.workshop.wkID
  campusID := enrolment.user.campus
  matriculaAlum := enrolment.user.matricula
  status := enrolment.status
  date := enrolment.workshop.startDate

-- As the list screen reads it.
def untitled (enrolment : Enrolment) : Inscripcion := { enrolment.inscripcion with wkTitle := "" }

def isOf (matricula : String) (enrolment : Enrolment) : Bool :=
  enrolment.user.matricula = matricula

end Enrolment

def record (enrolments : List Enrolment) : Event → List Enrolment
  | .enrollStudent documentID screen =>
      enrolments ++ [⟨documentID, screen.workshop, screen.user, "En Proceso"⟩]
  | .setStatus documentID status =>
      enrolments.map fun enrolment : Enrolment =>
        if enrolment.documentID = documentID then { enrolment with status := status }
        else enrolment

-- The enrolments after a run, told by its events alone.
def history (events : List Event) : List Enrolment := events.foldl record []

end AppPrepanet.Coleccion
