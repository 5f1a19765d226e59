import AppPrepanet.Firestore

namespace AppPrepanet

open Firestore

-- Texts are compared with `==`. The model takes them in the normal form that makes
-- canonically equivalent texts equal.
structure User where
  nombre : String
  email : String
  matricula : String
  campus : String
  rol : String
deriving DecidableEq

structure Workshop where
  wkID : String
  title : String
  descr : String
  req : List String
  startDate : Date
  endDate : Date
  status : String := ""
deriving DecidableEq

structure Inscripcion where
  wkTitle : String := ""
  wkID : String
  campusID : String
  matriculaAlum : String
  status : String
  date : Date
deriving DecidableEq

structure Requerimiento where
  req : String
  status : String := ""
deriving DecidableEq

-- The status that a loop over the inscripciones leaves on a workshop.
def statusOf (inscripciones : List Inscripcion) (wkID : String) : String :=
  ((inscripciones.findRev? fun inscripcion => inscripcion.wkID = wkID).map (·.status)).getD ""

end AppPrepanet
