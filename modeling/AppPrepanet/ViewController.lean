import AppPrepanet.Model
import AppPrepanet.Swift

namespace AppPrepanet

open Firestore

-- A home screen is built with the user that `prepare(for:sender:)` hands over.
inductive Home where
  | alumnos (user : User)
  | vistaInicial (user : User)
deriving DecidableEq

def Home.user : Home → User
  | .alumnos user | .vistaInicial user => user

structure UIAlertController where
  title : String
  message : String
deriving DecidableEq

inductive Presented where
  | alert (alerta : UIAlertController)
  | home (home : Home)
deriving DecidableEq

inductive Segue where
  | vistaAlumno
  | vistaProfesor
deriving DecidableEq

-- The login screen. Implicitly unwrapped fields are `none` until they are set.
structure ViewController where
  user : Option User := none
  rol : Option String := none
  tfUser : String := ""
  tfPassword : String := ""
  presented : Option Presented := none
deriving DecidableEq

def userOf (document : Document) : User where
  nombre := document.stringOrEmpty "nombre"
  email := document.stringOrEmpty "email"
  matricula := document.documentID
  campus := document.stringOrEmpty "campus"
  rol := document.stringOrEmpty "rol"

namespace ViewController

-- A screen that presents something presents nothing else.
def present (screen : ViewController) (presented : Presented) : ViewController :=
  if screen.presented.isNone then { screen with presented := some presented } else screen

-- `none` is the trap: of the forced cast of `segue.destination`, or of reading `user`
-- while it is nil.
def prepare (screen : ViewController) : Segue → Option Home
  | .vistaAlumno => if screen.rol = some "Alumno" then screen.user.map .alumnos else none
  | .vistaProfesor => if screen.rol = some "Alumno" then none else screen.user.map .vistaInicial

-- The destination is prepared even when it cannot be presented.
def performSegue (screen : ViewController) (segue : Segue) : Option ViewController :=
  (screen.prepare segue).map fun home => screen.present (.home home)

-- What `btEntrar` hands to `signIn`.
def credentials (screen : ViewController) : String × String :=
  (Swift.trimming screen.tfUser, Swift.trimming screen.tfPassword)

def signInError (screen : ViewController) : ViewController :=
  screen.present (.alert { title := "Error", message := "Email o password incorrecto" })

-- The closure that `btEntrar` hands to `getRol`.
def getRolCompletion (screen : ViewController) : Option ViewController :=
  if screen.rol = some "Alumno" then
    { screen with tfUser := "", tfPassword := "" }.performSegue .vistaAlumno
  else if screen.rol = some "Coord" then screen.performSegue .vistaProfesor
  else some screen

-- The callback of the query `UID = key`.
def getRol (screen : ViewController) : QueryResult → Option ViewController
  | .ok [document] =>
      let user := userOf document
      getRolCompletion { screen with user := some user, rol := some user.rol }
  | .ok _ | .error _ => some screen

-- `logOut` of both home screens: it dismisses the screen and does nothing else.
def logOut (screen : ViewController) : ViewController := { screen with presented := none }

end ViewController

end AppPrepanet
