import AppPrepanet.TableViewControllerAWorkshop
import AppPrepanet.TableViewControllerCampus

namespace AppPrepanet

-- The screen that a segue of a home screen leads to.
inductive Destino where
  | perfil (screen : VistaPerfil)
  | talleres (screen : TableViewControllerAWorkshop)
  | campus (screen : TableViewControllerCampus)
  | creditos
deriving DecidableEq

-- The home screen of a student.
structure ViewControllerAlumnos where
  user : User
  nombreAlumno : UILabel := { text := "" }
  matriculaAlumno : UILabel := { text := "" }
  campusAlumno : UILabel := { text := "" }
deriving DecidableEq

namespace ViewControllerAlumnos

inductive Segue where
  | perfilAlum
  | talleres
  | creditos
deriving DecidableEq

def setUIData (screen : ViewControllerAlumnos) : ViewControllerAlumnos :=
  { screen with
    nombreAlumno.text := screen.user.nombre
    matriculaAlumno.text := screen.user.matricula
    campusAlumno.text := "Campus " ++ screen.user.campus }

def viewDidLoad (screen : ViewControllerAlumnos) : ViewControllerAlumnos := screen.setUIData

-- The name and the matricula are taken from the labels.
def prepare (screen : ViewControllerAlumnos) : Segue → Destino
  | .perfilAlum => .perfil
      { user := screen.user
        nombre := screen.nombreAlumno.text
        matricula := some screen.matriculaAlumno.text
        campus := screen.user.campus }
  | .talleres => .talleres { user := screen.user }
  | .creditos => .creditos

-- The home screen that the login screen presents for a student, once it has loaded.
def home (user : User) : ViewControllerAlumnos := viewDidLoad { user := user }

theorem home_perfilAlum (user : User) :
    (home user).prepare .perfilAlum = .perfil
      { user := user, nombre := user.nombre, matricula := some user.matricula,
        campus := user.campus } := rfl

end ViewControllerAlumnos

-- The home screen of a coordinator.
structure ViewControllerVistaInicial where
  user : User
  nombreCoord : UILabel := { text := "Juan Lopez" }
  matriculaCoord : UILabel := { text := "A0XXXXXXX" }
  campusCoord : UILabel := { text := "Campus" }
deriving DecidableEq

namespace ViewControllerVistaInicial

inductive Segue where
  | talleres
  | alumnos
  | creditos
deriving DecidableEq

def setUIData (screen : ViewControllerVistaInicial) : ViewControllerVistaInicial :=
  { screen with
    nombreCoord.text := screen.user.nombre
    matriculaCoord.text := screen.user.matricula
    campusCoord.text := "Campus " ++ screen.user.campus }

def viewDidLoad (screen : ViewControllerVistaInicial) : ViewControllerVistaInicial :=
  screen.setUIData

-- The screen of campuses is not given anything.
def prepare (screen : ViewControllerVistaInicial) : Segue → Destino
  | .talleres => .talleres { user := screen.user }
  | .alumnos => .campus {}
  | .creditos => .creditos

def home (user : User) : ViewControllerVistaInicial := viewDidLoad { user := user }

end ViewControllerVistaInicial

end AppPrepanet
