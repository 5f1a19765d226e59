import AppPrepanet.Transition
import AppPrepanet.Loop
import AppPrepanet.Positions
import AppPrepanet.Named
import AppPrepanet.Growth
import AppPrepanet.Ladder
import AppPrepanet.Reuse
import AppPrepanet.Decimal
import AppPrepanet.Swift
import AppPrepanet.Firestore
import AppPrepanet.Model
import AppPrepanet.UIKit
import AppPrepanet.ViewControllerWorkshop
import AppPrepanet.ViewControllerWorkshop.Button
import AppPrepanet.ViewControllerWorkshop.Catalogue
import AppPrepanet.ViewControllerWorkshop.Documents
import AppPrepanet.ViewControllerWorkshop.Reqs
import AppPrepanet.ViewControllerWorkshop.Estado
import AppPrepanet.ViewControllerWorkshop.Looks
import AppPrepanet.ViewControllerWorkshop.Reload
import AppPrepanet.ViewControllerWorkshop.Order
import AppPrepanet.Inscripciones
import AppPrepanet.Inscripciones.Steps
import AppPrepanet.Inscripciones.Unique
import AppPrepanet.Inscripciones.Prerequisites
import AppPrepanet.Inscripciones.Failed
import AppPrepanet.Inscripciones.Taps
import AppPrepanet.Inscripciones.Looks
import AppPrepanet.Inscripciones.Behind
import AppPrepanet.Inscripciones.Complete
import AppPrepanet.ViewController
import AppPrepanet.ViewController.Role
import AppPrepanet.Login
import AppPrepanet.Login.Isolation
import AppPrepanet.Login.LogOut
import AppPrepanet.Login.Padding
import AppPrepanet.TableViewControllerAWorkshop
import AppPrepanet.TableViewControllerAWorkshop.Merge
import AppPrepanet.Talleres
import AppPrepanet.Talleres.Rows
import AppPrepanet.Talleres.Loads
import AppPrepanet.Talleres.Status
import AppPrepanet.Talleres.Order
import AppPrepanet.Talleres.History
import AppPrepanet.ViewControllerPerfil
import AppPrepanet.Coleccion
import AppPrepanet.Coleccion.Readers
import AppPrepanet.Coleccion.Screens
import AppPrepanet.Coleccion.Standing
import AppPrepanet.Coleccion.Isolation
import AppPrepanet.Estados
import AppPrepanet.Estados.Order
import AppPrepanet.Tablas
import AppPrepanet.Navigation
import AppPrepanet.Navigation.Session
import AppPrepanet.Navigation.Provenance
import AppPrepanet.Navigation.Components
import AppPrepanet.Navigation.NewSession
import AppPrepanet.Navigation.Survives
import AppPrepanet.VistaPerfil
import AppPrepanet.TableViewControllerAlumnos
import AppPrepanet.TableViewControllerCampus
import AppPrepanet.Inicio
import AppPrepanet.Directorio
import AppPrepanet.Directorio.Screens
import AppPrepanet.Directorio.Profiles
import AppPrepanet.Directorio.Students
import AppPrepanet.Directorio.Rows
import AppPrepanet.Directorio.NewSession
import AppPrepanet.Directorio.Survives
import AppPrepanet.App
import AppPrepanet.App.Session
import AppPrepanet.App.Survives
import AppPrepanet.App.Resume
import AppPrepanet.App.NewSession
import AppPrepanet.Servidor
import AppPrepanet.Servidor.Devices
import AppPrepanet.Servidor.Effects
import AppPrepanet.Servidor.Student
import AppPrepanet.Servidor.Alone
import AppPrepanet.Servidor.Arrives
import AppPrepanet.Servidor.Behind
import AppPrepanet.Servidor.Unique
