import AppPrepanet.ViewController

namespace AppPrepanet.ViewController

open Firestore

section Present

variable (screen : ViewController) (presented : Presented)

theorem present_of_none (h : screen.presented = none) :
    screen.present presented = { screen with presented := some presented } := by
  simp [present, h]

theorem present_of_some {shown : Presented} (h : screen.presented = some shown) :
    screen.present presented = screen := by
  simp [present, h]

@[simp] theorem present_tfUser : (screen.present presented).tfUser = screen.tfUser := by
  unfold present
  split_ifs <;> rfl

@[simp] theorem present_tfPassword : (screen.present presented).tfPassword = screen.tfPassword := by
  unfold present
  split_ifs <;> rfl

-- What is shown afterwards was shown before, or is what has been presented.
theorem present_presented {shown : Presented} (h : (screen.present presented).presented = some shown) :
    screen.presented = some shown ∨ shown = presented := by
  cases hp : screen.presented with
  | none =>
      rw [present_of_none screen presented hp] at h
      exact .inr (Option.some.inj h).symm
  | some other =>
      rw [present_of_some screen presented hp, hp] at h
      exact .inl h

end Present

-- What the only document of an answer leaves in the fields of the screen.
def setUser (screen : ViewController) (document : Document) : ViewController :=
  { screen with user := some (userOf document), rol := some (userOf document).rol }

def clearFields (screen : ViewController) : ViewController :=
  { screen with tfUser := "", tfPassword := "" }

section GetRol

variable (screen : ViewController) (document : Document)

theorem getRol_alumno (hrol : (userOf document).rol = "Alumno") :
    screen.getRol (.ok [document]) =
      some ((screen.setUser document).clearFields.present (.home (.alumnos (userOf document)))) := by
  simp [getRol, getRolCompletion, performSegue, prepare, setUser, clearFields, hrol]

theorem getRol_coord (hrol : (userOf document).rol = "Coord") :
    screen.getRol (.ok [document]) =
      some ((screen.setUser document).present (.home (.vistaInicial (userOf document)))) := by
  simp [getRol, getRolCompletion, performSegue, prepare, setUser, hrol]

theorem getRol_other (halumno : (userOf document).rol ≠ "Alumno")
    (hcoord : (userOf document).rol ≠ "Coord") :
    screen.getRol (.ok [document]) = some (screen.setUser document) := by
  simp [getRol, getRolCompletion, setUser, halumno, hcoord]

end GetRol

-- Everything an answer of the role query can do. No answer makes a forced cast fail.
inductive RolStep (screen : ViewController) : QueryResult → ViewController → Prop
  | ignored {result : QueryResult} : RolStep screen result screen
  | alumno {document : Document} (hrol : (userOf document).rol = "Alumno") :
      RolStep screen (.ok [document])
        ((screen.setUser document).clearFields.present (.home (.alumnos (userOf document))))
  | coord {document : Document} (hrol : (userOf document).rol = "Coord") :
      RolStep screen (.ok [document])
        ((screen.setUser document).present (.home (.vistaInicial (userOf document))))
  | other {document : Document} (halumno : (userOf document).rol ≠ "Alumno")
      (hcoord : (userOf document).rol ≠ "Coord") :
      RolStep screen (.ok [document]) (screen.setUser document)

theorem exists_rolStep (screen : ViewController) (result : QueryResult) :
    ∃ next, screen.getRol result = some next ∧ RolStep screen result next := by
  match result with
  | .error _ => exact ⟨screen, rfl, .ignored⟩
  | .ok [] => exact ⟨screen, rfl, .ignored⟩
  | .ok (_ :: _ :: _) => exact ⟨screen, rfl, .ignored⟩
  | .ok [document] =>
      by_cases halumno : (userOf document).rol = "Alumno"
      · exact ⟨_, screen.getRol_alumno document halumno, .alumno halumno⟩
      · by_cases hcoord : (userOf document).rol = "Coord"
        · exact ⟨_, screen.getRol_coord document hcoord, .coord hcoord⟩
        · exact ⟨_, screen.getRol_other document halumno hcoord, .other halumno hcoord⟩

theorem RolStep.of_getRol {screen next : ViewController} {result : QueryResult}
    (h : screen.getRol result = some next) : RolStep screen result next := by
  obtain ⟨other, ho, hstep⟩ := screen.exists_rolStep result
  cases Option.some.inj (h.symm.trans ho)
  exact hstep

-- A home screen that was not there before shows the user of the answer's only document,
-- and that user's role is the one the screen is for.
theorem RolStep.presents {screen next : ViewController} {result : QueryResult} {home : Home}
    (h : RolStep screen result next) (hbefore : screen.presented ≠ some (.home home))
    (hafter : next.presented = some (.home home)) :
    ∃ document, result = .ok [document] ∧ home.user = userOf document ∧
      ((home = .alumnos (userOf document) ∧ (userOf document).rol = "Alumno") ∨
        (home = .vistaInicial (userOf document) ∧ (userOf document).rol = "Coord")) := by
  cases h with
  | ignored => exact absurd hafter hbefore
  | @alumno document hrol =>
      rcases present_presented _ _ hafter with hshown | hnew
      · exact absurd hshown hbefore
      · cases hnew
        exact ⟨document, rfl, rfl, .inl ⟨rfl, hrol⟩⟩
  | @coord document hrol =>
      rcases present_presented _ _ hafter with hshown | hnew
      · exact absurd hshown hbefore
      · cases hnew
        exact ⟨document, rfl, rfl, .inr ⟨rfl, hrol⟩⟩
  | other _ _ => exact absurd hafter hbefore

end AppPrepanet.ViewController
