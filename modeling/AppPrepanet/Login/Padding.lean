import AppPrepanet.Login
import AppPrepanet.ViewController.Role

namespace AppPrepanet

open Firestore

namespace ViewController

-- The screen with the blanks around the credentials taken away. Everything else is as it was.
def clean (screen : ViewController) : ViewController :=
  { screen with
    tfUser := Swift.trimming screen.tfUser
    tfPassword := Swift.trimming screen.tfPassword }

section Clean

variable (screen : ViewController)

@[simp] theorem clean_presented : screen.clean.presented = screen.presented := rfl

theorem clean_present (presented : Presented) :
    (screen.present presented).clean = screen.clean.present presented := by
  cases hshown : screen.presented with
  | none =>
      rw [present_of_none _ _ hshown, present_of_none _ _ (by exact hshown)]
      rfl
  | some shown => rw [present_of_some _ _ hshown, present_of_some _ _ (by exact hshown)]

theorem clean_setUser (document : Document) :
    (screen.setUser document).clean = screen.clean.setUser document := rfl

theorem clean_clearFields : screen.clearFields.clean = screen.clean.clearFields := by
  have hempty : Swift.trimming "" = "" := by decide
  simp [clean, clearFields, hempty]

-- What is handed to `signIn` has no blanks around it any more.
@[simp] theorem clean_credentials : screen.clean.credentials = screen.credentials := by
  simp [credentials, clean, Swift.trimming_trimming]

theorem clean_getRol (result : QueryResult) :
    screen.clean.getRol result = (screen.getRol result).map clean := by
  match result with
  | .error _ | .ok [] | .ok (_ :: _ :: _) => rfl
  | .ok [document] =>
      by_cases halumno : (userOf document).rol = "Alumno"
      · rw [getRol_alumno _ _ halumno, getRol_alumno _ _ halumno, Option.map_some, clean_present,
          clean_clearFields, clean_setUser]
      by_cases hcoord : (userOf document).rol = "Coord"
      · rw [getRol_coord _ _ hcoord, getRol_coord _ _ hcoord, Option.map_some, clean_present,
          clean_setUser]
      · rw [getRol_other _ _ halumno hcoord, getRol_other _ _ halumno hcoord, Option.map_some,
          clean_setUser]

end Clean

end ViewController

namespace Login

open ViewController

def State.clean (state : State) : State := { state with screen := state.screen.clean }

def Event.clean : Event → Event
  | .edit user pass => .edit (Swift.trimming user) (Swift.trimming pass)
  | event => event

-- The same event, with blanks around what is typed.
inductive Pads : Event → Event → Prop
  | edit {user pass paddedUser paddedPass : String} (huser : Swift.Padded user paddedUser)
      (hpass : Swift.Padded pass paddedPass) :
      Pads (.edit user pass) (.edit paddedUser paddedPass)
  | same (event : Event) : Pads event event

theorem Pads.clean_eq {event padded : Event} (h : Pads event padded) :
    padded.clean = event.clean := by
  cases h with
  | edit huser hpass => simp only [Event.clean, huser.trimming_eq, hpass.trimming_eq]
  | same _ => rfl

section Step

variable (state : State)

@[simp] theorem clean_presented : state.clean.screen.presented = state.screen.presented := rfl

@[simp] theorem clean_chains : state.clean.chains = state.chains := rfl

@[simp] theorem clean_currentUser : state.clean.currentUser = state.currentUser := rfl

theorem clean_setChain (tap : ℕ) (chain : Chain) :
    (state.setChain tap chain).clean = state.clean.setChain tap chain := rfl

theorem clean_signInError : state.screen.signInError.clean = state.clean.screen.signInError :=
  state.screen.clean_present _

theorem clean_step (event : Event) :
    step state.clean event.clean = (step state event).map State.clean := by
  cases event with
  | edit user pass =>
      by_cases hfree : state.screen.presented.isNone = true
      · simp [step, Event.clean, hfree, State.clean, ViewController.clean]
      · simp [step, Event.clean, hfree]
  | btEntrar =>
      by_cases hfree : state.screen.presented.isNone = true
      · simp [step, Event.clean, hfree, State.clean]
      · simp [step, Event.clean, hfree]
  | signedIn tap uid =>
      cases hchain : state.chains[tap]? with
      | none => simp [step, Event.clean, hchain]
      | some chain =>
          cases hstage : chain.stage with
          | signIn email password =>
              simp [step, Event.clean, hchain, hstage]
              rfl
          | callback | getRol _ | finished => simp [step, Event.clean, hchain, hstage]
  | signInError tap err =>
      cases hchain : state.chains[tap]? with
      | none => simp [step, Event.clean, hchain]
      | some chain =>
          cases hstage : chain.stage with
          | signIn email password =>
              simp [step, Event.clean, hchain, hstage, ← clean_signInError]
              rfl
          | callback | getRol _ | finished => simp [step, Event.clean, hchain, hstage]
  | signInCallback tap =>
      cases hchain : state.chains[tap]? with
      | none => simp [step, Event.clean, hchain]
      | some chain =>
          cases hstage : chain.stage with
          | callback =>
              cases huser : state.currentUser <;>
                simp [step, Event.clean, hchain, hstage, huser, clean_setChain]
          | signIn _ _ | getRol _ | finished => simp [step, Event.clean, hchain, hstage]
  | rolAnswer tap result =>
      cases hchain : state.chains[tap]? with
      | none => simp [step, Event.clean, hchain]
      | some chain =>
          cases hstage : chain.stage with
          | getRol key =>
              by_cases hanswers : Answers key result
              · obtain ⟨next, hnext, _⟩ := state.screen.exists_rolStep result
                have hclean : state.clean.screen.getRol result = some next.clean :=
                  (state.screen.clean_getRol result).trans (congrArg _ hnext)
                simp [step, Event.clean, hchain, hstage, hanswers, hnext, hclean]
                rfl
              · simp [step, Event.clean, hchain, hstage, hanswers]
          | signIn _ _ | callback | finished => simp [step, Event.clean, hchain, hstage]
  | okAlert =>
      cases hshown : state.screen.presented with
      | none => simp [step, Event.clean, hshown]
      | some shown =>
          cases shown with
          | alert _ =>
              simp [step, Event.clean, hshown]
              rfl
          | home _ => simp [step, Event.clean, hshown]
  | logOut =>
      cases hshown : state.screen.presented with
      | none => simp [step, Event.clean, hshown]
      | some shown =>
          cases shown with
          | alert _ => simp [step, Event.clean, hshown]
          | home _ =>
              simp [step, Event.clean, hshown]
              rfl

end Step

theorem clean_run (state : State) (events : List Event) :
    Transition.run step state.clean (events.map Event.clean) =
      (Transition.run step state events).map State.clean :=
  Transition.run_map clean_step state events

-- Blanks typed around the credentials change nothing: the same is handed to `signIn`, the same
-- is shown, and the same can happen, whatever was typed around them.
theorem padding_irrelevant (state : State) (events padded : List Event)
    (h : List.Forall₂ Pads events padded) :
    (Transition.run step state padded).map State.clean =
      (Transition.run step state events).map State.clean := by
  have hclean : padded.map Event.clean = events.map Event.clean := by
    induction h with
    | nil => rfl
    | cons hpads _ ih => rw [List.map_cons, List.map_cons, hpads.clean_eq, ih]
  rw [← clean_run, ← clean_run, hclean]

private def coordinador : Document :=
  ⟨"L02", [("UID", .string "u2"), ("nombre", .string "Eva"), ("email", .string "eva@tec.mx"),
    ("campus", .string "MTY"), ("rol", .string "Coord")]⟩

private def entra (user pass : String) : List Event :=
  [.edit user pass, .btEntrar, .signedIn 0 "u2", .signInCallback 0,
    .rolAnswer 0 (.ok [coordinador])]

theorem padding_irrelevant_coordinador :
    ∃ final padded, Transition.run step start (entra "eva@tec.mx" "secreto") = some final ∧
      Transition.run step start (entra " eva@tec.mx" "secreto\n") = some padded ∧
      padded.screen.presented = some (.home (.vistaInicial (userOf coordinador))) ∧
      padded ≠ final ∧ some padded.clean = some final.clean :=
  ⟨_, _, rfl, rfl, by decide, by decide,
    padding_irrelevant start (entra "eva@tec.mx" "secreto") (entra " eva@tec.mx" "secreto\n")
      (.cons (.edit ⟨[' '], [], List.forall_mem_singleton.mpr rfl, List.forall_mem_nil _, rfl⟩
          ⟨[], ['\n'], List.forall_mem_nil _, List.forall_mem_singleton.mpr rfl, rfl⟩)
        (.cons (.same _) (.cons (.same _) (.cons (.same _) (.cons (.same _) .nil)))))⟩

end Login

end AppPrepanet
