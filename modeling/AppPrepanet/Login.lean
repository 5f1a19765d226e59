import AppPrepanet.Transition
import AppPrepanet.ViewController

namespace AppPrepanet.Login

open Firestore

-- How far the chain of calls that one tap on `btEntrar` started has come. `key` is the UID
-- that the role query asks for.
inductive Stage where
  | signIn (email password : String)
  | callback
  | getRol (key : String)
  | finished
deriving DecidableEq

-- `account` is the account that the tap has signed in, once it has.
structure Chain where
  account : Option String := none
  stage : Stage
deriving DecidableEq

-- `Auth.currentUser` belongs to the app, not to the screen. `tapsAtLogOut` counts the taps
-- that were made before the last `logOut`.
structure State where
  screen : ViewController
  currentUser : Option String
  chains : List Chain
  tapsAtLogOut : ℕ
deriving DecidableEq

inductive Event where
  | edit (user pass : String)
  | btEntrar
  | signedIn (tap : ℕ) (uid : String)
  | signInError (tap : ℕ) (err : String)
  | signInCallback (tap : ℕ)
  | rolAnswer (tap : ℕ) (result : QueryResult)
  | okAlert
  | logOut
deriving DecidableEq

def start : State where
  screen := {}
  currentUser := none
  chains := []
  tapsAtLogOut := 0

def State.setChain (state : State) (tap : ℕ) (chain : Chain) : State :=
  { state with chains := state.chains.set tap chain }

-- Firestore answers the query `UID = key` with documents that have this UID.
def Answers (key : String) : QueryResult → Prop
  | .ok documents => ∀ document ∈ documents, document.fieldIs "UID" key = true
  | .error _ => True

instance (key : String) : DecidablePred (Answers key)
  | .ok documents =>
      inferInstanceAs (Decidable (∀ document ∈ documents, document.fieldIs "UID" key = true))
  | .error _ => .isTrue trivial

def step (state : State) : Event → Option State
  | .edit user pass =>
      if state.screen.presented.isNone then
        some { state with screen.tfUser := user, screen.tfPassword := pass }
      else none
  | .btEntrar =>
      if state.screen.presented.isNone then
        let (cleanUser, cleanPass) := state.screen.credentials
        some { state with chains := state.chains ++ [{ stage := .signIn cleanUser cleanPass }] }
      else none
  | .signedIn tap uid => do
      let chain ← state.chains[tap]?
      match chain.stage with
      | .signIn _ _ =>
          some { state.setChain tap { account := some uid, stage := .callback } with
            currentUser := some uid }
      | _ => none
  | .signInError tap _ => do
      let chain ← state.chains[tap]?
      match chain.stage with
      | .signIn _ _ =>
          some { state.setChain tap { chain with stage := .finished } with
            screen := state.screen.signInError }
      | _ => none
  | .signInCallback tap => do
      let chain ← state.chains[tap]?
      match chain.stage, state.currentUser with
      | .callback, some userID => some (state.setChain tap { chain with stage := .getRol userID })
      | .callback, none => some (state.setChain tap { chain with stage := .finished })
      | _, _ => none
  | .rolAnswer tap result => do
      let chain ← state.chains[tap]?
      match chain.stage with
      | .getRol key =>
          if Answers key result then
            let screen ← state.screen.getRol result
            some { state.setChain tap { chain with stage := .finished } with screen := screen }
          else none
      | _ => none
  | .okAlert =>
      match state.screen.presented with
      | some (.alert _) => some { state with screen.presented := none }
      | _ => none
  | .logOut =>
      match state.screen.presented with
      | some (.home _) =>
          some { state with screen := state.screen.logOut, tapsAtLogOut := state.chains.length }
      | _ => none

-- Everything a step can do, with its guards.
inductive Step (state : State) : Event → State → Prop
  | edit (user pass : String) (hfree : state.screen.presented = none) :
      Step state (.edit user pass)
        { state with screen.tfUser := user, screen.tfPassword := pass }
  | btEntrar (hfree : state.screen.presented = none) :
      Step state .btEntrar { state with chains := state.chains ++
        [{ stage := .signIn state.screen.credentials.1 state.screen.credentials.2 }] }
  | signedIn {tap : ℕ} {chain : Chain} {email password : String} (uid : String)
      (hchain : state.chains[tap]? = some chain) (hstage : chain.stage = .signIn email password) :
      Step state (.signedIn tap uid)
        { state.setChain tap { account := some uid, stage := .callback } with
          currentUser := some uid }
  | signInError {tap : ℕ} {chain : Chain} {email password : String} (err : String)
      (hchain : state.chains[tap]? = some chain) (hstage : chain.stage = .signIn email password) :
      Step state (.signInError tap err)
        { state.setChain tap { chain with stage := .finished } with
          screen := state.screen.signInError }
  | signInCallback {tap : ℕ} {chain : Chain} {userID : String}
      (hchain : state.chains[tap]? = some chain) (hstage : chain.stage = .callback)
      (huser : state.currentUser = some userID) :
      Step state (.signInCallback tap) (state.setChain tap { chain with stage := .getRol userID })
  | signInNobody {tap : ℕ} {chain : Chain} (hchain : state.chains[tap]? = some chain)
      (hstage : chain.stage = .callback) (huser : state.currentUser = none) :
      Step state (.signInCallback tap) (state.setChain tap { chain with stage := .finished })
  | rolAnswer {tap : ℕ} {chain : Chain} {key : String} {result : QueryResult}
      {screen : ViewController} (hchain : state.chains[tap]? = some chain)
      (hstage : chain.stage = .getRol key) (hanswers : Answers key result)
      (hscreen : state.screen.getRol result = some screen) :
      Step state (.rolAnswer tap result)
        { state.setChain tap { chain with stage := .finished } with screen := screen }
  | okAlert {alerta : UIAlertController} (halert : state.screen.presented = some (.alert alerta)) :
      Step state .okAlert { state with screen.presented := none }
  | logOut {home : Home} (hhome : state.screen.presented = some (.home home)) :
      Step state .logOut
        { state with screen := state.screen.logOut, tapsAtLogOut := state.chains.length }

theorem Step.of_step {state next : State} {event : Event} (h : step state event = some next) :
    Step state event next := by
  cases event with
  | edit user pass =>
      simp only [step, Option.isNone_iff_eq_none] at h
      split_ifs at h with hfree
      cases h
      exact .edit user pass hfree
  | btEntrar =>
      simp only [step, Option.isNone_iff_eq_none] at h
      split_ifs at h with hfree
      cases h
      exact .btEntrar hfree
  | signedIn tap uid =>
      obtain ⟨chain, hchain, h⟩ := Option.bind_eq_some_iff.mp h
      split at h
      · rename_i hstage
        cases h
        exact .signedIn uid hchain hstage
      · cases h
  | signInError tap err =>
      obtain ⟨chain, hchain, h⟩ := Option.bind_eq_some_iff.mp h
      split at h
      · rename_i hstage
        cases h
        exact .signInError err hchain hstage
      · cases h
  | signInCallback tap =>
      obtain ⟨chain, hchain, h⟩ := Option.bind_eq_some_iff.mp h
      split at h
      · rename_i userID hstage huser
        cases h
        exact .signInCallback hchain hstage huser
      · rename_i hstage huser
        cases h
        exact .signInNobody hchain hstage huser
      · cases h
  | rolAnswer tap result =>
      obtain ⟨chain, hchain, h⟩ := Option.bind_eq_some_iff.mp h
      split at h
      · rename_i key hstage
        split_ifs at h with hanswers
        obtain ⟨screen, hscreen, h⟩ := Option.bind_eq_some_iff.mp h
        cases h
        exact .rolAnswer hchain hstage hanswers hscreen
      · cases h
  | okAlert =>
      simp only [step] at h
      split at h
      · rename_i halert
        cases h
        exact .okAlert halert
      · cases h
  | logOut =>
      simp only [step] at h
      split at h
      · rename_i hhome
        cases h
        exact .logOut hhome
      · cases h

end AppPrepanet.Login
