import AppPrepanet.Login
import AppPrepanet.Positions
import AppPrepanet.ViewController.Role

namespace AppPrepanet.Login

open Firestore ViewController

-- What the login screen should be showing: the user of the account of the last tap, as
-- the answer that presents the screen gives it, and no `logOut` since that tap.
def ShowsLastTap (event : Event) (state : State) (home : Home) : Prop :=
  state.tapsAtLogOut < state.chains.length ∧
    ∃ chain ∈ state.chains.getLast?, ∃ uid, chain.account = some uid ∧
      ∃ tap document, event = .rolAnswer tap (.ok [document]) ∧
        document.fieldIs "UID" uid = true ∧ home.user = userOf document

-- The chain of the last tap, if no `logOut` has come since.
def Latest (state : State) (tap : ℕ) : Prop :=
  tap + 1 = state.chains.length ∧ state.tapsAtLogOut ≤ tap

instance (state : State) : DecidablePred (Latest state) := fun tap =>
  inferInstanceAs (Decidable (tap + 1 = state.chains.length ∧ state.tapsAtLogOut ≤ tap))

-- Chains may overlap, but no older one signs in while the one of the last tap waits for its
-- callback, and no older one gets the answer to its role query.
def Undisturbed (state : State) : Event → Prop
  | .signedIn tap _ => Latest state tap ∨ ∀ chain ∈ state.chains.getLast?, chain.stage ≠ .callback
  | .rolAnswer tap _ => Latest state tap
  | _ => True

instance (state : State) : DecidablePred (Undisturbed state)
  | .signedIn tap _ => by unfold Undisturbed; infer_instance
  | .rolAnswer tap _ => inferInstanceAs (Decidable (Latest state tap))
  | .edit _ _ | .btEntrar | .signInError _ _ | .signInCallback _ | .okAlert | .logOut =>
      .isTrue trivial

-- The chain works on the account that its tap has signed in.
structure OwnAccount (state : State) (chain : Chain) : Prop where
  callback : chain.stage = .callback → chain.account = state.currentUser
  key : ∀ key, chain.stage = .getRol key → chain.account = some key

-- The chain of the last tap does so; the others may not.
def Isolated (state : State) : Prop :=
  ∀ tap chain, state.chains[tap]? = some chain → tap + 1 = state.chains.length →
    OwnAccount state chain

section Chains

variable {state next : State} {tap : ℕ} {new : Chain}

theorem setChain_length : (state.setChain tap new).chains.length = state.chains.length :=
  List.length_set

-- One chain moves on. If it is not that of the last tap, that one has to be left alone.
theorem Isolated.of_setChain (h : Isolated state)
    (hchains : next.chains = (state.setChain tap new).chains)
    (huser : ∀ chain ∈ state.chains.getLast?, tap + 1 ≠ state.chains.length →
      chain.stage = .callback → next.currentUser = state.currentUser)
    (hnew : tap + 1 = state.chains.length → OwnAccount next new) : Isolated next := by
  intro other found hfound hlast
  rw [hchains] at hfound
  rw [hchains, setChain_length] at hlast
  rcases Positions.getElem?_set_eq_some hfound with ⟨rfl, rfl⟩ | ⟨hne, hsame⟩
  · exact hnew hlast
  · have hold := h other found hsame hlast
    have hget : found ∈ state.chains.getLast? := by
      have hother : state.chains.length - 1 = other := by omega
      rw [List.getLast?_eq_getElem?, hother, hsame]
      rfl
    refine ⟨fun hstage => ?_, hold.key⟩
    rw [huser found hget (by omega) hstage]
    exact hold.callback hstage

-- The other steps leave the chains and the account as they are.
theorem Isolated.of_eq (h : Isolated state) (hchains : next.chains = state.chains)
    (huser : next.currentUser = state.currentUser) : Isolated next := by
  intro tap chain hchain hlast
  rw [hchains] at hchain hlast
  have hold := h tap chain hchain hlast
  exact ⟨fun hstage => (hold.callback hstage).trans huser.symm, hold.key⟩

end Chains

theorem start_isolated : Isolated start :=
  fun tap chain hchain _ => by simp [start] at hchain

theorem Isolated.step {state next : State} {event : Event} (h : Isolated state)
    (hundisturbed : Undisturbed state event) (hstep : Step state event next) : Isolated next := by
  cases hstep with
  | edit _ _ _ | okAlert _ | logOut _ => exact h.of_eq rfl rfl
  | btEntrar hfree =>
      intro tap chain hchain hlast
      rcases Positions.getElem?_concat_eq_some hchain with hold | ⟨rfl, rfl⟩
      · -- an older chain is not the last one any more
        have hlt := (List.getElem?_eq_some_iff.mp hold).1
        rw [List.length_append, List.length_singleton] at hlast
        omega
      · exact ⟨by simp, by simp⟩
  | @signedIn tap chain email password uid hchain hstage =>
      refine h.of_setChain rfl (fun last hlast hne hcallback => ?_) fun _ => ⟨fun _ => rfl, by simp⟩
      rcases hundisturbed with hlatest | hwaits
      · exact absurd hlatest.1 hne
      · exact absurd hcallback (hwaits last hlast)
  | @signInError tap chain email password err hchain hstage =>
      exact h.of_setChain rfl (fun _ _ _ _ => rfl) fun _ => ⟨by simp, by simp⟩
  | @signInCallback tap chain userID hchain hstage huser =>
      refine h.of_setChain rfl (fun _ _ _ _ => rfl) fun hlast => ⟨by simp, fun key hkey => ?_⟩
      cases hkey
      exact ((h tap chain hchain hlast).callback hstage).trans huser
  | @signInNobody tap chain hchain hstage huser =>
      exact h.of_setChain rfl (fun _ _ _ _ => rfl) fun _ => ⟨by simp, by simp⟩
  | @rolAnswer tap chain key result screen hchain hstage hanswers hscreen =>
      exact h.of_setChain rfl (fun _ _ _ _ => rfl) fun _ => ⟨by simp, by simp⟩

-- Only the answer of a role query presents a home screen.
theorem Step.presents {state next : State} {event : Event} {home : Home}
    (hstep : Step state event next) (hbefore : state.screen.presented ≠ some (.home home))
    (hafter : next.screen.presented = some (.home home)) :
    ∃ tap document chain key, event = .rolAnswer tap (.ok [document]) ∧
      state.chains[tap]? = some chain ∧ chain.stage = .getRol key ∧
      document.fieldIs "UID" key = true ∧ next.chains = state.chains.set tap
        { chain with stage := .finished } ∧ next.tapsAtLogOut = state.tapsAtLogOut ∧
      ((home = .alumnos (userOf document) ∧ (userOf document).rol = "Alumno") ∨
        (home = .vistaInicial (userOf document) ∧ (userOf document).rol = "Coord")) := by
  cases hstep with
  | edit _ _ _ | btEntrar _ | signedIn _ _ _ | signInCallback _ _ _ | signInNobody _ _ _ =>
      exact absurd hafter hbefore
  | signInError _ _ _ =>
      rcases present_presented _ _ hafter with hshown | hnew
      · exact absurd hshown hbefore
      · cases hnew
  | okAlert _ | logOut _ => cases hafter
  | @rolAnswer tap chain key result screen hchain hstage hanswers hscreen =>
      obtain ⟨document, rfl, _, hhome⟩ := (RolStep.of_getRol hscreen).presents hbefore hafter
      exact ⟨tap, document, chain, key, rfl, hchain, hstage,
        hanswers document (List.mem_singleton_self document), rfl, rfl, hhome⟩

-- A home screen stays until `logOut`.
theorem Step.home_stays {state next : State} {event : Event} {home : Home}
    (hstep : Step state event next) (hne : event ≠ .logOut)
    (hhome : state.screen.presented = some (.home home)) :
    next.screen.presented = some (.home home) := by
  cases hstep with
  | edit _ _ hfree | btEntrar hfree => simp [hfree] at hhome
  | signedIn _ _ _ | signInCallback _ _ _ | signInNobody _ _ _ => exact hhome
  | signInError _ _ _ =>
      rw [ViewController.signInError, present_of_some _ _ hhome]
      exact hhome
  | rolAnswer _ _ _ hscreen =>
      cases RolStep.of_getRol hscreen with
      | ignored => exact hhome
      | alumno _ | coord _ =>
          rw [present_of_some _ _ (by exact hhome)]
          exact hhome
      | other _ _ => exact hhome
  | okAlert halert => simp [halert] at hhome
  | logOut _ => exact absurd rfl hne

theorem isolated_run {events : List Event} {final : State}
    (hundisturbed : Transition.Along step Undisturbed start events)
    (hrun : Transition.run step start events = some final) : Isolated final :=
  Transition.run_invariant_along
    (fun _ _ _ hinv hcond hstep => Isolated.step hinv hcond (Step.of_step hstep))
    start_isolated hundisturbed hrun

private def uidDocument (matricula uid rol : String) : Document :=
  ⟨matricula, [("UID", .string uid), ("nombre", .string "Ana"), ("email", .string "ana@tec.mx"),
    ("campus", .string "MTY"), ("rol", .string rol)]⟩

-- A student, and after her `logOut` a coordinator who taps twice: the first of the two chains
-- signs in and calls back in between, and only its answer is still to come.
private def overlappingTaps : List Event :=
  [.edit "ana@tec.mx" "secreto", .btEntrar, .signedIn 0 "u1", .signInCallback 0,
    .rolAnswer 0 (.ok [uidDocument "A01" "u1" "Alumno"]), .logOut, .btEntrar, .btEntrar,
    .signedIn 1 "u3", .signedIn 2 "u2", .signInCallback 2, .signInCallback 1]

end AppPrepanet.Login
