import AppPrepanet.Login.Isolation

namespace AppPrepanet.Login

open Firestore ViewController

-- The login screen the next person is meant to meet.
def Clean (state : State) : Prop :=
  state.screen.tfUser = "" ∧ state.screen.tfPassword = "" ∧ state.currentUser = none

-- No login step is in flight.
def Quiet (state : State) : Prop := ∀ chain ∈ state.chains, chain.stage = .finished

instance (state : State) : Decidable (Quiet state) := by unfold Quiet; infer_instance

-- Nobody gets past the sign-in without `Auth` knowing an account.
structure SignedIn (state : State) : Prop where
  chains : ∀ chain ∈ state.chains, chain.stage = .callback ∨ (∃ key, chain.stage = .getRol key) →
    state.currentUser ≠ none
  home : ∀ home, state.screen.presented = some (.home home) → state.currentUser ≠ none

-- A student's home screen is presented over empty fields, and nobody edits them below it.
def ClearedBelow (state : State) : Prop :=
  ∀ user, state.screen.presented = some (.home (.alumnos user)) →
    state.screen.tfUser = "" ∧ state.screen.tfPassword = ""

section Step

variable {state next : State} {event : Event}

-- Nothing ever signs out of `Auth`.
theorem Step.currentUser (hstep : Step state event next) (h : state.currentUser ≠ none) :
    next.currentUser ≠ none := by
  cases hstep with
  | signedIn _ _ _ => simp
  | edit _ _ _ | btEntrar _ | signInError _ _ _ | signInCallback _ _ _ | signInNobody _ _ _
  | rolAnswer _ _ _ _ | okAlert _ | logOut _ => exact h

theorem SignedIn.step (h : SignedIn state) (hstep : Step state event next) : SignedIn next := by
  refine ⟨fun chain hchain hpast => ?_, fun home hhome => ?_⟩
  · cases hstep with
    | edit _ _ _ | okAlert _ | logOut _ => exact h.chains chain hchain hpast
    | btEntrar _ =>
        rcases List.mem_append.mp hchain with hchain | hchain
        · exact h.chains chain hchain hpast
        · rw [List.mem_singleton.mp hchain] at hpast
          simp at hpast
    | signedIn _ _ _ => simp
    | @signInError tap old _ _ _ hold hstage =>
        rcases List.mem_or_eq_of_mem_set hchain with hchain | rfl
        · exact h.chains chain hchain hpast
        · simp at hpast
    | @signInCallback tap old userID hold hstage huser => simp [State.setChain, huser]
    | @signInNobody tap old hold hstage huser =>
        exact absurd huser (h.chains old (List.mem_of_getElem? hold) (.inl hstage))
    | @rolAnswer tap old key result screen hold hstage hanswers hscreen =>
        exact h.chains old (List.mem_of_getElem? hold) (.inr ⟨key, hstage⟩)
  · by_cases hbefore : state.screen.presented = some (.home home)
    · exact hstep.currentUser (h.home home hbefore)
    · obtain ⟨tap, document, chain, key, rfl, hold, hstage, _⟩ := hstep.presents hbefore hhome
      have hknown := h.chains chain (List.mem_of_getElem? hold) (.inr ⟨key, hstage⟩)
      exact hstep.currentUser hknown

theorem ClearedBelow.step (h : ClearedBelow state) (hstep : Step state event next) :
    ClearedBelow next := by
  intro user hshown
  cases hstep with
  | edit user pass hfree => simp [hfree] at hshown
  | btEntrar _ | signedIn _ _ _ | signInCallback _ _ _ | signInNobody _ _ _ => exact h user hshown
  | signInError _ _ _ =>
      rcases present_presented _ _ hshown with hshown | hnew
      · simpa [ViewController.signInError] using h user hshown
      · cases hnew
  | okAlert _ | logOut _ => cases hshown
  | rolAnswer _ _ _ hscreen =>
      cases RolStep.of_getRol hscreen with
      | ignored => exact h user hshown
      | alumno hrol => simp [clearFields]
      | coord hrol =>
          rcases present_presented _ _ hshown with hshown | hnew
          · simpa [setUser] using h user hshown
          · cases hnew
      | other _ _ => exact h user hshown

end Step

theorem start_signedIn : SignedIn start := ⟨by simp [start], by simp [start]⟩

theorem signedIn_run {events : List Event} {final : State}
    (hrun : Transition.run step start events = some final) : SignedIn final :=
  Transition.run_invariant (fun _ _ _ h hstep => SignedIn.step h (Step.of_step hstep))
    start_signedIn hrun

theorem clearedBelow_run {events : List Event} {final : State}
    (hrun : Transition.run step start events = some final) : ClearedBelow final :=
  Transition.run_invariant (fun _ _ _ h hstep => ClearedBelow.step h (Step.of_step hstep))
    (by simp [ClearedBelow, start]) hrun

-- What a `logOut` ends is a session of a home screen.
theorem logOut_run {events : List Event} {final : State}
    (hrun : Transition.run step start (events ++ [.logOut]) = some final) :
    ∃ state home, Transition.run step start events = some state ∧
      state.screen.presented = some (.home home) ∧
      final = { state with screen := state.screen.logOut, tapsAtLogOut := state.chains.length } := by
  obtain ⟨state, hr, hs⟩ := Transition.run_concat_eq_some.mp hrun
  cases Step.of_step hs with
  | @logOut home hhome => exact ⟨state, home, hr, hhome, rfl⟩

theorem logOut_currentUser {events : List Event} {final : State}
    (hrun : Transition.run step start (events ++ [.logOut]) = some final) :
    final.currentUser ≠ none := by
  obtain ⟨state, home, hr, hhome, rfl⟩ := logOut_run hrun
  exact (signedIn_run hr).home home hhome

-- After a student's session the fields are empty.
theorem logOut_fields {events : List Event} {final : State}
    (hrun : Transition.run step start (events ++ [.logOut]) = some final) :
    ∃ state home, Transition.run step start events = some state ∧
      state.screen.presented = some (.home home) ∧
      ∀ user, home = .alumnos user →
        final.screen.tfUser = "" ∧ final.screen.tfPassword = "" := by
  obtain ⟨state, home, hr, hhome, rfl⟩ := logOut_run hrun
  refine ⟨state, home, hr, hhome, fun user halumno => ?_⟩
  subst halumno
  have hcleared := clearedBelow_run hr user hhome
  exact hcleared

section Coord

variable {state next : State} {event : Event} {user pass : String}

-- The fields are edited, or an answer with the role of a student empties them.
def writesFields : Event → Bool
  | .edit _ _ => true
  | .rolAnswer _ (.ok [document]) => (userOf document).rol = "Alumno"
  | _ => false

-- What has been typed is still there, and no student's home screen has come over it.
structure Typed (user pass : String) (state : State) : Prop where
  tfUser : state.screen.tfUser = user
  tfPassword : state.screen.tfPassword = pass
  home : ∀ alumno, state.screen.presented ≠ some (.home (.alumnos alumno))

theorem Typed.step (h : Typed user pass state) (hevent : writesFields event = false)
    (hstep : Step state event next) : Typed user pass next := by
  cases hstep with
  | edit _ _ _ => cases hevent
  | btEntrar _ | signedIn _ _ _ | signInCallback _ _ _ | signInNobody _ _ _ =>
      exact ⟨h.tfUser, h.tfPassword, h.home⟩
  | okAlert _ | logOut _ => exact ⟨h.tfUser, h.tfPassword, fun alumno => nofun⟩
  | signInError _ _ _ =>
      refine ⟨by simpa [ViewController.signInError] using h.tfUser,
        by simpa [ViewController.signInError] using h.tfPassword, fun alumno hshown => ?_⟩
      rcases present_presented _ _ hshown with hshown | hnew
      · exact h.home alumno hshown
      · cases hnew
  | rolAnswer _ _ _ hscreen =>
      cases RolStep.of_getRol hscreen with
      | ignored => exact ⟨h.tfUser, h.tfPassword, h.home⟩
      | alumno hrol => simp [writesFields, hrol] at hevent
      | coord hrol =>
          refine ⟨by simpa [setUser] using h.tfUser, by simpa [setUser] using h.tfPassword,
            fun alumno hshown => ?_⟩
          rcases present_presented _ _ hshown with hshown | hnew
          · exact h.home alumno hshown
          · cases hnew
      | other _ _ => exact ⟨h.tfUser, h.tfPassword, h.home⟩

-- After a coordinator's session they still hold the credentials, as they were typed.
theorem logOut_keeps_credentials {first more : List Event} {final : State}
    (hquiet : ∀ event ∈ more, writesFields event = false)
    (hrun : Transition.run step start (first ++ .edit user pass :: more ++ [.logOut]) =
      some final) :
    (∃ state coordinador, Transition.run step start (first ++ .edit user pass :: more) =
      some state ∧ state.screen.presented = some (.home (.vistaInicial coordinador))) ∧
      final.screen.tfUser = user ∧ final.screen.tfPassword = pass := by
  obtain ⟨state, home, hr, hhome, rfl⟩ := logOut_run hrun
  have hsplit := hr
  rw [Transition.run_append, Option.bind_eq_some_iff] at hsplit
  obtain ⟨before, _, hrest⟩ := hsplit
  obtain ⟨typed, hedit, hmore⟩ := Option.bind_eq_some_iff.mp hrest
  have htyped : Typed user pass typed := by
    cases Step.of_step hedit with
    | edit _ _ hfree => exact ⟨rfl, rfl, fun alumno => by simp [hfree]⟩
  have hlast : Typed user pass state := Transition.run_invariant_along
    (fun _ _ _ h hevent hstep => Typed.step h hevent (Step.of_step hstep)) htyped
    (Transition.along_of_forall_mem hquiet typed) hmore
  refine ⟨⟨state, home.user, hr, ?_⟩, hlast.tfUser, hlast.tfPassword⟩
  cases home with
  | alumnos alumno => exact absurd hhome (hlast.home alumno)
  | vistaInicial coordinador => exact hhome

end Coord

-- Whatever the rounds were: of two runs that end with a `logOut`, neither leaves a clean
-- login screen.
theorem not_clean_after_logOut (events₁ events₂ : List Event) (final₁ final₂ : State)
    (hrun₁ : Transition.run step start (events₁ ++ [.logOut]) = some final₁)
    (hrun₂ : Transition.run step start (events₂ ++ [.logOut]) = some final₂) :
    ¬Clean final₁ ∧ ¬Clean final₂ := by
  have hknown₁ := logOut_currentUser hrun₁
  have hknown₂ := logOut_currentUser hrun₂
  exact ⟨fun hclean => hknown₁ hclean.2.2, fun hclean => hknown₂ hclean.2.2⟩

private def sesion (user uid matricula rol : String) : List Event :=
  [.edit user "secreto", .btEntrar, .signedIn 0 uid, .signInCallback 0,
    .rolAnswer 0 (.ok [⟨matricula, [("UID", .string uid), ("rol", .string rol)]⟩])]

theorem not_clean_after_logOut_twoRoles :
    ∃ final₁ final₂,
      Transition.run step start (sesion "ana@tec.mx" "u1" "A01" "Alumno" ++ [.logOut]) = some final₁ ∧
      Transition.run step start (sesion "luis@tec.mx" "u2" "L02" "Coord" ++ [.logOut]) = some final₂ ∧
      ¬Clean final₁ ∧ ¬Clean final₂ :=
  ⟨_, _, rfl, rfl, not_clean_after_logOut (sesion "ana@tec.mx" "u1" "A01" "Alumno")
    (sesion "luis@tec.mx" "u2" "L02" "Coord") _ _ rfl rfl⟩

-- After a coordinator's session even the password is still there.
theorem not_clean_coord :
    ¬∀ (events₁ events₂ : List Event) (final₁ final₂ : State),
      Transition.run step start (events₁ ++ [.logOut]) = some final₁ → Quiet final₁ →
      Transition.run step start (events₂ ++ [.logOut]) = some final₂ → Quiet final₂ →
      Clean final₁ ∧ Clean final₂ := by
  intro h
  have hclean := h (sesion "luis@tec.mx" "u2" "L02" "Coord") (sesion "ana@tec.mx" "u1" "A01" "Alumno")
    _ _ rfl (by decide) rfl (by decide)
  exact absurd hclean.1.2.1 (by decide)

end AppPrepanet.Login
