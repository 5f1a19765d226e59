import AppPrepanet.Inscripciones.Unique

namespace AppPrepanet.Inscripciones

open Firestore Growth ViewControllerWorkshop

-- What a screen can still hand to `addDocument`: one document while its button is enabled,
-- and one more as long as the answer of its fetch may enable the button again.
def Screen.allowance (screen : Screen) : ℕ :=
  (if screen.view.btInscripcion.isEnabled then 1 else 0) +
    (if screen.fetch.outstanding then 1 else 0)

-- What it has handed over so far.
def State.writesOf (state : State) (index : ℕ) : ℕ := state.writes.countP (·.screen = index)

section Allowance

theorem allowance_le (screen : Screen) : screen.allowance ≤ 2 := by
  unfold Screen.allowance
  split_ifs <;> omega

theorem allowance_of_answered {screen : Screen} (h : screen.fetch.outstanding = false) :
    screen.allowance = if screen.view.btInscripcion.isEnabled then 1 else 0 := by
  simp [Screen.allowance, h]

theorem allowance_enrollBt (screen : Screen) :
    ({ screen with view := screen.view.enrollBt } : Screen).allowance =
      if screen.fetch.outstanding then 1 else 0 := by
  simp [Screen.allowance, enrollBt, enrollStudent]

-- The answer uses up the part that stands for it, whatever it does to the button.
theorem allowance_deliver {screen : Screen} {documents : List Document}
    (hfetch : screen.fetch = .read documents) (view : ViewControllerWorkshop) :
    (⟨view, .delivered documents⟩ : Screen).allowance ≤ screen.allowance := by
  have hold : 1 ≤ screen.allowance := by simp [Screen.allowance, hfetch, Fetch.outstanding]
  have hnew : (⟨view, .delivered documents⟩ : Screen).allowance ≤ 1 := by
    rw [allowance_of_answered rfl]
    split_ifs <;> omega
  omega

theorem allowance_fail {screen : Screen} (hfetch : screen.fetch.outstanding = true) :
    screen.allowance = ({ screen with fetch := .failed } : Screen).allowance + 1 := by
  have hfailed : Fetch.failed.outstanding = false := rfl
  simp [Screen.allowance, hfetch, hfailed]

theorem allowance_completion (screen : Screen) (err : Option String) :
    ({ screen with view := screen.view.enrollStudentCompletion err } : Screen).allowance =
      screen.allowance := by
  cases err with
  | none => rfl
  | some err => rfl

end Allowance

section Step

variable {state next : State} {event : Event}

theorem Step.allowance (hstep : Step state event next) :
    Extends (fun old new => new.allowance ≤ old.allowance) state.screens next.screens := by
  have : Std.Refl fun old new : Screen => new.allowance ≤ old.allowance := ⟨fun _ => Nat.le_refl _⟩
  refine hstep.extends_screens ?_ ?_ ?_ ?_ ?_
  · intro screen documents hfetch
    simp [Screen.allowance, hfetch, Fetch.outstanding]
  · intro screen documents view hfetch _
    exact allowance_deliver hfetch view
  · intro screen hfetch
    have hfail := allowance_fail hfetch
    omega
  · intro screen
    rw [allowance_enrollBt]
    unfold Screen.allowance
    split_ifs <;> omega
  · intro screen err
    exact Nat.le_of_eq (allowance_completion screen err)

-- A write keeps the screen it came from.
theorem writesOf_setWrite {position : ℕ} {write : Write}
    (hwrite : state.writes[position]? = some write) (stage : Stage) (index : ℕ) :
    (state.setWrite position { write with stage := stage }).writesOf index =
      state.writesOf index := by
  have hset := countP_setWrite (fun write => decide (write.screen = index)) hwrite
    { write with stage := stage }
  exact Nat.add_right_cancel hset

-- A screen hands over a document at each of its taps, and at nothing else.
theorem Step.writesOf (hstep : Step state event next) (index : ℕ) :
    next.writesOf index = state.writesOf index + if event = .tap index then 1 else 0 := by
  cases hstep with
  | openScreen _ | read _ _ _ _ | deliver _ _ _ | deliverError _ _ | setStatus _ _ => rfl
  | @tap position screen hscreen hbutton =>
      simp [State.writesOf, State.addWrite, State.setScreen, List.countP_singleton]
  | store hwrite _ _ => exact writesOf_setWrite hwrite (.stored _) index
  | completed hwrite _ | failed hwrite _ =>
      have hset := writesOf_setWrite hwrite .finished index
      simpa [State.writesOf, callback_writes] using hset

-- At the tap of a screen its allowance goes down by one.
theorem Step.allowance_tap {index : ℕ} (hstep : Step state (.tap index) next) {screen : Screen}
    (hscreen : state.screens[index]? = some screen) :
    ∃ later, next.screens[index]? = some later ∧ later.allowance + 1 = screen.allowance := by
  cases hstep with
  | @tap _ found hfound hbutton =>
      cases Option.some.inj (hfound.symm.trans hscreen)
      have hlt := (List.getElem?_eq_some_iff.mp hscreen).1
      have henabled := (UIButton.sendsAction_iff.mp hbutton).1
      refine ⟨{ screen with view := screen.view.enrollBt }, List.getElem?_set_self hlt, ?_⟩
      rw [allowance_enrollBt, Screen.allowance, henabled]
      simp [Nat.add_comm]

-- What has been handed over and what is left never grow together.
theorem Step.spend {index : ℕ} (hstep : Step state event next) {screen : Screen}
    (hscreen : state.screens[index]? = some screen) :
    ∃ later, next.screens[index]? = some later ∧
      next.writesOf index + later.allowance ≤ state.writesOf index + screen.allowance := by
  have hwrites := hstep.writesOf index
  by_cases htap : event = .tap index
  · subst htap
    obtain ⟨later, hlater, hle⟩ := hstep.allowance_tap hscreen
    simp only [if_true] at hwrites
    exact ⟨later, hlater, by omega⟩
  · obtain ⟨later, hlater, hle⟩ := hstep.allowance index screen hscreen
    simp only [htap, if_false] at hwrites
    exact ⟨later, hlater, by omega⟩

end Step

section Run

variable {state final : State} {events : List Event}

-- An open screen keeps within a bound.
def Within (index bound : ℕ) (state : State) : Prop :=
  ∃ screen, state.screens[index]? = some screen ∧
    state.writesOf index + screen.allowance ≤ bound

theorem Within.step {index bound : ℕ} {next : State} {event : Event} (h : Within index bound state)
    (hstep : Step state event next) : Within index bound next := by
  obtain ⟨screen, hscreen, hle⟩ := h
  obtain ⟨later, hlater, hspend⟩ := hstep.spend hscreen
  exact ⟨later, hlater, Nat.le_trans hspend hle⟩

-- From any state on, a screen hands over no more than its allowance.
theorem spend_run {index : ℕ} {screen : Screen} (hscreen : state.screens[index]? = some screen)
    (hrun : Transition.run step state events = some final) :
    final.writesOf index ≤ state.writesOf index + screen.allowance := by
  have hwithin : Within index (state.writesOf index + screen.allowance) state :=
    ⟨screen, hscreen, Nat.le_refl _⟩
  obtain ⟨later, _, hle⟩ := Transition.run_invariant
    (fun _ _ _ h hstep => Within.step h (Step.of_step hstep)) hwithin hrun
  omega

-- Of a screen that is not open yet there is no write.
def Budgeted (state : State) : Prop :=
  ∀ index, state.writesOf index + ((state.screens[index]?).map Screen.allowance).getD 2 ≤ 2

theorem Budgeted.step {next : State} {event : Event} (h : Budgeted state)
    (hstep : Step state event next) : Budgeted next := by
  intro index
  have hindex := h index
  cases hscreen : state.screens[index]? with
  | some screen =>
      obtain ⟨later, hlater, hspend⟩ := hstep.spend hscreen
      simp only [hscreen, Option.map_some, Option.getD_some] at hindex
      simp only [hlater, Option.map_some, Option.getD_some]
      omega
  | none =>
      have hwrites := hstep.writesOf index
      have hnotap : event ≠ .tap index := by
        rintro rfl
        cases hstep with
        | tap hfound _ => simp [hscreen] at hfound
      simp only [hscreen, Option.map_none, Option.getD_none] at hindex
      simp only [hnotap, if_false] at hwrites
      cases hlater : next.screens[index]? with
      | none =>
          simp only [Option.map_none, Option.getD_none]
          omega
      | some later =>
          have hle := allowance_le later
          simp only [Option.map_some, Option.getD_some]
          omega

theorem budgeted_run {student : User} {collection : List Document}
    (hrun : Transition.run step (start student collection) events = some final) :
    Budgeted final :=
  Transition.run_invariant (fun _ _ _ h hstep => Budgeted.step h (Step.of_step hstep))
    (fun index => by simp [start, State.writesOf]) hrun

end Run

-- A screen hands over two documents at most, however its taps and its fetch interleave: one
-- before the answer and one after it. Once the fetch is answered, well or badly, it is one
-- more at most, and none when the button is disabled then.
theorem writesOf_le (student : User) (collection : List Document) (first last : List Event)
    (middle final : State)
    (hfirst : Transition.run step (start student collection) first = some middle)
    (hlast : Transition.run step middle last = some final) :
    (∀ index, final.writesOf index ≤ 2) ∧
    ∀ index screen, middle.screens[index]? = some screen → screen.fetch.outstanding = false →
      final.writesOf index ≤
        middle.writesOf index + if screen.view.btInscripcion.isEnabled then 1 else 0 := by
  constructor
  · intro index
    have hrun : Transition.run step (start student collection) (first ++ last) = some final := by
      rw [Transition.run_append, hfirst, Option.bind_some, hlast]
    exact Nat.le_trans (Nat.le_add_right _ _) (budgeted_run hrun index)
  · intro index screen hscreen hanswered
    rw [← allowance_of_answered hanswered]
    exact spend_run hscreen hlast

private def lucia : User :=
  { nombre := "Lucia", email := "lucia@tec.mx", matricula := "A11", campus := "MTY",
    rol := "Alumno" }

private def autoestima : Workshop :=
  { wkID := "1", title := "Autoestima", descr := "", req := [], startDate := 0, endDate := 5 }

-- The bound is reached: a tap before the answer and one after it.
theorem writesOf_le_both_taps :
    ∃ middle final, Transition.run step (start lucia [])
        [.openScreen autoestima, .tap 0, .read 0 [] [], .deliver 0] = some middle ∧
      Transition.run step middle [.tap 0] = some final ∧ final.writesOf 0 = 2 ∧
      (∀ index, final.writesOf index ≤ 2) ∧
      ∀ index screen, middle.screens[index]? = some screen → screen.fetch.outstanding = false →
        final.writesOf index ≤
          middle.writesOf index + if screen.view.btInscripcion.isEnabled then 1 else 0 :=
  ⟨_, _, rfl, rfl, by decide,
    writesOf_le lucia [] [.openScreen autoestima, .tap 0, .read 0 [] [], .deliver 0] [.tap 0] _ _
      rfl rfl⟩

end AppPrepanet.Inscripciones
