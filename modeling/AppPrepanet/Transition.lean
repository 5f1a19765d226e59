import Mathlib.Data.List.Induction

namespace AppPrepanet.Transition

variable {σ τ ε : Type*}

-- A system is given by its step function. `none` means that the event cannot
-- happen in the state, or that the program does not survive it.
def run (step : σ → ε → Option σ) : σ → List ε → Option σ
  | state, [] => some state
  | state, event :: rest => (step state event).bind fun next => run step next rest

-- Every event of the run meets `cond` in the state it happens in.
def Along (step : σ → ε → Option σ) (cond : σ → ε → Prop) : σ → List ε → Prop
  | _, [] => True
  | state, event :: rest =>
      cond state event ∧ ∀ next ∈ step state event, Along step cond next rest

instance Along.decidable (step : σ → ε → Option σ) (cond : σ → ε → Prop)
    [hcond : ∀ state event, Decidable (cond state event)] :
    ∀ state events, Decidable (Along step cond state events)
  | _, [] => .isTrue trivial
  | state, event :: rest =>
      match hnext : step state event with
      | none => decidable_of_iff (cond state event) (by simp [Along, hnext])
      | some next =>
          have := Along.decidable step cond next rest
          decidable_of_iff (cond state event ∧ Along step cond next rest)
            (by simp [Along, hnext])

section Run

variable {step : σ → ε → Option σ} {cond : σ → ε → Prop}

@[simp] theorem run_nil (state : σ) : run step state [] = some state := rfl

@[simp] theorem run_cons (state : σ) (event : ε) (rest : List ε) :
    run step state (event :: rest) = (step state event).bind fun next => run step next rest := rfl

@[simp] theorem run_singleton (state : σ) (event : ε) : run step state [event] = step state event :=
  Option.bind_fun_some _

theorem run_append (state : σ) (first last : List ε) :
    run step state (first ++ last) =
      (run step state first).bind fun next => run step next last := by
  induction first generalizing state with
  | nil => rfl
  | cons event rest ih =>
      simp only [List.cons_append, run_cons, Option.bind_assoc]
      exact congrArg _ (funext ih)

theorem run_concat_eq_some {state final : σ} {events : List ε} {event : ε} :
    run step state (events ++ [event]) = some final ↔
      ∃ middle, run step state events = some middle ∧ step middle event = some final := by
  simp [run_append, Option.bind_eq_some_iff]

theorem along_true (state : σ) (events : List ε) : Along step (fun _ _ => True) state events := by
  induction events generalizing state with
  | nil => trivial
  | cons event rest ih => exact ⟨trivial, fun next _ => ih next⟩

theorem Along.imp {cond' : σ → ε → Prop} {state : σ} {events : List ε}
    (h : Along step cond state events)
    (himp : ∀ state event, cond state event → cond' state event) :
    Along step cond' state events := by
  induction events generalizing state with
  | nil => trivial
  | cons event rest ih => exact ⟨himp state event h.1, fun next hs => ih (h.2 next hs)⟩

theorem along_of_forall_mem {P : ε → Prop} {events : List ε} (h : ∀ event ∈ events, P event)
    (state : σ) : Along step (fun _ event => P event) state events := by
  induction events generalizing state with
  | nil => trivial
  | cons event rest ih =>
      obtain ⟨hevent, hrest⟩ := List.forall_mem_cons.mp h
      exact ⟨hevent, fun next _ => ih hrest next⟩

theorem Along.append {state middle : σ} {first last : List ε}
    (h : Along step cond state (first ++ last)) (hr : run step state first = some middle) :
    Along step cond state first ∧ Along step cond middle last := by
  induction first generalizing state with
  | nil =>
      cases hr
      exact ⟨trivial, h⟩
  | cons event rest ih =>
      obtain ⟨next, hs, hr⟩ := Option.bind_eq_some_iff.mp hr
      have hrest := ih (h.2 next hs) hr
      refine ⟨⟨h.1, fun other ho => ?_⟩, hrest.2⟩
      cases Option.some.inj (hs.symm.trans ho)
      exact hrest.1

theorem along_append {state middle : σ} {first last : List ε}
    (hfirst : Along step cond state first) (hr : run step state first = some middle)
    (hlast : Along step cond middle last) : Along step cond state (first ++ last) := by
  induction first generalizing state with
  | nil =>
      cases hr
      exact hlast
  | cons event rest ih =>
      obtain ⟨next, hs, hr⟩ := Option.bind_eq_some_iff.mp hr
      refine ⟨hfirst.1, fun other ho => ?_⟩
      cases Option.some.inj (hs.symm.trans ho)
      exact ih (hfirst.2 next hs) hr

end Run

section Invariant

variable {step : σ → ε → Option σ} {cond : σ → ε → Prop}

-- What each step that meets `cond` preserves, a run whose steps all meet it preserves.
theorem run_invariant_along {Inv : σ → Prop}
    (hstep : ∀ state event next, Inv state → cond state event →
      step state event = some next → Inv next)
    {state final : σ} {events : List ε} (hinv : Inv state)
    (hcond : Along step cond state events) (hrun : run step state events = some final) :
    Inv final := by
  induction events generalizing state with
  | nil =>
      cases hrun
      exact hinv
  | cons event rest ih =>
      obtain ⟨next, hs, hr⟩ := Option.bind_eq_some_iff.mp hrun
      exact ih (hstep state event next hinv hcond.1 hs) (hcond.2 next hs) hr

theorem run_invariant {Inv : σ → Prop}
    (hstep : ∀ state event next, Inv state → step state event = some next → Inv next)
    {state final : σ} {events : List ε} (hinv : Inv state)
    (hrun : run step state events = some final) : Inv final :=
  run_invariant_along (fun state event next hi _ => hstep state event next hi)
    hinv (along_true state events) hrun

-- A fact about the events so far and the state they led to.
theorem run_history {Inv : List ε → σ → Prop} {start : σ} (hstart : Inv [] start)
    (hstep : ∀ events state event next, Inv events state →
      step state event = some next → Inv (events ++ [event]) next)
    {final : σ} {events : List ε} (hrun : run step start events = some final) :
    Inv events final := by
  induction events using List.reverseRecOn generalizing final with
  | nil =>
      cases hrun
      exact hstart
  | append_singleton events event ih =>
      obtain ⟨middle, hr, hs⟩ := run_concat_eq_some.mp hrun
      exact hstep events middle event final (ih hr) hs

end Invariant

-- There is a run from the one state to the other whose events all meet `cond`.
def CanReach (step : σ → ε → Option σ) (cond : σ → ε → Prop) (state final : σ) : Prop :=
  ∃ events, Along step cond state events ∧ run step state events = some final

namespace CanReach

variable {step : σ → ε → Option σ} {cond : σ → ε → Prop} {state middle final : σ}

theorem refl (state : σ) : CanReach step cond state state := ⟨[], trivial, rfl⟩

theorem single {event : ε} (hcond : cond state event) (hstep : step state event = some final) :
    CanReach step cond state final :=
  ⟨[event], ⟨hcond, fun _ _ => trivial⟩, by rw [run_singleton, hstep]⟩

theorem trans (hfirst : CanReach step cond state middle)
    (hlast : CanReach step cond middle final) : CanReach step cond state final := by
  obtain ⟨first, hf, hr⟩ := hfirst
  obtain ⟨last, hl, hr'⟩ := hlast
  refine ⟨first ++ last, along_append hf hr hl, ?_⟩
  rw [run_append, hr, Option.bind_some, hr']

theorem invariant (h : CanReach step cond state final) {Inv : σ → Prop}
    (hstep : ∀ state event next, Inv state → cond state event →
      step state event = some next → Inv next) (hinv : Inv state) : Inv final := by
  obtain ⟨events, hcond, hrun⟩ := h
  exact run_invariant_along hstep hinv hcond hrun

-- Where each level can be reached from the ones below it, all of them can.
theorem climb {Inv : σ → Prop} {level : ℕ → σ → Prop} {count : ℕ}
    (hup : ∀ k < count, ∀ state, Inv state → (∀ j < k, level j state) →
      ∃ final, CanReach step cond state final ∧ Inv final ∧ ∀ j ≤ k, level j final)
    (hinv : Inv state) :
    ∃ final, CanReach step cond state final ∧ Inv final ∧ ∀ j < count, level j final := by
  induction count with
  | zero => exact ⟨state, refl state, hinv, fun j hj => absurd hj (Nat.not_lt_zero j)⟩
  | succ count ih =>
      obtain ⟨middle, hmiddle, hinv', hbelow⟩ := ih fun k hk => hup k (by omega)
      obtain ⟨final, hfinal, hinv'', hlevel⟩ := hup count (by omega) middle hinv' hbelow
      exact ⟨final, hmiddle.trans hfinal, hinv'', fun j hj => hlevel j (by omega)⟩

-- Where a state that has not come down to zero can always be taken one step down, zero can be
-- reached.
theorem descend {Inv : σ → Prop} {rank : σ → ℕ}
    (hdown : ∀ state, Inv state → 0 < rank state → ∃ event next, cond state event ∧
      step state event = some next ∧ Inv next ∧ rank next < rank state)
    (hinv : Inv state) :
    ∃ final, CanReach step cond state final ∧ Inv final ∧ rank final = 0 := by
  induction hrank : rank state using Nat.strongRecOn generalizing state with
  | ind bound ih =>
      by_cases hzero : rank state = 0
      · exact ⟨state, refl state, hinv, hzero⟩
      · obtain ⟨event, next, hcond, hstep, hinv', hlt⟩ := hdown state hinv (by omega)
        obtain ⟨final, hfinal, hinv'', hlow⟩ := ih (rank next) (by omega) hinv' rfl
        exact ⟨final, (single hcond hstep).trans hfinal, hinv'', hlow⟩

end CanReach

-- What can only get lost on the way and holds at the end has held from the start.
theorem run_backward {step : σ → ε → Option σ} {Inv Ok : σ → Prop}
    (hinv : ∀ state event next, Inv state → step state event = some next → Inv next)
    (hback : ∀ state event next, Inv state → Ok next → step state event = some next → Ok state)
    {state final : σ} {events : List ε} (h : Inv state) (hok : Ok final)
    (hrun : run step state events = some final) : Ok state := by
  induction events generalizing state with
  | nil =>
      cases hrun
      exact hok
  | cons event rest ih =>
      obtain ⟨next, hs, hr⟩ := Option.bind_eq_some_iff.mp hrun
      exact hback state event next h (ih (hinv state event next h hs) hr) hs

-- A run is followed by another system that answers each step with steps of its own, or with
-- none. What the system keeps and what its last state says of those before it may be needed.
theorem run_simulates {δ : Type*} {step : σ → ε → Option σ} {other : τ → δ → Option τ}
    {cond : σ → ε → Prop} {cond' : τ → δ → Prop} {Inv Ok : σ → Prop} {Rel : σ → τ → Prop}
    (hinv : ∀ state event next, Inv state → step state event = some next → Inv next)
    (hback : ∀ state event next, Inv state → Ok next → step state event = some next → Ok state)
    (hstep : ∀ state image event next, Inv state → Ok next → Rel state image →
      cond state event → step state event = some next →
        ∃ after, CanReach other cond' image after ∧ Rel next after)
    {state final : σ} {image : τ} {events : List ε} (h : Inv state) (hok : Ok final)
    (hrel : Rel state image) (hcond : Along step cond state events)
    (hrun : run step state events = some final) :
    ∃ after, CanReach other cond' image after ∧ Rel final after := by
  induction events generalizing state image with
  | nil =>
      cases hrun
      exact ⟨image, .refl image, hrel⟩
  | cons event rest ih =>
      obtain ⟨next, hs, hr⟩ := Option.bind_eq_some_iff.mp hrun
      have hnext := hinv state event next h hs
      have hok' := run_backward hinv hback hnext hok hr
      obtain ⟨middle, hmiddle, hrel'⟩ := hstep state image event next h hok' hrel hcond.1 hs
      obtain ⟨after, hafter, hrel''⟩ := ih hnext hrel' (hcond.2 next hs) hr
      exact ⟨after, hmiddle.trans hafter, hrel''⟩

-- A run of the concrete system is followed by the total abstract one.
theorem run_refines {step : σ → ε → Option σ} {abstract : τ → ε → τ} {Rel : σ → τ → Prop}
    (hstep : ∀ state spec event next, Rel state spec → step state event = some next →
      Rel next (abstract spec event))
    {state final : σ} {spec : τ} {events : List ε} (hrel : Rel state spec)
    (hrun : run step state events = some final) : Rel final (events.foldl abstract spec) := by
  induction events generalizing state spec with
  | nil =>
      cases hrun
      exact hrel
  | cons event rest ih =>
      obtain ⟨next, hs, hr⟩ := Option.bind_eq_some_iff.mp hrun
      exact ih (hstep state spec event next hrel hs) hr

-- Where each step commutes with a map of the states and of the events, whole runs do.
theorem run_map {δ : Type*} {step : σ → ε → Option σ} {image : τ → δ → Option τ} {f : σ → τ}
    {g : ε → δ} (hstep : ∀ state event, image (f state) (g event) = (step state event).map f)
    (state : σ) (events : List ε) :
    run image (f state) (events.map g) = (run step state events).map f := by
  induction events generalizing state with
  | nil => rfl
  | cons event rest ih =>
      rw [List.map_cons, run_cons, run_cons, hstep]
      cases step state event with
      | none => rfl
      | some next => exact ih next

-- A component of the system runs by itself, through the events that are its own. What the system
-- keeps may be needed to see it.
theorem run_component_of_inv {δ : Type*} {step : σ → ε → Option σ} {component : τ → δ → Option τ}
    {view : σ → τ} {own : ε → Option δ} {Inv : σ → Prop}
    (hinv : ∀ state event next, Inv state → step state event = some next → Inv next)
    (hown : ∀ state event next inner, Inv state → own event = some inner →
      step state event = some next → component (view state) inner = some (view next))
    (hother : ∀ state event next, Inv state → own event = none →
      step state event = some next → view next = view state)
    {state final : σ} {events : List ε} (h : Inv state)
    (hrun : run step state events = some final) :
    run component (view state) (events.filterMap own) = some (view final) := by
  induction events generalizing state with
  | nil =>
      cases hrun
      rfl
  | cons event rest ih =>
      obtain ⟨next, hs, hr⟩ := Option.bind_eq_some_iff.mp hrun
      have hrest := ih (hinv state event next h hs) hr
      cases hevent : own event with
      | none =>
          rw [List.filterMap_cons_none hevent, ← hother state event next h hevent hs]
          exact hrest
      | some inner =>
          rw [List.filterMap_cons_some hevent, run_cons, hown state event next inner h hevent hs]
          exact hrest

theorem run_component {δ : Type*} {step : σ → ε → Option σ} {component : τ → δ → Option τ}
    {view : σ → τ} {own : ε → Option δ}
    (hown : ∀ state event next inner, own event = some inner → step state event = some next →
      component (view state) inner = some (view next))
    (hother : ∀ state event next, own event = none → step state event = some next →
      view next = view state)
    {state final : σ} {events : List ε} (hrun : run step state events = some final) :
    run component (view state) (events.filterMap own) = some (view final) := by
  have hinv : ∀ state event next, True → step state event = some next → True :=
    fun _ _ _ _ _ => trivial
  exact run_component_of_inv hinv (fun state event next inner _ => hown state event next inner)
    (fun state event next _ => hother state event next) trivial hrun

-- A run of a component is one of the system, where the system lets its events happen.
theorem run_embed {δ : Type*} {step : σ → ε → Option σ} {component : τ → δ → Option τ}
    {put : τ → σ} {inject : δ → ε} {Ok : δ → Prop}
    (hstep : ∀ inner event next, Ok event → component inner event = some next →
      step (put inner) (inject event) = some (put next))
    {inner final : τ} {events : List δ} (hok : ∀ event ∈ events, Ok event)
    (hrun : run component inner events = some final) :
    run step (put inner) (events.map inject) = some (put final) := by
  induction events generalizing inner with
  | nil =>
      cases hrun
      rfl
  | cons event rest ih =>
      obtain ⟨next, hnext, hrest⟩ := Option.bind_eq_some_iff.mp hrun
      have hfirst := hstep inner event next (hok event List.mem_cons_self) hnext
      rw [List.map_cons, run_cons, hfirst]
      exact ih (fun other ho => hok other (List.mem_cons_of_mem _ ho)) hrest

end AppPrepanet.Transition
