import AppPrepanet.Navigation
import AppPrepanet.Positions
import AppPrepanet.Talleres.Rows

namespace AppPrepanet.Navigation

def loginEvent : Event → Option Login.Event
  | .login event => some event
  | _ => none

def listEvent (index : ℕ) : Event → Option Talleres.Event
  | .list other event => if other = index then some event else none
  | _ => none

-- The events of a list screen, and none before it is opened.
structure ListRun (events : List Event) (state : State) : Prop where
  runs : ∀ index list, state.lists[index]? = some list → ∃ user,
    Transition.run Talleres.step (Talleres.start user) (events.filterMap (listEvent index)) =
      some list
  unopened : ∀ index, state.lists.length ≤ index → events.filterMap (listEvent index) = []

section Step

variable {events : List Event} {state next : State} {event : Event}

theorem Step.login_own {inner : Login.Event} (hevent : loginEvent event = some inner)
    (hstep : Step state event next) : Login.step state.login inner = some next.login := by
  cases hstep with
  | login hlogOut hlogin =>
      cases hevent
      exact hlogin
  | openTalleres _ _ | list _ _ _ | openDetail _ _ _ _ _ | fetchAnswer _ _ _ | enrollBt _ _ _
  | completion _ _ _ | backToList _ | backToHome _ _ => cases hevent

theorem Step.login_other (hevent : loginEvent event = none) (hstep : Step state event next) :
    next.login = state.login := by
  cases hstep with
  | login hlogOut hlogin => cases hevent
  | openTalleres _ _ | list _ _ _ | openDetail _ _ _ _ _ | fetchAnswer _ _ _ | enrollBt _ _ _
  | completion _ _ _ | backToList _ | backToHome _ _ => rfl

-- An event that is not the list's own leaves its run as it is.
theorem ListRun.other (h : ListRun events state) (hevent : ∀ index, listEvent index event = none)
    (hlists : next.lists = state.lists) : ListRun (events ++ [event]) next := by
  have hsame : ∀ index, (events ++ [event]).filterMap (listEvent index) =
      events.filterMap (listEvent index) := by
    intro index
    simp [List.filterMap_append, hevent index]
  refine ⟨fun index list hlist => ?_, fun index hle => ?_⟩
  · rw [hsame]
    exact h.runs index list (hlists ▸ hlist)
  · rw [hsame]
    exact h.unopened index (hlists ▸ hle)

theorem ListRun.list (h : ListRun events state) {index : ℕ} {event : Talleres.Event}
    {list next : Talleres.State} (hlist : state.lists[index]? = some list)
    (hstep : Talleres.step list event = some next) :
    ListRun (events ++ [Event.list index event]) (state.setList index next) := by
  have hlt : index < state.lists.length := (List.getElem?_eq_some_iff.mp hlist).1
  have hown : (events ++ [Event.list index event]).filterMap (listEvent index) =
      events.filterMap (listEvent index) ++ [event] := by
    simp [List.filterMap_append, listEvent]
  have hothers : ∀ other, other ≠ index →
      (events ++ [Event.list index event]).filterMap (listEvent other) =
        events.filterMap (listEvent other) := by
    intro other hne
    simp [List.filterMap_append, listEvent, Ne.symm hne]
  refine ⟨fun other found hfound => ?_, fun other hle => ?_⟩
  · rcases Positions.getElem?_set_eq_some hfound with ⟨rfl, rfl⟩ | ⟨hne, hsame⟩
    · obtain ⟨user, hrun⟩ := h.runs other list hlist
      exact ⟨user, by rw [hown]; exact Transition.run_concat_eq_some.mpr ⟨list, hrun, hstep⟩⟩
    · rw [hothers other hne]
      exact h.runs other found hsame
  · have hge : state.lists.length ≤ other := by simpa [State.setList] using hle
    rw [hothers other (by omega)]
    exact h.unopened other hge

theorem ListRun.openTalleres (h : ListRun events state) (user : User) :
    ListRun (events ++ [Event.openTalleres]) (state.addList user) := by
  have hsame : ∀ index, (events ++ [Event.openTalleres]).filterMap (listEvent index) =
      events.filterMap (listEvent index) := by
    intro index
    simp [List.filterMap_append, List.filterMap_cons, listEvent]
  refine ⟨fun index list hlist => ?_, fun index hle => ?_⟩
  · rw [hsame]
    rcases Positions.getElem?_concat_eq_some hlist with hlist | ⟨rfl, rfl⟩
    · exact h.runs index list hlist
    · exact ⟨user, by rw [h.unopened _ (Nat.le_refl _)]; rfl⟩
  · rw [hsame]
    apply h.unopened
    have hlength : state.lists.length + 1 ≤ index := by simpa [State.addList] using hle
    omega

theorem ListRun.step (h : ListRun events state) (hstep : Step state event next) :
    ListRun (events ++ [event]) next := by
  cases hstep with
  | openTalleres hhome hclosed => exact h.openTalleres _
  | list hlist hopen hstep => exact h.list hlist hstep
  | login _ _ | openDetail _ _ _ _ _ | fetchAnswer _ _ _ | enrollBt _ _ _ | completion _ _ _
  | backToList _ | backToHome _ _ => exact h.other (fun _ => rfl) rfl

end Step

-- Inside the app the login screen does nothing but run by itself.
theorem login_run {events : List Event} {final : State}
    (hrun : Transition.run step start events = some final) :
    Transition.run Login.step Login.start (events.filterMap loginEvent) = some final.login := by
  have hown : ∀ state event next inner, loginEvent event = some inner →
      step state event = some next → Login.step state.login inner = some next.login :=
    fun _ _ _ _ hevent hstep => (Step.of_step hstep).login_own hevent
  have hother : ∀ state event next, loginEvent event = none →
      step state event = some next → next.login = state.login :=
    fun _ _ _ hevent hstep => (Step.of_step hstep).login_other hevent
  exact Transition.run_component hown hother hrun

-- And so does every list screen, whatever the others do.
theorem list_run {events : List Event} {final : State}
    (hrun : Transition.run step start events = some final) {index : ℕ} {list : Talleres.State}
    (hlist : final.lists[index]? = some list) :
    ∃ user, Transition.run Talleres.step (Talleres.start user)
      (events.filterMap (listEvent index)) = some list := by
  have hstart : ListRun [] start := ⟨by simp [start], fun _ _ => rfl⟩
  have hruns := Transition.run_history hstart
    (fun _ _ _ _ h hstep => ListRun.step h (Step.of_step hstep)) hrun
  exact hruns.runs index list hlist

-- So every row of the list on the screen opens a detail screen.
theorem openDetail_isSome {events : List Event} {final : State}
    (hrun : Transition.run step start events = some final) {index row : ℕ}
    {list : Talleres.State} (hopen : final.openList = some index)
    (hlist : final.lists[index]? = some list) (hclosed : final.openDetail = none)
    (hrow : row < list.screen.rows.length) : (step final (.openDetail row)).isSome = true := by
  obtain ⟨user, hlistRun⟩ := list_run hrun hlist
  obtain ⟨object, hobject, _⟩ := (Talleres.agrees_run hlistRun).get hrow
  simp [step, hopen, hlist, hclosed, hrow, TableViewControllerAWorkshop.prepare, hobject]

end AppPrepanet.Navigation
