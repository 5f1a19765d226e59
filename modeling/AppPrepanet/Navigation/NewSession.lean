import AppPrepanet.Navigation.Provenance
import AppPrepanet.Navigation.Session
import AppPrepanet.Positions

namespace AppPrepanet.Navigation

open Positions

-- The names that a screen and a write have for others, counted from `base` on.
def Detail.since (base : State) (detail : Detail) : Detail :=
  { detail with list := detail.list - base.lists.length }

def Write.since (base : State) (write : Write) : Write :=
  { write with detail := write.detail - base.details.length }

-- What there is since `base`, as if there had been nothing before but the login screen.
def State.since (state base : State) : State where
  login := state.login
  lists := Positions.since base.lists.length id state.lists
  details := Positions.since base.details.length (Detail.since base) state.details
  added := Positions.since base.added.length (Write.since base) state.added
  openList := state.openList.map (· - base.lists.length)
  openDetail := state.openDetail.map (· - base.details.length)

-- The event under the names that count from `base` on. What came before has no such name.
def Event.since (base : State) : Event → Option Event
  | .list index event =>
      if base.lists.length ≤ index then some (.list (index - base.lists.length) event) else none
  | .fetchAnswer index result =>
      if base.details.length ≤ index then
        some (.fetchAnswer (index - base.details.length) result)
      else none
  | .completion index err =>
      if base.added.length ≤ index then some (.completion (index - base.added.length) err)
      else none
  | event => some event

section Since

variable {state base : State} {index : ℕ}

theorem lists_since (hle : base.lists.length ≤ index) :
    (state.since base).lists[index - base.lists.length]? = state.lists[index]? := by
  simp [State.since, getElem?_since hle]

theorem since_addList (hle : base.lists.length ≤ state.lists.length) (user : User) :
    (state.addList user).since base = (state.since base).addList user := by
  simp [State.since, State.addList, since_concat hle]

theorem since_setList (hle : base.lists.length ≤ index) (list : Talleres.State) :
    (state.setList index list).since base =
      (state.since base).setList (index - base.lists.length) list := by
  simp [State.since, State.setList, since_set hle]

theorem since_setList_of_lt (hlt : index < base.lists.length) (list : Talleres.State) :
    (state.setList index list).since base = state.since base := by
  simp [State.since, State.setList, since_set_of_lt hlt]

theorem since_addDetail (hle : base.details.length ≤ state.details.length) (detail : Detail) :
    (state.addDetail detail).since base = (state.since base).addDetail (detail.since base) := by
  simp [State.since, State.addDetail, since_concat hle]

theorem since_setDetail (hle : base.details.length ≤ index) (detail : Detail) :
    (state.setDetail index detail).since base =
      (state.since base).setDetail (index - base.details.length) (detail.since base) := by
  simp [State.since, State.setDetail, since_set hle]

theorem since_setDetail_of_lt (hlt : index < base.details.length) (detail : Detail) :
    (state.setDetail index detail).since base = state.since base := by
  simp [State.since, State.setDetail, since_set_of_lt hlt]

theorem since_addWrite (hle : base.added.length ≤ state.added.length) (write : Write) :
    (state.addWrite write).since base = (state.since base).addWrite (write.since base) := by
  simp [State.since, State.addWrite, since_concat hle]

theorem since_setWrite (hle : base.added.length ≤ index) (write : Write) :
    (state.setWrite index write).since base =
      (state.since base).setWrite (index - base.added.length) (write.since base) := by
  simp [State.since, State.setWrite, since_set hle]

theorem since_setWrite_of_lt (hlt : index < base.added.length) (write : Write) :
    (state.setWrite index write).since base = state.since base := by
  simp [State.since, State.setWrite, since_set_of_lt hlt]

end Since

-- What is open is new, and the writes since then are those of the new screens.
structure Fresh (base state : State) : Prop where
  lists : base.lists.length ≤ state.lists.length
  details : base.details.length ≤ state.details.length
  added : base.added.length ≤ state.added.length
  openList : ∀ index, state.openList = some index → base.lists.length ≤ index
  openDetail : ∀ index, state.openDetail = some index → base.details.length ≤ index
  writes : ∀ (index : ℕ) (write : Write), state.added[index]? = some write →
    (base.added.length ≤ index ↔ base.details.length ≤ write.detail)

section Step

variable {base state next : State} {event inner : Event}

theorem Fresh.step (h : Fresh base state) (hstep : Step state event next) : Fresh base next := by
  cases hstep with
  | login _ _ => exact ⟨h.lists, h.details, h.added, h.openList, h.openDetail, h.writes⟩
  | openTalleres hhome hclosed =>
      refine ⟨?_, h.details, h.added, fun index hindex => ?_, h.openDetail, h.writes⟩
      · simpa [State.addList] using Nat.le_succ_of_le h.lists
      · cases hindex
        exact h.lists
  | list _ _ _ =>
      refine ⟨?_, h.details, h.added, h.openList, h.openDetail, h.writes⟩
      simpa [State.setList] using h.lists
  | openDetail _ _ _ _ _ =>
      refine ⟨h.lists, ?_, h.added, h.openList, fun index hindex => ?_, h.writes⟩
      · simpa [State.addDetail] using Nat.le_succ_of_le h.details
      · cases hindex
        exact h.details
  | fetchAnswer _ _ _ =>
      refine ⟨h.lists, ?_, h.added, h.openList, h.openDetail, h.writes⟩
      simpa [State.setDetail] using h.details
  | @enrollBt index detail hopen hdetail hbutton =>
      refine ⟨h.lists, ?_, ?_, h.openList, h.openDetail, ?_⟩
      · simpa [State.setDetail, State.addWrite] using h.details
      · simpa [State.setDetail, State.addWrite] using Nat.le_succ_of_le h.added
      · exact forall_getElem?_concat h.writes ⟨fun _ => h.openDetail index hopen, fun _ => h.added⟩
  | @completion index err write detail hwrite hdetail hanswered =>
      refine ⟨h.lists, ?_, ?_, h.openList, h.openDetail, ?_⟩
      · simpa [State.setDetail, State.setWrite] using h.details
      · simpa [State.setDetail, State.setWrite] using h.added
      · exact forall_getElem?_set h.writes (h.writes index write hwrite)
  | backToList _ => exact ⟨h.lists, h.details, h.added, h.openList, by simp, h.writes⟩
  | backToHome hclosed _ =>
      exact ⟨h.lists, h.details, h.added, by simp, by simp [hclosed], h.writes⟩

-- What happens to something new happens to it in the same way without the rest.
theorem Fresh.step_since (h : Fresh base state) (hevent : event.since base = some inner)
    (hstep : Step state event next) :
    Navigation.step (state.since base) inner = some (next.since base) := by
  cases hstep with
  | @login event login hlogOut hlogin =>
      cases hevent
      have hfree : ¬(event = .logOut ∧ (state.since base).openList.isSome = true) := by
        rintro ⟨rfl, hopen⟩
        simp [State.since, hlogOut rfl] at hopen
      have hlogin' : Login.step (state.since base).login event = some login := hlogin
      simp only [Navigation.step, if_neg hfree, hlogin', Option.map_some]
      rfl
  | @openTalleres home hhome hclosed =>
      cases hevent
      have hhome' : (state.since base).login.screen.presented = some (.home home) := hhome
      have hclosed' : (state.since base).openList = none := by simp [State.since, hclosed]
      simp [Navigation.step, hhome', hclosed', since_addList h.lists]
  | @list index event list next hlist hopen hstep =>
      simp only [Event.since] at hevent
      split_ifs at hevent with hle
      cases hevent
      have hlist' : (state.since base).lists[index - base.lists.length]? = some list :=
        (lists_since hle).trans hlist
      have hopen' : isAnswer event = true ∨
          (state.since base).openList = some (index - base.lists.length) :=
        hopen.imp_right fun hindex => by simp [State.since, hindex]
      simp [Navigation.step, hlist', hopen', hstep, since_setList hle]
  | @openDetail index row list object user hopen hlist hclosed hrow hprepare =>
      cases hevent
      have hle := h.openList index hopen
      have hopen' : (state.since base).openList = some (index - base.lists.length) := by
        simp [State.since, hopen]
      have hlist' : (state.since base).lists[index - base.lists.length]? = some list :=
        (lists_since hle).trans hlist
      have hclosed' : (state.since base).openDetail = none := by simp [State.since, hclosed]
      simp [Navigation.step, hopen', hlist', hclosed', hrow, hprepare, since_addDetail h.details,
        Detail.since]
  | @fetchAnswer index result detail view hdetail hfetched hview =>
      simp only [Event.since] at hevent
      split_ifs at hevent with hle
      cases hevent
      have hdetail' : (state.since base).details[index - base.details.length]? =
          some (detail.since base) := getElem?_since_eq_some hle hdetail
      simp [Navigation.step, hdetail', Detail.since, hfetched, hview, since_setDetail hle]
  | @enrollBt index detail hopen hdetail hbutton =>
      cases hevent
      have hle := h.openDetail index hopen
      have hopen' : (state.since base).openDetail = some (index - base.details.length) := by
        simp [State.since, hopen]
      have hdetail' : (state.since base).details[index - base.details.length]? =
          some (detail.since base) := getElem?_since_eq_some hle hdetail
      rw [since_addWrite (by exact h.added), since_setDetail hle]
      simp [Navigation.step, hopen', hdetail', Detail.since, Write.since, hbutton]
  | @completion index err write detail hwrite hdetail hanswered =>
      simp only [Event.since] at hevent
      split_ifs at hevent with hle
      cases hevent
      have hledetail := (h.writes index write hwrite).mp hle
      have hwrite' : (state.since base).added[index - base.added.length]? =
          some (write.since base) := getElem?_since_eq_some hle hwrite
      have hdetail' : (state.since base).details[write.detail - base.details.length]? =
          some (detail.since base) := getElem?_since_eq_some hledetail hdetail
      simp [Navigation.step, hwrite', hdetail', Write.since, Detail.since, hanswered,
        since_setDetail hledetail, since_setWrite hle]
  | backToList hopen =>
      cases hevent
      have hopen' : (state.since base).openDetail.isSome = true := by
        simpa [State.since] using hopen
      simp only [Navigation.step, hopen', if_true]
      rfl
  | backToHome hclosed hopen =>
      cases hevent
      have hboth : (state.since base).openDetail = none ∧
          (state.since base).openList.isSome = true := by
        simpa [State.since, hclosed] using hopen
      simp only [Navigation.step, if_pos hboth]
      rfl

-- What happens to something that was there before leaves everything new alone.
theorem Fresh.since_eq (h : Fresh base state) (hevent : event.since base = none)
    (hstep : Step state event next) : next.since base = state.since base := by
  cases hstep with
  | @list index event list next hlist hopen hstep =>
      simp only [Event.since] at hevent
      split_ifs at hevent with hle
      exact since_setList_of_lt (Nat.lt_of_not_le hle) next
  | @fetchAnswer index result detail view hdetail hfetched hview =>
      simp only [Event.since] at hevent
      split_ifs at hevent with hle
      exact since_setDetail_of_lt (Nat.lt_of_not_le hle) _
  | @completion index err write detail hwrite hdetail hanswered =>
      simp only [Event.since] at hevent
      split_ifs at hevent with hle
      have hlt : write.detail < base.details.length := by
        by_contra hge
        exact hle ((h.writes index write hwrite).mpr (Nat.le_of_not_lt hge))
      rw [since_setWrite_of_lt (Nat.lt_of_not_le hle), since_setDetail_of_lt hlt]
  | login _ _ | openTalleres _ _ | openDetail _ _ _ _ _ | enrollBt _ _ _ | backToList _
  | backToHome _ _ => cases hevent

end Step

section Closed

variable {events : List Event} {base : State}

-- There is no detail screen without its list.
theorem openDetail_eq_none (hrun : Transition.run step start events = some base)
    (hclosed : base.openList = none) : base.openDetail = none := by
  by_contra hopen
  obtain ⟨index, hindex⟩ := Option.ne_none_iff_exists'.mp hopen
  obtain ⟨_, _, _, _, _, hlist⟩ := (inSession_run hrun).detail index hindex
  simp [hclosed] at hlist

-- Once everything has been closed, whatever gets opened is new.
theorem fresh_of_closed (hrun : Transition.run step start events = some base)
    (hclosed : base.openList = none) : Fresh base base := by
  have hdetail := openDetail_eq_none hrun hclosed
  refine ⟨Nat.le_refl _, Nat.le_refl _, Nat.le_refl _, by simp [hclosed], by simp [hdetail], ?_⟩
  intro index write hwrite
  have hlt := (List.getElem?_eq_some_iff.mp hwrite).1
  obtain ⟨detail, hfound, _⟩ := (traced_run hrun).added write (List.mem_of_getElem? hwrite)
  have hlt' := (List.getElem?_eq_some_iff.mp hfound).1
  omega

theorem since_self (hrun : Transition.run step start events = some base)
    (hclosed : base.openList = none) : base.since base = { start with login := base.login } := by
  have hdetail := openDetail_eq_none hrun hclosed
  simp [State.since, Positions.since, start, hclosed, hdetail]

end Closed

end AppPrepanet.Navigation
