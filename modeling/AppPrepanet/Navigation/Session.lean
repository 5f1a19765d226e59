import AppPrepanet.Login.Isolation
import AppPrepanet.Navigation
import AppPrepanet.Positions
import AppPrepanet.Talleres.Rows
import AppPrepanet.ViewControllerWorkshop.Button

namespace AppPrepanet.Navigation

open Firestore

-- Nothing that happens on a detail screen touches these.
structure Same (old new : Detail) : Prop where
  list : new.list = old.list
  user : new.view.user = old.view.user
  workshop : new.view.workshop = old.view.workshop
  isHidden : new.view.btInscripcion.isHidden = old.view.btInscripcion.isHidden

theorem same_fetchAnswer {detail : Detail} {result : QueryResult} {view : ViewControllerWorkshop}
    (hview : detail.view.getEnrollmentStatus result = some view) (fetched : Bool) :
    Same detail { detail with view := view, fetched := fetched } := by
  cases result with
  | error err =>
      cases hview
      exact ⟨rfl, rfl, rfl, rfl⟩
  | ok documents =>
      obtain ⟨inscripciones, _, rfl⟩ := detail.view.getEnrollmentStatus_ok.mp hview
      exact ⟨rfl, by simp, by simp, by simp⟩

theorem same_enrollBt (detail : Detail) :
    Same detail { detail with view := detail.view.enrollBt } := ⟨rfl, rfl, rfl, rfl⟩

theorem same_completion (detail : Detail) (err : Option String) :
    Same detail { detail with view := detail.view.enrollStudentCompletion err } := by
  cases err with
  | none => exact ⟨rfl, rfl, rfl, rfl⟩
  | some err => exact ⟨rfl, rfl, rfl, rfl⟩

-- The screens that are open belong to the session: they show the user of the home screen.
structure InSession (state : State) : Prop where
  kind : ∀ home, state.login.screen.presented = some (.home home) →
    (home = .alumnos home.user ∧ home.user.rol = "Alumno") ∨
      (home = .vistaInicial home.user ∧ home.user.rol = "Coord")
  list : ∀ index, state.openList = some index → ∃ home list,
    state.login.screen.presented = some (.home home) ∧ state.lists[index]? = some list ∧
      list.screen.user = home.user
  detail : ∀ index, state.openDetail = some index → ∃ home detail,
    state.login.screen.presented = some (.home home) ∧ state.details[index]? = some detail ∧
      detail.view.user = home.user ∧ state.openList.isSome = true

section Step

variable {state : State}

theorem InSession.login (h : InSession state) {event : Login.Event} {login : Login.State}
    (hlogOut : event = .logOut → state.openList = none)
    (hlogin : Login.Step state.login event login) :
    InSession { state with login := login } := by
  have hstays : ∀ home, state.openList.isSome = true →
      state.login.screen.presented = some (.home home) →
        login.screen.presented = some (.home home) := by
    intro home hopen hhome
    refine hlogin.home_stays (fun hevent => ?_) hhome
    simp [hlogOut hevent] at hopen
  refine ⟨fun home hhome => ?_, fun index hindex => ?_, fun index hindex => ?_⟩
  · by_cases hbefore : state.login.screen.presented = some (.home home)
    · exact h.kind home hbefore
    · obtain ⟨_, document, _, _, _, _, _, _, _, _, hkind⟩ := hlogin.presents hbefore hhome
      rcases hkind with ⟨rfl, hrol⟩ | ⟨rfl, hrol⟩
      · exact .inl ⟨rfl, hrol⟩
      · exact .inr ⟨rfl, hrol⟩
  · obtain ⟨home, list, hhome, hrest⟩ := h.list index hindex
    have hopen : state.openList.isSome = true := Option.isSome_iff_exists.mpr ⟨index, hindex⟩
    exact ⟨home, list, hstays home hopen hhome, hrest⟩
  · obtain ⟨home, detail, hhome, hdetail, huser, hopen⟩ := h.detail index hindex
    exact ⟨home, detail, hstays home hopen hhome, hdetail, huser, hopen⟩

theorem InSession.setDetail (h : InSession state) {index : ℕ} {old new : Detail}
    (hold : state.details[index]? = some old) (hsame : Same old new) :
    InSession (state.setDetail index new) := by
  refine ⟨h.kind, h.list, fun other hother => ?_⟩
  obtain ⟨home, detail, hhome, hdetail, huser, hopen⟩ := h.detail other hother
  by_cases heq : index = other
  · subst heq
    cases Option.some.inj (hold.symm.trans hdetail)
    have hlt := (List.getElem?_eq_some_iff.mp hold).1
    exact ⟨home, new, hhome, List.getElem?_set_self hlt, hsame.user.trans huser, hopen⟩
  · exact ⟨home, detail, hhome, (List.getElem?_set_ne heq).trans hdetail, huser, hopen⟩

theorem InSession.list_step (h : InSession state) {index : ℕ} {event : Talleres.Event}
    {list next : Talleres.State} (hlist : state.lists[index]? = some list)
    (hstep : Talleres.Step list event next) : InSession (state.setList index next) := by
  refine ⟨h.kind, fun other hother => ?_, h.detail⟩
  obtain ⟨home, found, hhome, hfound, huser⟩ := h.list other hother
  by_cases heq : index = other
  · subst heq
    cases Option.some.inj (hlist.symm.trans hfound)
    have hlt := (List.getElem?_eq_some_iff.mp hlist).1
    exact ⟨home, next, hhome, List.getElem?_set_self hlt, hstep.user_eq.trans huser⟩
  · exact ⟨home, found, hhome, (List.getElem?_set_ne heq).trans hfound, huser⟩

theorem InSession.step {next : State} {event : Event} (h : InSession state)
    (hstep : Step state event next) : InSession next := by
  cases hstep with
  | login hlogOut hlogin => exact h.login hlogOut (Login.Step.of_step hlogin)
  | @openTalleres home hhome hclosed =>
      refine ⟨h.kind, fun index hindex => ?_, fun index hindex => ?_⟩
      · cases hindex
        exact ⟨home, _, hhome, List.getElem?_concat_length, rfl⟩
      · obtain ⟨_, _, _, _, _, hopen⟩ := h.detail index hindex
        simp [hclosed] at hopen
  | list hlist hopen hstep => exact h.list_step hlist (Talleres.Step.of_step hstep)
  | @openDetail index row list object user hopen hlist hclosed hrow hprepare =>
      refine ⟨h.kind, h.list, fun other hother => ?_⟩
      cases hother
      obtain ⟨home, found, hhome, hfound, huser⟩ := h.list index hopen
      cases Option.some.inj (hlist.symm.trans hfound)
      obtain ⟨_, _, heq⟩ := Option.map_eq_some_iff.mp hprepare
      cases heq
      refine ⟨home, _, hhome, List.getElem?_concat_length, ?_, by simp [State.addDetail, hopen]⟩
      simpa [ViewControllerWorkshop.storyboard] using huser
  | fetchAnswer hdetail hfetched hview => exact h.setDetail hdetail (same_fetchAnswer hview true)
  | enrollBt hopen hdetail hbutton =>
      have hset := h.setDetail hdetail (same_enrollBt _)
      exact ⟨hset.kind, hset.list, hset.detail⟩
  | @completion index err write detail hwrite hdetail hanswered =>
      have hset := h.setDetail hdetail (same_completion detail err)
      exact ⟨hset.kind, hset.list, hset.detail⟩
  | backToList hopen =>
      refine ⟨h.kind, h.list, fun index hindex => ?_⟩
      cases hindex
  | backToHome hclosed hopen =>
      refine ⟨h.kind, fun index hindex => ?_, fun index hindex => ?_⟩
      · cases hindex
      · rw [hclosed] at hindex
        cases hindex

end Step

theorem inSession_run {events : List Event} {final : State}
    (hrun : Transition.run step start events = some final) : InSession final := by
  refine Transition.run_invariant (fun _ _ _ h hstep => InSession.step h (Step.of_step hstep))
    ⟨?_, ?_, ?_⟩ hrun <;> simp [start, Login.start]

end AppPrepanet.Navigation
