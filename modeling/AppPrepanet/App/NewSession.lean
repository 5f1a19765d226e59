import AppPrepanet.App
import AppPrepanet.Directorio.NewSession
import AppPrepanet.Navigation.NewSession

namespace AppPrepanet.App

open Firestore

-- What there is since `base`, as if there had been nothing before but the login screen, and the
-- events under the names that count from there.
def State.since (state base : State) : State where
  nav := state.nav.since base.nav
  dir := state.dir.since base.dir

def Event.since (base : State) : Event → Option Event
  | .nav event => (event.since base.nav).map .nav
  | .dir event => (event.since base.dir).map .dir

structure Fresh (base state : State) : Prop where
  nav : Navigation.Fresh base.nav state.nav
  dir : Directorio.Fresh base.dir state.dir

section Step

variable {base state next : State} {event inner : Event}

theorem needsHome_since {nav : Navigation.State} {event inner : Navigation.Event}
    (hevent : event.since nav = some inner) : needsHome inner = needsHome event := by
  cases event with
  | list _ _ | fetchAnswer _ _ | completion _ _ =>
      simp only [Navigation.Event.since] at hevent
      split_ifs at hevent
      cases hevent
      rfl
  | login _ | openTalleres | openDetail _ | enrollBt | backToList | backToHome =>
      cases hevent
      rfl

theorem atHome_since (base nav : Navigation.State) (home : Home) :
    AtHome (nav.since base) home ↔ AtHome nav home := by
  simp [AtHome, Navigation.State.since]

theorem presents_since (base nav : Navigation.State) {dir : Directorio.State}
    {event inner : Directorio.Event} (hevent : event.since dir = some inner) :
    Presents (nav.since base) inner ↔ Presents nav event := by
  cases event with
  | perfilAlum user | campus user =>
      cases hevent
      exact atHome_since base nav _
  | campusAnswer _ _ | alumnosAnswer _ _ | coordAnswer _ _ | enrollmentAnswer _ _ =>
      simp only [Directorio.Event.since] at hevent
      split_ifs at hevent
      cases hevent
      rfl
  | campusCell _ _ | selectCampus _ | alumnosCell _ _ | selectAlumno _ | perfilCell _ _ | dismiss =>
      cases hevent
      rfl

theorem Fresh.step (h : Fresh base state) (hstep : Step state event next) : Fresh base next := by
  cases hstep with
  | nav hfree hstep => exact ⟨h.nav.step (Navigation.Step.of_step hstep), h.dir⟩
  | dir hpresents hstep => exact ⟨h.nav, h.dir.step (Directorio.Step.of_step hstep)⟩

theorem Fresh.step_since (h : Fresh base state) (hevent : event.since base = some inner)
    (hstep : Step state event next) : App.step (state.since base) inner = some (next.since base) := by
  cases hstep with
  | @nav event nav hfree hstep =>
      obtain ⟨found, hfound, rfl⟩ := Option.map_eq_some_iff.mp hevent
      have hsince := h.nav.step_since hfound (Navigation.Step.of_step hstep)
      have hfree' : ¬(needsHome found = true ∧ (state.since base).dir.top.isSome = true) := by
        rw [needsHome_since hfound]
        rintro ⟨hneeds, hopen⟩
        simp [State.since, Directorio.State.since, hfree hneeds] at hopen
      have hsince' : Navigation.step (state.since base).nav found = some (nav.since base.nav) :=
        hsince
      simp only [App.step, if_neg hfree', hsince', Option.map_some]
      rfl
  | @dir event dir hpresents hstep =>
      obtain ⟨found, hfound, rfl⟩ := Option.map_eq_some_iff.mp hevent
      have hpresents' : Presents (state.since base).nav found :=
        (presents_since base.nav state.nav hfound).mpr hpresents
      have hsince : Directorio.step (state.since base).dir found = some (dir.since base.dir) :=
        h.dir.step_since hfound (Directorio.Step.of_step hstep)
      simp only [App.step, if_pos hpresents', hsince, Option.map_some]
      rfl

theorem Fresh.since_eq (h : Fresh base state) (hevent : event.since base = none)
    (hstep : Step state event next) : next.since base = state.since base := by
  cases hstep with
  | nav hfree hstep =>
      have hnone := Option.map_eq_none_iff.mp hevent
      simp only [State.since, h.nav.since_eq hnone (Navigation.Step.of_step hstep)]
  | dir hpresents hstep =>
      have hnone := Option.map_eq_none_iff.mp hevent
      simp only [State.since, Directorio.Step.since_eq hnone (Directorio.Step.of_step hstep)]

end Step

-- Once the screens over the home or the login screen have been closed, the app goes on as if
-- it had just been launched: of all that came before, of the queries that are still
-- unanswered and of the enrolments that are still being written, nothing is left to see but
-- the login screen itself.
theorem goes_on_afresh (first last : List Event) (middle final : State)
    (hfirst : Transition.run step start first = some middle)
    (hlist : middle.nav.openList = none) (htop : middle.dir.top = none)
    (hlast : Transition.run step middle last = some final) :
    Transition.run step { start with nav.login := middle.nav.login }
      (last.filterMap (Event.since middle)) = some (final.since middle) := by
  have hnav := nav_run hfirst
  have hfresh : Fresh middle middle :=
    ⟨Navigation.fresh_of_closed hnav hlist, Directorio.fresh_of_closed htop⟩
  have hlaunched : middle.since middle = { start with nav.login := middle.nav.login } := by
    simp only [State.since, Navigation.since_self hnav hlist, Directorio.since_self middle.dir htop]
    rfl
  have hinv : ∀ state event next, Fresh middle state → step state event = some next →
      Fresh middle next := fun _ _ _ h hstep => Fresh.step h (Step.of_step hstep)
  have hown : ∀ state event next inner, Fresh middle state → event.since middle = some inner →
      step state event = some next →
        step (state.since middle) inner = some (next.since middle) :=
    fun _ _ _ _ h hevent hstep => h.step_since hevent (Step.of_step hstep)
  have hother : ∀ state event next, Fresh middle state → event.since middle = none →
      step state event = some next → next.since middle = state.since middle :=
    fun _ _ _ h hevent hstep => h.since_eq hevent (Step.of_step hstep)
  rw [← hlaunched]
  exact Transition.run_component_of_inv hinv hown hother hfresh hlast

private def eloisa : Document :=
  ⟨"A51", [("UID", .string "u51"), ("nombre", .string "Eloisa"), ("rol", .string "Alumno")]⟩

private def fermin : Document :=
  ⟨"A52", [("UID", .string "u52"), ("nombre", .string "Fermin"), ("rol", .string "Alumno")]⟩

private def oratoria : Document :=
  ⟨"8", [("titulo", .string "Oratoria"), ("descripcion", .string ""),
    ("requerimientos", .array []), ("wkDate", .array [.timestamp ⟨3⟩, .timestamp ⟨5⟩])]⟩

private def login (events : List Login.Event) : List Event :=
  events.map fun event => .nav (.login event)

-- Eloisa logs out before any of her queries but the first one has been answered, and before her
-- enrolment has been written.
private def deEloisa : List Event :=
  login [.btEntrar, .signedIn 0 "u51", .signInCallback 0, .rolAnswer 0 (.ok [eloisa])] ++
    [.nav .openTalleres, .nav (.list 0 .viewWillAppear),
      .nav (.list 0 (.talleres 0 (.ok [oratoria]))), .nav (.openDetail 0), .nav .enrollBt,
      .nav .backToList, .nav .backToHome] ++ login [.logOut]

-- The rest comes while Fermin is looking at his own screens.
private def deFermin : List Event :=
  login [.btEntrar, .signedIn 1 "u52", .signInCallback 1, .rolAnswer 1 (.ok [fermin])] ++
    [.nav .openTalleres, .nav (.list 1 .viewWillAppear), .nav (.list 0 (.inscripciones 0 (.ok []))),
      .nav (.list 1 (.talleres 0 (.ok [oratoria]))), .nav (.completion 0 none),
      .nav (.openDetail 0), .nav (.fetchAnswer 0 (.ok [])), .nav (.fetchAnswer 1 (.ok []))]

theorem goes_on_afresh_deFermin :
    ∃ middle final, Transition.run step start deEloisa = some middle ∧
      Transition.run step middle deFermin = some final ∧
      deFermin.length = 12 ∧ (deFermin.filterMap (Event.since middle)).length = 9 ∧
      Transition.run step { start with nav.login := middle.nav.login }
        (deFermin.filterMap (Event.since middle)) = some (final.since middle) :=
  ⟨_, _, rfl, rfl, rfl, rfl, goes_on_afresh deEloisa deFermin _ _ rfl rfl rfl rfl⟩

end AppPrepanet.App
