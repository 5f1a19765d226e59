import AppPrepanet.Directorio
import AppPrepanet.Navigation

namespace AppPrepanet.App

-- The whole app: login, home, list and detail screens on one side, the screens that lead to
-- profiles on the other. A home screen presents one of the two sides at a time.
structure State where
  nav : Navigation.State
  dir : Directorio.State
deriving DecidableEq

inductive Event where
  | nav (event : Navigation.Event)
  | dir (event : Directorio.Event)
deriving DecidableEq

def start : State where
  nav := Navigation.start
  dir := Directorio.start

-- What takes a home screen with nothing on top of it.
def needsHome (event : Navigation.Event) : Bool :=
  event = .login .logOut || event = .openTalleres

-- This home screen is presented, without a list of workshops on top of it.
def AtHome (nav : Navigation.State) (home : Home) : Prop :=
  nav.login.screen.presented = some (.home home) ∧ nav.openList = none

instance (nav : Navigation.State) (home : Home) : Decidable (AtHome nav home) :=
  inferInstanceAs (Decidable (_ ∧ _))

-- The segues of the home screens: the student's leads to a profile, the coordinator's to the
-- campuses.
def Presents (nav : Navigation.State) : Directorio.Event → Prop
  | .perfilAlum user => AtHome nav (.alumnos user)
  | .campus user => AtHome nav (.vistaInicial user)
  | .campusAnswer _ _ | .campusCell _ _ | .selectCampus _ | .alumnosAnswer _ _
  | .alumnosCell _ _ | .selectAlumno _ | .coordAnswer _ _ | .enrollmentAnswer _ _
  | .perfilCell _ _ | .dismiss => True

instance (nav : Navigation.State) : DecidablePred (Presents nav)
  | .perfilAlum user => inferInstanceAs (Decidable (AtHome nav (.alumnos user)))
  | .campus user => inferInstanceAs (Decidable (AtHome nav (.vistaInicial user)))
  | .campusAnswer _ _ | .campusCell _ _ | .selectCampus _ | .alumnosAnswer _ _
  | .alumnosCell _ _ | .selectAlumno _ | .coordAnswer _ _ | .enrollmentAnswer _ _
  | .perfilCell _ _ | .dismiss => .isTrue trivial

def step (state : State) : Event → Option State
  | .nav event =>
      if needsHome event = true ∧ state.dir.top.isSome = true then none
      else (Navigation.step state.nav event).map fun nav => { state with nav := nav }
  | .dir event =>
      if Presents state.nav event then
        (Directorio.step state.dir event).map fun dir => { state with dir := dir }
      else none

-- Everything a step can do, with its guards.
inductive Step (state : State) : Event → State → Prop
  | nav {event : Navigation.Event} {nav : Navigation.State}
      (hfree : needsHome event = true → state.dir.top = none)
      (hstep : Navigation.step state.nav event = some nav) :
      Step state (.nav event) { state with nav := nav }
  | dir {event : Directorio.Event} {dir : Directorio.State} (hpresents : Presents state.nav event)
      (hstep : Directorio.step state.dir event = some dir) :
      Step state (.dir event) { state with dir := dir }

theorem Step.of_step {state next : State} {event : Event} (h : step state event = some next) :
    Step state event next := by
  cases event with
  | nav event =>
      simp only [step] at h
      split_ifs at h with hc
      obtain ⟨nav, hstep, rfl⟩ := Option.map_eq_some_iff.mp h
      refine .nav (fun hneeds => ?_) hstep
      simpa [hneeds] using hc
  | dir event =>
      simp only [step] at h
      split_ifs at h with hpresents
      obtain ⟨dir, hstep, rfl⟩ := Option.map_eq_some_iff.mp h
      exact .dir hpresents hstep

def navEvent : Event → Option Navigation.Event
  | .nav event => some event
  | .dir _ => none

def dirEvent : Event → Option Directorio.Event
  | .dir event => some event
  | .nav _ => none

section Runs

variable {events : List Event} {final : State}

-- Inside the app each side does nothing but run by itself.
theorem nav_run (hrun : Transition.run step start events = some final) :
    Transition.run Navigation.step Navigation.start (events.filterMap navEvent) =
      some final.nav := by
  have hown : ∀ state event next inner, navEvent event = some inner →
      step state event = some next → Navigation.step state.nav inner = some next.nav := by
    intro state event next inner hevent hstep
    cases Step.of_step hstep with
    | nav _ hnav =>
        cases hevent
        exact hnav
    | dir _ _ => cases hevent
  have hother : ∀ state event next, navEvent event = none → step state event = some next →
      next.nav = state.nav := by
    intro state event next hevent hstep
    cases Step.of_step hstep with
    | nav _ _ => cases hevent
    | dir _ _ => rfl
  exact Transition.run_component hown hother hrun

theorem dir_run (hrun : Transition.run step start events = some final) :
    Transition.run Directorio.step Directorio.start (events.filterMap dirEvent) =
      some final.dir := by
  have hown : ∀ state event next inner, dirEvent event = some inner →
      step state event = some next → Directorio.step state.dir inner = some next.dir := by
    intro state event next inner hevent hstep
    cases Step.of_step hstep with
    | nav _ _ => cases hevent
    | dir _ hdir =>
        cases hevent
        exact hdir
  have hother : ∀ state event next, dirEvent event = none → step state event = some next →
      next.dir = state.dir := by
    intro state event next hevent hstep
    cases Step.of_step hstep with
    | nav _ _ => rfl
    | dir _ _ => cases hevent
  exact Transition.run_component hown hother hrun

end Runs

end AppPrepanet.App
