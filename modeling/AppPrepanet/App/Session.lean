import AppPrepanet.App
import AppPrepanet.Directorio.Profiles
import AppPrepanet.Navigation.Session

namespace AppPrepanet.App

open Firestore Growth

-- A profile stays the profile of its user.
def SamePerfil (old new : Directorio.PerfilScreen) : Prop :=
  new.opener = old.opener ∧ new.view.user = old.view.user

instance : Std.Refl SamePerfil := ⟨fun _ => ⟨rfl, rfl⟩⟩

-- The screen is one that this home screen leads to: a student's to the own profile, a
-- coordinator's to all the others.
def Leads (dir : Directorio.State) (home : Home) : Directorio.Top → Prop
  | .campus index => (∃ user, home = .vistaInicial user) ∧ index < dir.campuses.length
  | .alumnos index => (∃ user, home = .vistaInicial user) ∧ index < dir.alumnos.length
  | .perfil index => ∃ perfil, dir.perfiles[index]? = some perfil ∧
      ((home = .alumnos perfil.view.user ∧ perfil.opener = none) ∨
        ((∃ user, home = .vistaInicial user) ∧ perfil.opener.isSome = true))

structure InSession (state : State) : Prop where
  shows : Directorio.Shows state.dir
  top : ∀ top, state.dir.top = some top →
    ∃ home, AtHome state.nav home ∧ Leads state.dir home top

section Nav

-- Home screens stay under what they present.
theorem AtHome.step {nav next : Navigation.State} {event : Navigation.Event} {home : Home}
    (h : AtHome nav home) (hfree : needsHome event = false)
    (hstep : Navigation.Step nav event next) : AtHome next home := by
  obtain ⟨hhome, hclosed⟩ := h
  cases hstep with
  | login hlogOut hlogin =>
      refine ⟨(Login.Step.of_step hlogin).home_stays ?_ hhome, hclosed⟩
      rintro rfl
      simp [needsHome] at hfree
  | openTalleres _ _ => simp [needsHome] at hfree
  | backToHome _ _ => exact ⟨hhome, rfl⟩
  | list _ _ _ | openDetail _ _ _ _ _ | fetchAnswer _ _ _ | enrollBt _ _ _ | completion _ _ _
  | backToList _ => exact ⟨hhome, hclosed⟩

end Nav

section Dir

variable {dir next : Directorio.State} {event : Directorio.Event} {home : Home}

theorem Leads.mono {top : Directorio.Top} (h : Leads dir home top)
    (hcampuses : dir.campuses.length ≤ next.campuses.length)
    (halumnos : dir.alumnos.length ≤ next.alumnos.length)
    (hperfiles : Extends SamePerfil dir.perfiles next.perfiles) : Leads next home top := by
  cases top with
  | campus index => exact ⟨h.1, by have hlt := h.2; omega⟩
  | alumnos index => exact ⟨h.1, by have hlt := h.2; omega⟩
  | perfil index =>
      obtain ⟨perfil, hperfil, hkind⟩ := h
      obtain ⟨found, hfound, hopener, huser⟩ := hperfiles index perfil hperfil
      refine ⟨found, hfound, ?_⟩
      rw [hopener, huser]
      exact hkind

-- What is under the top screen is led to by the same home screen.
theorem Leads.below (hshows : Directorio.Shows dir) {top below : Directorio.Top}
    (h : Leads dir home top) (hbelow : dir.below top = some below) : Leads dir home below := by
  cases top with
  | campus index => cases hbelow
  | alumnos index =>
      obtain ⟨screen, hscreen, rfl⟩ := Option.map_eq_some_iff.mp hbelow
      obtain ⟨campus, hcampus, _⟩ :=
        (hshows.alumnos screen (List.mem_of_getElem? hscreen)).opener
      exact ⟨h.1, (List.getElem?_eq_some_iff.mp hcampus).1⟩
  | perfil index =>
      obtain ⟨opener, hopener, rfl⟩ := Option.map_eq_some_iff.mp hbelow
      obtain ⟨screen, hscreen, hopener⟩ := Option.bind_eq_some_iff.mp hopener
      obtain ⟨perfil, hperfil, hkind⟩ := h
      cases Option.some.inj (hscreen.symm.trans hperfil)
      obtain ⟨list, hlist, _⟩ :=
        (hshows.perfiles screen (List.mem_of_getElem? hscreen)).opener opener hopener
      rcases hkind with ⟨_, hnone⟩ | ⟨hcoord, _⟩
      · rw [hnone] at hopener
        cases hopener
      · exact ⟨hcoord, (List.getElem?_eq_some_iff.mp hlist).1⟩

-- Whatever is on top after a step was so before, was under it, or is a new screen that the
-- home screen or the screen on top has opened.
theorem leads_step {nav : Navigation.State} (hshows : Directorio.Shows dir)
    (h : ∀ top, dir.top = some top → ∃ home, AtHome nav home ∧ Leads dir home top)
    (hpresents : Presents nav event) (hstep : Directorio.Step dir event next) :
    ∀ top, next.top = some top → ∃ home, AtHome nav home ∧ Leads next home top := by
  have hmono : dir.campuses.length ≤ next.campuses.length →
      dir.alumnos.length ≤ next.alumnos.length →
      Extends SamePerfil dir.perfiles next.perfiles → next.top = dir.top →
      ∀ top, next.top = some top → ∃ home, AtHome nav home ∧ Leads next home top := by
    intro hcampuses halumnos hperfiles hsame top htop
    obtain ⟨home, hhome, hleads⟩ := h top (hsame ▸ htop)
    exact ⟨home, hhome, hleads.mono hcampuses halumnos hperfiles⟩
  cases hstep with
  | @perfilAlum user handed hclosed hprepare =>
      intro top htop
      cases htop
      refine ⟨.alumnos user, hpresents, _, List.getElem?_concat_length, .inl ⟨?_, rfl⟩⟩
      rw [ViewControllerAlumnos.home_perfilAlum] at hprepare
      cases hprepare
      simp
  | @campus user handed hclosed hprepare =>
      intro top htop
      cases htop
      refine ⟨.vistaInicial user, hpresents, ⟨user, rfl⟩, ?_⟩
      simp [Directorio.State.addCampus]
  | campusAnswer hscreen hanswer hview =>
      apply hmono _ (Nat.le_refl _) (.refl _) rfl
      simp [Directorio.State.setCampus]
  | selectCampus htop hscreen hrow hprepare =>
      intro top hnew
      cases hnew
      obtain ⟨home, hhome, hleads⟩ := h _ htop
      refine ⟨home, hhome, hleads.1, ?_⟩
      simp [Directorio.State.addAlumnos]
  | alumnosAnswer hscreen hanswer hquery =>
      apply hmono (Nat.le_refl _) _ (.refl _) rfl
      simp [Directorio.State.setAlumnos]
  | selectAlumno htop hscreen hrow hprepare =>
      intro top hnew
      cases hnew
      obtain ⟨home, hhome, hleads⟩ := h _ htop
      exact ⟨home, hhome, _, List.getElem?_concat_length, .inr ⟨hleads.1, rfl⟩⟩
  | coordAnswer hscreen hanswer hquery =>
      exact hmono (Nat.le_refl _) (Nat.le_refl _)
        (.set hscreen ⟨rfl, VistaPerfil.getAlumno_user _ _⟩) rfl
  | enrollmentAnswer hscreen hanswer hquery hview =>
      exact hmono (Nat.le_refl _) (Nat.le_refl _)
        (.set hscreen ⟨rfl, VistaPerfil.getEnrollmentStatus_user _ hview⟩) rfl
  | campusCell _ _ _ _ | alumnosCell _ _ _ _ | perfilCell _ _ _ _ => exact h
  | dismiss htop =>
      intro below hbelow
      obtain ⟨home, hhome, hleads⟩ := h _ htop
      exact ⟨home, hhome, hleads.below hshows hbelow⟩

end Dir

theorem InSession.step {state next : State} {event : Event} (h : InSession state)
    (hstep : Step state event next) : InSession next := by
  cases hstep with
  | @nav event nav hfree hstep =>
      refine ⟨h.shows, fun top htop => ?_⟩
      obtain ⟨home, hhome, hleads⟩ := h.top top htop
      have hother : needsHome event = false := by
        by_contra hneeds
        have hnone : state.dir.top = none := hfree (by simpa using hneeds)
        rw [hnone] at htop
        cases htop
      exact ⟨home, hhome.step hother (Navigation.Step.of_step hstep), hleads⟩
  | dir hpresents hstep =>
      have hdir := Directorio.Step.of_step hstep
      exact ⟨h.shows.step hdir, leads_step h.shows h.top hpresents hdir⟩

theorem inSession_run {events : List Event} {final : State}
    (hrun : Transition.run step start events = some final) : InSession final := by
  have hinv : ∀ state event next, InSession state → step state event = some next →
      InSession next := fun _ _ _ h hstep => InSession.step h (Step.of_step hstep)
  have hnothing : Transition.run Directorio.step Directorio.start [] = some Directorio.start := rfl
  have hstart : InSession start :=
    ⟨Directorio.shows_run hnothing, by simp [start, Directorio.start]⟩
  exact Transition.run_invariant hinv hstart hrun

-- What is open over a home screen shows the user of that home screen: the list of workshops
-- and the detail screen do, in every state, however many sessions came before and whatever
-- they left unanswered. The home screen is the one of the user's role, and presents either the
-- workshops or the way to the profiles, never both.
theorem session_screens (events : List Event) (final : State)
    (hrun : Transition.run step start events = some final) :
    (∀ home, final.nav.login.screen.presented = some (.home home) →
      (home = .alumnos home.user ∧ home.user.rol = "Alumno") ∨
        (home = .vistaInicial home.user ∧ home.user.rol = "Coord")) ∧
    (∀ index, final.nav.openList = some index → final.dir.top = none ∧
      ∃ home list, final.nav.login.screen.presented = some (.home home) ∧
        final.nav.lists[index]? = some list ∧ list.screen.user = home.user) ∧
    ∀ index, final.nav.openDetail = some index → final.nav.openList.isSome = true ∧
      ∃ home detail, final.nav.login.screen.presented = some (.home home) ∧
        final.nav.details[index]? = some detail ∧ detail.view.user = home.user := by
  have hnav := Navigation.inSession_run (nav_run hrun)
  have hsession := inSession_run hrun
  refine ⟨hnav.kind, fun index hindex => ⟨?_, hnav.list index hindex⟩, fun index hindex => ?_⟩
  · by_contra hopen
    obtain ⟨top, htop⟩ := Option.ne_none_iff_exists'.mp hopen
    obtain ⟨_, hhome, _⟩ := hsession.top top htop
    rw [hhome.2] at hindex
    cases hindex
  · obtain ⟨home, detail, hhome, hdetail, huser, hopen⟩ := hnav.detail index hindex
    exact ⟨hopen, home, detail, hhome, hdetail, huser⟩

private def adan : Document :=
  ⟨"A41", [("UID", .string "u41"), ("campus", .string "Leon"), ("rol", .string "Alumno")]⟩

private def belen : Document :=
  ⟨"L41", [("UID", .string "u42"), ("campus", .string "Leon"), ("rol", .string "Coord")]⟩

private def entrar (tap : ℕ) (uid : String) (usuario : Document) : List Event :=
  [.nav (.login .btEntrar), .nav (.login (.signedIn tap uid)),
    .nav (.login (.signInCallback tap)), .nav (.login (.rolAnswer tap (.ok [usuario])))]

private def carmen : Document :=
  ⟨"A42", [("UID", .string "u43"), ("campus", .string "Leon"), ("rol", .string "Alumno")]⟩

-- The list of the first session is answered in the second one.
private def listaTardia : List Event :=
  entrar 0 "u41" adan ++ [.nav .openTalleres, .nav (.list 0 .viewWillAppear), .nav .backToHome,
      .nav (.login .logOut)] ++
    entrar 1 "u43" carmen ++ [.nav .openTalleres, .nav (.list 0 (.talleres 0 (.ok [])))]

theorem session_screens_listaTardia :
    ∃ final, Transition.run step start listaTardia = some final ∧
      final.nav.openList = some 1 ∧ final.dir.top = none ∧
      ∃ home list, final.nav.login.screen.presented = some (.home home) ∧
        final.nav.lists[1]? = some list ∧ list.screen.user = home.user :=
  ⟨_, rfl, rfl, (session_screens listaTardia _ rfl).2.1 1 rfl⟩

-- A student is never shown the profile of somebody else. The profile on the screen is the own
-- one of the student who is logged in, or a coordinator is logged in and has picked a student
-- from the list of a campus; and all the enrolments on it are those of its user.
theorem only_coordinators_see_others (events : List Event) (final : State)
    (hrun : Transition.run step start events = some final) (index : ℕ)
    (htop : final.dir.top = some (.perfil index)) :
    ∃ perfil, final.dir.perfiles[index]? = some perfil ∧
      (∀ inscripcion ∈ perfil.view.inscripciones,
        inscripcion.matriculaAlum = perfil.view.user.matricula) ∧
      ((final.nav.login.screen.presented = some (.home (.alumnos perfil.view.user)) ∧
          perfil.view.user.rol = "Alumno") ∨
        ∃ coord list, final.nav.login.screen.presented = some (.home (.vistaInicial coord)) ∧
          coord.rol = "Coord" ∧
          Directorio.ChosenFrom final.dir perfil.view.user list) := by
  have hkind := (Navigation.inSession_run (nav_run hrun)).kind
  have hsession := inSession_run hrun
  obtain ⟨home, ⟨hhome, _⟩, perfil, hperfil, hleads⟩ := hsession.top _ htop
  have hmem := List.mem_of_getElem? hperfil
  have hshows := hsession.shows.perfiles perfil hmem
  refine ⟨perfil, hperfil, fun inscripcion hi => hshows.matricula hi, ?_⟩
  rcases hleads with ⟨rfl, _⟩ | ⟨⟨coord, rfl⟩, hopener⟩
  · rcases hkind _ hhome with ⟨_, hrol⟩ | ⟨hother, _⟩
    · exact .inl ⟨hhome, hrol⟩
    · cases hother
  · obtain ⟨list, hlist⟩ := Option.isSome_iff_exists.mp hopener
    rcases hkind _ hhome with ⟨hother, _⟩ | ⟨_, hrol⟩
    · cases hother
    · exact .inr ⟨coord, list, hhome, hrol, hsession.shows.chosenFrom hmem hlist⟩

-- A student looks at the own profile, leaves before it has loaded, and a coordinator logs in on
-- the same device.
private def dosSesiones : List Event :=
  entrar 0 "u41" adan ++ [.dir (.perfilAlum (userOf adan)), .dir .dismiss, .nav (.login .logOut)] ++
    entrar 1 "u42" belen ++ [.dir (.campus (userOf belen)), .dir (.enrollmentAnswer 0 (.ok [])),
      .dir (.campusAnswer 0 (.ok [⟨"c1", [("campus", .string "Leon")]⟩])),
      .dir (.selectCampus 0), .dir (.alumnosAnswer 0 (.ok [adan])), .dir (.selectAlumno 0)]

theorem only_coordinators_see_others_dosSesiones :
    ∃ final, Transition.run step start dosSesiones = some final ∧
      final.dir.top = some (.perfil 1) ∧
      ∃ perfil, final.dir.perfiles[1]? = some perfil ∧
        (∀ inscripcion ∈ perfil.view.inscripciones,
          inscripcion.matriculaAlum = perfil.view.user.matricula) ∧
        ((final.nav.login.screen.presented = some (.home (.alumnos perfil.view.user)) ∧
            perfil.view.user.rol = "Alumno") ∨
          ∃ coord list, final.nav.login.screen.presented = some (.home (.vistaInicial coord)) ∧
            coord.rol = "Coord" ∧
            Directorio.ChosenFrom final.dir perfil.view.user list) :=
  ⟨_, rfl, rfl, only_coordinators_see_others dosSesiones _ rfl 1 rfl⟩

end AppPrepanet.App
