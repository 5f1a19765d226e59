import AppPrepanet.Directorio
import AppPrepanet.Positions

namespace AppPrepanet.Directorio

open Positions

-- The names that these screens have for others, counted from `base` on.
def AlumnosScreen.since (base : State) (screen : AlumnosScreen) : AlumnosScreen :=
  { screen with opener := screen.opener - base.campuses.length }

def PerfilScreen.since (base : State) (screen : PerfilScreen) : PerfilScreen :=
  { screen with opener := screen.opener.map (· - base.alumnos.length) }

def Top.since (base : State) : Top → Top
  | .campus index => .campus (index - base.campuses.length)
  | .alumnos index => .alumnos (index - base.alumnos.length)
  | .perfil index => .perfil (index - base.perfiles.length)

-- What there is since `base`, as if there had been nothing before.
def State.since (state base : State) : State where
  campuses := Positions.since base.campuses.length id state.campuses
  alumnos := Positions.since base.alumnos.length (AlumnosScreen.since base) state.alumnos
  perfiles := Positions.since base.perfiles.length (PerfilScreen.since base) state.perfiles
  top := state.top.map (Top.since base)

-- The event under the names that count from `base` on. What came before has no such name.
def Event.since (base : State) : Event → Option Event
  | .campusAnswer index result =>
      if base.campuses.length ≤ index then
        some (.campusAnswer (index - base.campuses.length) result)
      else none
  | .alumnosAnswer index result =>
      if base.alumnos.length ≤ index then
        some (.alumnosAnswer (index - base.alumnos.length) result)
      else none
  | .coordAnswer index result =>
      if base.perfiles.length ≤ index then
        some (.coordAnswer (index - base.perfiles.length) result)
      else none
  | .enrollmentAnswer index result =>
      if base.perfiles.length ≤ index then
        some (.enrollmentAnswer (index - base.perfiles.length) result)
      else none
  | event => some event

section Since

variable {state base : State} {index : ℕ}

theorem campuses_since (hle : base.campuses.length ≤ index) :
    (state.since base).campuses[index - base.campuses.length]? = state.campuses[index]? := by
  simp [State.since, getElem?_since hle]

theorem alumnos_since (hle : base.alumnos.length ≤ index) :
    (state.since base).alumnos[index - base.alumnos.length]? =
      state.alumnos[index]?.map (AlumnosScreen.since base) :=
  getElem?_since hle

theorem perfiles_since (hle : base.perfiles.length ≤ index) :
    (state.since base).perfiles[index - base.perfiles.length]? =
      state.perfiles[index]?.map (PerfilScreen.since base) :=
  getElem?_since hle

theorem top_since {top : Top} (htop : state.top = some top) :
    (state.since base).top = some (top.since base) :=
  Option.map_eq_some_iff.mpr ⟨top, htop, rfl⟩

theorem since_addCampus (hle : base.campuses.length ≤ state.campuses.length)
    (screen : CampusScreen) :
    (state.addCampus screen).since base = (state.since base).addCampus screen := by
  simp [State.since, State.addCampus, since_concat hle, Top.since]

theorem since_setCampus (hle : base.campuses.length ≤ index) (screen : CampusScreen) :
    (state.setCampus index screen).since base =
      (state.since base).setCampus (index - base.campuses.length) screen := by
  simp [State.since, State.setCampus, since_set hle]

theorem since_setCampus_of_lt (hlt : index < base.campuses.length) (screen : CampusScreen) :
    (state.setCampus index screen).since base = state.since base := by
  simp [State.since, State.setCampus, since_set_of_lt hlt]

theorem since_addAlumnos (hle : base.alumnos.length ≤ state.alumnos.length)
    (screen : AlumnosScreen) :
    (state.addAlumnos screen).since base =
      (state.since base).addAlumnos (screen.since base) := by
  simp [State.since, State.addAlumnos, since_concat hle, Top.since]

theorem since_setAlumnos (hle : base.alumnos.length ≤ index) (screen : AlumnosScreen) :
    (state.setAlumnos index screen).since base =
      (state.since base).setAlumnos (index - base.alumnos.length) (screen.since base) := by
  simp [State.since, State.setAlumnos, since_set hle]

theorem since_setAlumnos_of_lt (hlt : index < base.alumnos.length) (screen : AlumnosScreen) :
    (state.setAlumnos index screen).since base = state.since base := by
  simp [State.since, State.setAlumnos, since_set_of_lt hlt]

theorem since_addPerfil (hle : base.perfiles.length ≤ state.perfiles.length)
    (screen : PerfilScreen) :
    (state.addPerfil screen).since base = (state.since base).addPerfil (screen.since base) := by
  simp [State.since, State.addPerfil, since_concat hle, Top.since]

theorem since_setPerfil (hle : base.perfiles.length ≤ index) (screen : PerfilScreen) :
    (state.setPerfil index screen).since base =
      (state.since base).setPerfil (index - base.perfiles.length) (screen.since base) := by
  simp [State.since, State.setPerfil, since_set hle]

theorem since_setPerfil_of_lt (hlt : index < base.perfiles.length) (screen : PerfilScreen) :
    (state.setPerfil index screen).since base = state.since base := by
  simp [State.since, State.setPerfil, since_set_of_lt hlt]

end Since

def Top.IsNew (base : State) : Top → Prop
  | .campus index => base.campuses.length ≤ index
  | .alumnos index => base.alumnos.length ≤ index
  | .perfil index => base.perfiles.length ≤ index

-- What is open is new, and new screens were opened from new ones.
structure Fresh (base state : State) : Prop where
  campuses : base.campuses.length ≤ state.campuses.length
  alumnos : base.alumnos.length ≤ state.alumnos.length
  perfiles : base.perfiles.length ≤ state.perfiles.length
  top : ∀ top, state.top = some top → top.IsNew base
  campusOf : ∀ (index : ℕ) (screen : AlumnosScreen), state.alumnos[index]? = some screen →
    base.alumnos.length ≤ index → base.campuses.length ≤ screen.opener
  alumnosOf : ∀ (index : ℕ) (screen : PerfilScreen), state.perfiles[index]? = some screen →
    base.perfiles.length ≤ index → ∀ opener, screen.opener = some opener →
      base.alumnos.length ≤ opener

section Step

variable {base state next : State} {event inner : Event}

theorem Fresh.setPerfil (h : Fresh base state) {index : ℕ} {old new : PerfilScreen}
    (hold : state.perfiles[index]? = some old) (hopener : new.opener = old.opener) :
    Fresh base (state.setPerfil index new) := by
  refine ⟨h.campuses, h.alumnos, ?_, h.top, h.campusOf, forall_getElem?_set h.alumnosOf ?_⟩
  · simpa [State.setPerfil] using h.perfiles
  · rw [hopener]
    exact h.alumnosOf index old hold

theorem Fresh.addPerfil (h : Fresh base state) {new : PerfilScreen}
    (hopener : ∀ opener, new.opener = some opener → base.alumnos.length ≤ opener) :
    Fresh base (state.addPerfil new) := by
  refine ⟨h.campuses, h.alumnos, ?_, fun top htop => ?_, h.campusOf,
    forall_getElem?_concat h.alumnosOf fun _ => hopener⟩
  · simpa [State.addPerfil] using Nat.le_succ_of_le h.perfiles
  · cases htop
    exact h.perfiles

-- Under something new there is nothing old.
theorem Fresh.below (h : Fresh base state) {top below : Top} (htop : state.top = some top)
    (hbelow : state.below top = some below) : below.IsNew base := by
  have hnew := h.top top htop
  cases top with
  | campus index => cases hbelow
  | alumnos index =>
      obtain ⟨screen, hscreen, rfl⟩ := Option.map_eq_some_iff.mp hbelow
      exact h.campusOf index screen hscreen hnew
  | perfil index =>
      obtain ⟨opener, hopener, rfl⟩ := Option.map_eq_some_iff.mp hbelow
      obtain ⟨screen, hscreen, hopener⟩ := Option.bind_eq_some_iff.mp hopener
      exact h.alumnosOf index screen hscreen hnew opener hopener

theorem Fresh.step (h : Fresh base state) (hstep : Step state event next) : Fresh base next := by
  cases hstep with
  | perfilAlum _ _ => exact h.addPerfil (by simp)
  | campus _ _ =>
      refine ⟨?_, h.alumnos, h.perfiles, fun top htop => ?_, h.campusOf, h.alumnosOf⟩
      · simpa [State.addCampus] using Nat.le_succ_of_le h.campuses
      · cases htop
        exact h.campuses
  | campusAnswer _ _ _ =>
      refine ⟨?_, h.alumnos, h.perfiles, h.top, h.campusOf, h.alumnosOf⟩
      simpa [State.setCampus] using h.campuses
  | @selectCampus index row screen handed htop hscreen hrow hprepare =>
      have hnew : base.campuses.length ≤ index := h.top _ htop
      refine ⟨h.campuses, ?_, h.perfiles, fun top hopened => ?_,
        forall_getElem?_concat h.campusOf fun _ => hnew, h.alumnosOf⟩
      · simpa [State.addAlumnos] using Nat.le_succ_of_le h.alumnos
      · cases hopened
        exact h.alumnos
  | @alumnosAnswer index result screen hscreen hanswer hquery =>
      refine ⟨h.campuses, ?_, h.perfiles, h.top, forall_getElem?_set h.campusOf ?_, h.alumnosOf⟩
      · simpa [State.setAlumnos] using h.alumnos
      · exact h.campusOf index screen hscreen
  | @selectAlumno index row screen handed htop hscreen hrow hprepare =>
      have hnew : base.alumnos.length ≤ index := h.top _ htop
      apply h.addPerfil
      intro opener hopener
      cases hopener
      exact hnew
  | coordAnswer hscreen _ _ => exact h.setPerfil hscreen rfl
  | enrollmentAnswer hscreen _ _ _ => exact h.setPerfil hscreen rfl
  | campusCell _ _ _ _ | alumnosCell _ _ _ _ | perfilCell _ _ _ _ => exact h
  | dismiss htop =>
      exact ⟨h.campuses, h.alumnos, h.perfiles, fun below hbelow => h.below htop hbelow,
        h.campusOf, h.alumnosOf⟩

-- The screen below a new one has the new name.
theorem Fresh.below_since (h : Fresh base state) {top : Top} (htop : state.top = some top) :
    (state.since base).below (top.since base) = (state.below top).map (Top.since base) := by
  have hnew := h.top top htop
  cases top with
  | campus index => rfl
  | alumnos index =>
      simp only [Top.since, State.below, alumnos_since hnew]
      cases state.alumnos[index]? with
      | none => rfl
      | some screen => rfl
  | perfil index =>
      simp only [Top.since, State.below, perfiles_since hnew]
      cases state.perfiles[index]? with
      | none => rfl
      | some screen => cases hopener : screen.opener <;> simp [PerfilScreen.since, hopener, Top.since]

-- What happens to something new happens to it in the same way without the rest.
theorem Fresh.step_since (h : Fresh base state) (hevent : event.since base = some inner)
    (hstep : Step state event next) :
    Directorio.step (state.since base) inner = some (next.since base) := by
  cases hstep with
  | @perfilAlum user handed hclosed hprepare =>
      cases hevent
      have hclosed' : (state.since base).top = none := by simp [State.since, hclosed]
      rw [since_addPerfil h.perfiles]
      simp [Directorio.step, hclosed', hprepare, PerfilScreen.since]
  | @campus user handed hclosed hprepare =>
      cases hevent
      have hclosed' : (state.since base).top = none := by simp [State.since, hclosed]
      rw [since_addCampus h.campuses]
      simp [Directorio.step, hclosed', hprepare]
  | @campusAnswer index result screen view hscreen hanswer hview =>
      simp only [Event.since] at hevent
      split_ifs at hevent with hle
      cases hevent
      have hscreen' := (campuses_since hle).trans hscreen
      rw [since_setCampus hle]
      simp [Directorio.step, hscreen', hanswer, hview]
  | @campusCell index row cell shown screen htop hscreen hrow hcell =>
      cases hevent
      have hle : base.campuses.length ≤ index := h.top _ htop
      have htop' : (state.since base).top = some (.campus (index - base.campuses.length)) :=
        top_since htop
      have hscreen' := (campuses_since hle).trans hscreen
      simp [Directorio.step, htop', hscreen', hrow, hcell]
  | @selectCampus index row screen handed htop hscreen hrow hprepare =>
      cases hevent
      have hle : base.campuses.length ≤ index := h.top _ htop
      have htop' : (state.since base).top = some (.campus (index - base.campuses.length)) :=
        top_since htop
      have hscreen' := (campuses_since hle).trans hscreen
      rw [since_addAlumnos h.alumnos]
      simp [Directorio.step, htop', hscreen', hrow, hprepare, AlumnosScreen.since]
  | @alumnosAnswer index result screen hscreen hanswer hquery =>
      simp only [Event.since] at hevent
      split_ifs at hevent with hle
      cases hevent
      have hscreen' : (state.since base).alumnos[index - base.alumnos.length]? =
          some (screen.since base) := getElem?_since_eq_some hle hscreen
      rw [since_setAlumnos hle]
      simp [Directorio.step, hscreen', AlumnosScreen.since, hanswer, hquery]
  | @alumnosCell index row cell shown screen htop hscreen hrow hcell =>
      cases hevent
      have hle : base.alumnos.length ≤ index := h.top _ htop
      have htop' : (state.since base).top = some (.alumnos (index - base.alumnos.length)) :=
        top_since htop
      have hscreen' : (state.since base).alumnos[index - base.alumnos.length]? =
          some (screen.since base) := getElem?_since_eq_some hle hscreen
      simp [Directorio.step, htop', hscreen', AlumnosScreen.since, hrow, hcell]
  | @selectAlumno index row screen handed htop hscreen hrow hprepare =>
      cases hevent
      have hle : base.alumnos.length ≤ index := h.top _ htop
      have htop' : (state.since base).top = some (.alumnos (index - base.alumnos.length)) :=
        top_since htop
      have hscreen' : (state.since base).alumnos[index - base.alumnos.length]? =
          some (screen.since base) := getElem?_since_eq_some hle hscreen
      rw [since_addPerfil h.perfiles]
      simp [Directorio.step, htop', hscreen', AlumnosScreen.since, hrow, hprepare,
        PerfilScreen.since]
  | @coordAnswer index result screen hscreen hanswer hquery =>
      simp only [Event.since] at hevent
      split_ifs at hevent with hle
      cases hevent
      have hscreen' : (state.since base).perfiles[index - base.perfiles.length]? =
          some (screen.since base) := getElem?_since_eq_some hle hscreen
      rw [since_setPerfil hle]
      simp [Directorio.step, hscreen', PerfilScreen.since, hanswer, hquery]
  | @enrollmentAnswer index result screen view hscreen hanswer hquery hview =>
      simp only [Event.since] at hevent
      split_ifs at hevent with hle
      cases hevent
      have hscreen' : (state.since base).perfiles[index - base.perfiles.length]? =
          some (screen.since base) := getElem?_since_eq_some hle hscreen
      rw [since_setPerfil hle]
      simp [Directorio.step, hscreen', PerfilScreen.since, hanswer, hquery, hview]
  | @perfilCell index row cell shown screen htop hscreen hrow hcell =>
      cases hevent
      have hle : base.perfiles.length ≤ index := h.top _ htop
      have htop' : (state.since base).top = some (.perfil (index - base.perfiles.length)) :=
        top_since htop
      have hscreen' : (state.since base).perfiles[index - base.perfiles.length]? =
          some (screen.since base) := getElem?_since_eq_some hle hscreen
      simp [Directorio.step, htop', hscreen', PerfilScreen.since, hrow, hcell]
  | @dismiss top htop =>
      cases hevent
      simp only [Directorio.step, top_since htop, Option.map_some, h.below_since htop]
      rfl

-- What happens to something that was there before leaves everything new alone.
theorem Step.since_eq (hevent : event.since base = none)
    (hstep : Step state event next) : next.since base = state.since base := by
  cases hstep with
  | campusAnswer _ _ _ =>
      simp only [Event.since] at hevent
      split_ifs at hevent with hle
      exact since_setCampus_of_lt (Nat.lt_of_not_le hle) _
  | alumnosAnswer _ _ _ =>
      simp only [Event.since] at hevent
      split_ifs at hevent with hle
      exact since_setAlumnos_of_lt (Nat.lt_of_not_le hle) _
  | coordAnswer _ _ _ | enrollmentAnswer _ _ _ _ =>
      simp only [Event.since] at hevent
      split_ifs at hevent with hle
      exact since_setPerfil_of_lt (Nat.lt_of_not_le hle) _
  | perfilAlum _ _ | campus _ _ | campusCell _ _ _ _ | selectCampus _ _ _ _ | alumnosCell _ _ _ _
  | selectAlumno _ _ _ _ | perfilCell _ _ _ _ | dismiss _ => cases hevent

end Step

theorem fresh_of_closed {base : State} (hclosed : base.top = none) : Fresh base base := by
  refine ⟨Nat.le_refl _, Nat.le_refl _, Nat.le_refl _, by simp [hclosed], ?_, ?_⟩
  · intro index screen hscreen hle
    have hlt := (List.getElem?_eq_some_iff.mp hscreen).1
    omega
  · intro index screen hscreen hle
    have hlt := (List.getElem?_eq_some_iff.mp hscreen).1
    omega

theorem since_self (base : State) (hclosed : base.top = none) : base.since base = start := by
  simp [State.since, Positions.since, start, hclosed]

end AppPrepanet.Directorio
