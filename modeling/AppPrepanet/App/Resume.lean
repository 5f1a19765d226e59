import AppPrepanet.App
import AppPrepanet.ViewController.Role

namespace AppPrepanet

open Firestore

-- The home screen of a user who has one.
def Home.of (user : User) : Home :=
  if user.rol = "Alumno" then .alumnos user else .vistaInicial user

-- A free login screen presents the home screen of the only user that a role query finds.
theorem ViewController.getRol_presents {screen : ViewController} (hfree : screen.presented = none)
    {usuario : Document}
    (hrol : (userOf usuario).rol = "Alumno" ∨ (userOf usuario).rol = "Coord") :
    ∃ next, screen.getRol (.ok [usuario]) = some next ∧
      next.presented = some (.home (Home.of (userOf usuario))) := by
  by_cases halumno : (userOf usuario).rol = "Alumno"
  · simp [getRol, getRolCompletion, performSegue, ViewController.prepare, ViewController.present,
      Home.of, halumno, hfree]
  · have hcoord : (userOf usuario).rol = "Coord" := hrol.resolve_left halumno
    simp [getRol, getRolCompletion, performSegue, ViewController.prepare, ViewController.present,
      Home.of, hcoord, hfree]

namespace App

-- What it takes to log in.
def entrada (tap : ℕ) (uid : String) (usuario : Document) : List Login.Event :=
  [.btEntrar, .signedIn tap uid, .signInCallback tap, .rolAnswer tap (.ok [usuario])]

-- Taps that were made before do not get in the way: their answers can wait.
theorem login_entrada {state : Login.State} (hfree : state.screen.presented = none)
    {uid : String} {usuario : Document} (huid : usuario.fieldIs "UID" uid = true)
    (hrol : (userOf usuario).rol = "Alumno" ∨ (userOf usuario).rol = "Coord") :
    ∃ final, Transition.run Login.step state (entrada state.chains.length uid usuario) =
        some final ∧
      final.screen.presented = some (.home (Home.of (userOf usuario))) := by
  obtain ⟨screen, hscreen, hpresented⟩ := state.screen.getRol_presents hfree hrol
  have hanswers : Login.Answers uid (.ok [usuario]) := by
    intro document hd
    rw [List.mem_singleton.mp hd]
    exact huid
  let final : Login.State :=
    { state with
      screen := screen
      currentUser := some uid
      chains := state.chains ++ [{ account := some uid, stage := .finished }] }
  refine ⟨final, ?_, hpresented⟩
  simp [final, entrada, Transition.run, Login.step, hfree, Login.State.setChain, hanswers, hscreen]

-- How many screens lie over the login screen.
def depth : Option Directorio.Top → ℕ
  | none => 0
  | some (.campus _) => 1
  | some (.alumnos _) => 2
  | some (.perfil _) => 3

def layers (state : State) : ℕ :=
  depth state.dir.top + (if state.nav.openDetail.isSome then 1 else 0) +
    (if state.nav.openList.isSome then 1 else 0) +
    if state.nav.login.screen.presented.isSome then 1 else 0

theorem depth_below (dir : Directorio.State) (top : Directorio.Top) :
    depth (dir.below top) < depth (some top) := by
  cases top with
  | campus index => simp [Directorio.State.below, depth]
  | alumnos index =>
      cases hscreen : dir.alumnos[index]? <;> simp [Directorio.State.below, hscreen, depth]
  | perfil index =>
      cases hopener : dir.perfiles[index]?.bind (·.opener) <;>
        simp [Directorio.State.below, hopener, depth]

theorem layers_eq_zero_iff {state : State} :
    layers state = 0 ↔ state.dir.top = none ∧ state.nav.openDetail = none ∧
      state.nav.openList = none ∧ state.nav.login.screen.presented = none := by
  have hdepth : depth state.dir.top = 0 ↔ state.dir.top = none := by
    match state.dir.top with
    | none => simp [depth]
    | some (.campus _) | some (.alumnos _) | some (.perfil _) => simp [depth]
  simp [layers, hdepth, and_assoc]

-- The screen on top of all others can be left.
theorem leave_top (state : State) (h : 0 < layers state) :
    ∃ event next, step state event = some next ∧ layers next < layers state := by
  by_cases htop : state.dir.top = none
  · by_cases hdetail : state.nav.openDetail = none
    · by_cases hlist : state.nav.openList = none
      · match hpresented : state.nav.login.screen.presented with
        | none => simp [layers_eq_zero_iff.mpr ⟨htop, hdetail, hlist, hpresented⟩] at h
        | some (.alert alerta) =>
            refine ⟨.nav (.login .okAlert), { state with nav.login.screen.presented := none },
              ?_, ?_⟩
            · simp [step, needsHome, Navigation.step, Login.step, hpresented]
            · simp [layers, htop, hdetail, hlist, hpresented]
        | some (.home home) =>
            refine ⟨.nav (.login .logOut),
              { state with
                nav.login.screen.presented := none
                nav.login.tapsAtLogOut := state.nav.login.chains.length }, ?_, ?_⟩
            · simp [step, needsHome, htop, Navigation.step, hlist, Login.step, hpresented,
                ViewController.logOut]
            · simp [layers, htop, hdetail, hlist, hpresented]
      · have hopen := Option.isSome_iff_ne_none.mpr hlist
        refine ⟨.nav .backToHome, { state with nav.openList := none }, ?_, ?_⟩
        · simp [step, needsHome, Navigation.step, hdetail, hopen]
        · simp [layers, hdetail, hopen]
    · have hopen := Option.isSome_iff_ne_none.mpr hdetail
      refine ⟨.nav .backToList, { state with nav.openDetail := none }, ?_, ?_⟩
      · simp [step, needsHome, Navigation.step, hopen]
      · simp [layers, hopen]
  · obtain ⟨top, hsome⟩ := Option.ne_none_iff_exists'.mp htop
    have hbelow := depth_below state.dir top
    refine ⟨.dir .dismiss, { state with dir.top := state.dir.below top }, ?_, ?_⟩
    · simp [step, Presents, Directorio.step, hsome]
    · simp only [layers, hsome]
      omega

private def fabio : Document :=
  ⟨"A45", [("UID", .string "u45"), ("nombre", .string "Fabio"), ("rol", .string "Alumno")]⟩

-- Somebody has left a profile open, and the login screen under it has a tap in flight.
private def abandonada : State where
  nav :=
    { Navigation.start with
      login :=
        { Login.start with
          screen := { presented := some (.home (.alumnos (userOf fabio))) }
          chains := [{ stage := .callback }] } }
  dir :=
    { Directorio.start with
      perfiles := [{ opener := none, view := VistaPerfil.shows (userOf fabio) {} }]
      top := some (.perfil 0) }

end App

end AppPrepanet
