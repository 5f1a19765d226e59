import AppPrepanet.App
import AppPrepanet.Directorio.Survives
import AppPrepanet.Navigation.Survives

namespace AppPrepanet.App

open Firestore

-- What can happen to the app, whatever it makes of it: what is on the screen is touched, and
-- the calls that were made are answered. Only here and there an answer has to be `Readable`.
def Enabled (state : State) : Event → Prop
  | .nav event =>
      Navigation.Enabled state.nav event ∧ (needsHome event = true → state.dir.top = none)
  | .dir event => Directorio.Enabled state.dir event ∧ Presents state.nav event

theorem step_nav_isSome (state : State) (event : Navigation.Event) :
    (step state (.nav event)).isSome = true ↔
      (Navigation.step state.nav event).isSome = true ∧
        (needsHome event = true → state.dir.top = none) := by
  simp only [step]
  split_ifs with hbusy
  · have hopen : state.dir.top ≠ none := Option.isSome_iff_ne_none.mp hbusy.2
    simp [hbusy.1, hopen]
  · have hfree : needsHome event = true → state.dir.top = none := by
      intro hneeds
      by_contra hopen
      exact hbusy ⟨hneeds, Option.isSome_iff_ne_none.mpr hopen⟩
    rw [Option.isSome_map]
    exact ⟨fun hsome => ⟨hsome, hfree⟩, fun h => h.1⟩

theorem step_dir_isSome (state : State) (event : Directorio.Event) :
    (step state (.dir event)).isSome = true ↔
      (Directorio.step state.dir event).isSome = true ∧ Presents state.nav event := by
  simp only [step]
  split_ifs with hpresents
  · simp [hpresents]
  · simp [hpresents]

-- Only a document that cannot be read makes the app trap, in whatever order things happen and
-- over any number of sessions: no table asks for a row that is not there, no segue starts
-- without its user, and no answer comes to a screen that does not exist. What has to be
-- readable are the documents of Talleres, Inscripciones and Campus, not those of Usuarios.
theorem traps_only_on_unreadable (events : List Event) (final : State)
    (hrun : Transition.run step start events = some final) :
    (∀ event, (step final event).isSome = true ↔ Enabled final event) ∧
      ∀ detail ∈ final.nav.details, ∀ row < detail.view.rows, ∀ cell,
        (detail.view.cellForRowAt cell row).isSome = true := by
  have hcovers := Navigation.covers_run (nav_run hrun)
  refine ⟨fun event => ?_, fun detail hd row hrow cell => ?_⟩
  · cases event with
    | nav event =>
        rw [step_nav_isSome, Navigation.step_isSome_iff (nav_run hrun)]
        rfl
    | dir event =>
        rw [step_dir_isSome, Directorio.step_isSome_iff (dir_run hrun)]
        rfl
  · exact (hcovers detail hd).cellForRowAt_isSome hrow cell

private def dario : Document :=
  ⟨"A43", [("UID", .string "u44"), ("nombre", .string "Dario"), ("rol", .string "Alumno")]⟩

private def ingles : Document :=
  ⟨"7", [("titulo", .string "Ingles"), ("descripcion", .string ""),
    ("requerimientos", .array [.string "Mis Emociones"]),
    ("wkDate", .array [.timestamp ⟨3⟩, .timestamp ⟨5⟩])]⟩

-- The detail screen is closed, and so is the list, before its query has been answered; the
-- profile is open when the answer comes.
private def impaciente : List Event :=
  [.nav (.login .btEntrar), .nav (.login (.signedIn 0 "u44")), .nav (.login (.signInCallback 0)),
    .nav (.login (.rolAnswer 0 (.ok [dario]))), .nav .openTalleres,
    .nav (.list 0 .viewWillAppear), .nav (.list 0 (.talleres 0 (.ok [ingles]))),
    .nav (.openDetail 0), .nav .enrollBt, .nav .backToList, .nav .backToHome,
    .dir (.perfilAlum (userOf dario))]

theorem traps_only_on_unreadable_impaciente :
    ∃ final, Transition.run step start impaciente = some final ∧
      (step final (.nav (.fetchAnswer 0 (.ok [])))).isSome = true ∧
      (step final (.nav (.fetchAnswer 0 (.ok [ingles])))).isSome = false ∧
      (∀ event, (step final event).isSome = true ↔ Enabled final event) ∧
      ∀ detail ∈ final.nav.details, ∀ row < detail.view.rows, ∀ cell,
        (detail.view.cellForRowAt cell row).isSome = true :=
  ⟨_, rfl, rfl, rfl, traps_only_on_unreadable impaciente _ rfl⟩

end AppPrepanet.App
