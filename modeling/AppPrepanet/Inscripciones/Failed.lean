import AppPrepanet.Inscripciones.Steps
import AppPrepanet.ViewControllerWorkshop.Estado

namespace AppPrepanet.Inscripciones

open Firestore ViewControllerWorkshop

-- The screens belong to the student, who can see their buttons.
structure Shown (student : User) (state : State) : Prop where
  student : state.student = student
  button : ∀ screen ∈ state.screens, screen.view.btInscripcion.isHidden = false

section Shown

variable {student : User} {state next : State} {event : Event}

-- Only `viewDidLoad` ever hides a button.
theorem Shown.step (hrol : student.rol ≠ "Coord") (h : Shown student state)
    (hstep : Step state event next) : Shown student next := by
  refine ⟨hstep.student_eq.trans h.student, hstep.forall_screens h.button ?_ ?_ ?_ ?_ ?_ ?_⟩
  · intro workshop _
    exact (storyboard workshop state.student).viewDidLoad_isHidden_of_ne
      (by simpa [storyboard, h.student] using hrol)
  · intro screen own documents hs _
    exact hs
  · intro screen documents view hs _ hview
    obtain ⟨inscripciones, _, rfl⟩ := (getEnrollmentStatus_ok screen.view).mp hview
    simpa using hs
  · intro screen hs
    exact hs
  · intro screen hs
    exact hs
  · intro screen err hs
    cases err with
    | none => exact hs
    | some err => exact hs

theorem shown_run (hrol : student.rol ≠ "Coord") {collection : List Document}
    {events : List Event} {final : State}
    (hrun : Transition.run step (start student collection) events = some final) :
    Shown student final := by
  have hstart : Shown student (start student collection) := ⟨rfl, by simp [start]⟩
  exact Transition.run_invariant
    (fun _ _ _ hinv hstep => Shown.step hrol hinv (Step.of_step hstep)) hstart hrun

end Shown

section Failed

variable {state : State} {index : ℕ} {screen : Screen}

-- A tap whose write fails before anything else happens.
theorem run_tap_failed (hscreen : state.screens[index]? = some screen)
    (hbutton : screen.view.btInscripcion.sendsAction = true) (err : String) :
    ∃ final, Transition.run step state [.tap index, .failed state.writes.length err] = some final ∧
      final.collection = state.collection ∧
      final.screens[index]? = some { screen with view := screen.view.enrollBt } := by
  let write : Write := { screen := index, data := screen.view.enrollData, stage := .pending }
  let tapped :=
    (state.setScreen index { screen with view := screen.view.enrollBt }).addWrite write
  let answered := tapped.setWrite state.writes.length { write with stage := .finished }
  have htap : step state (.tap index) = some tapped := by
    simp [step, hscreen, hbutton, tapped, write]
  have hwrite : tapped.writes[state.writes.length]? = some write := by
    simp [tapped, State.addWrite, State.setScreen]
  have hfailed : step tapped (.failed state.writes.length err) =
      some (answered.callback index (some err)) := by
    simp [step, hwrite, answered, write]
  have hlt : index < state.screens.length := (List.getElem?_eq_some_iff.mp hscreen).1
  have hview : answered.screens[index]? = some { screen with view := screen.view.enrollBt } :=
    List.getElem?_set_self hlt
  have hcollection : (answered.callback index (some err)).collection = state.collection :=
    callback_collection index (some err)
  refine ⟨answered.callback index (some err), ?_, hcollection, ?_⟩
  · rw [Transition.run_cons, htap, Option.bind_some, Transition.run_singleton, hfailed]
  · -- the callback of a failed write puts the screen back as it finds it
    simp only [State.callback, hview]
    exact List.getElem?_set_self (List.getElem?_eq_some_iff.mp hview).1

end Failed

-- The collection, the label and the looks of the button are as they were, but in every
-- state the button stays disabled.
theorem failed_tap_disables (student : User) (collection : List Document) (events : List Event)
    (state : State) (index : ℕ) (screen : Screen) (err : String)
    (hrol : student.rol ≠ "Coord")
    (hrun : Transition.run step (start student collection) events = some state)
    (hscreen : state.screens[index]? = some screen)
    (henabled : screen.view.btInscripcion.isEnabled = true) :
    ∃ final after,
      Transition.run step state [.tap index, .failed state.writes.length err] = some final ∧
      final.screens[index]? = some after ∧ final.collection = state.collection ∧
      after.view.enrolmentState = { screen.view.enrolmentState with isEnabled := false } ∧
      after.view.enrolmentState ≠ screen.view.enrolmentState := by
  have hvisible := (shown_run hrol hrun).button screen (List.mem_of_getElem? hscreen)
  have hbutton := UIButton.sendsAction_iff.mpr ⟨henabled, hvisible⟩
  obtain ⟨final, hfailed, hcollection, hafter⟩ := run_tap_failed hscreen hbutton err
  refine ⟨final, _, hfailed, hafter, hcollection, rfl, fun hsame => ?_⟩
  have hdisabled := congrArg EnrolmentState.isEnabled hsame
  simp [enrolmentState, enrollBt, enrollStudent, henabled] at hdisabled

private def ines : User :=
  { nombre := "Ines", email := "ines@tec.mx", matricula := "A09", campus := "MTY", rol := "Alumno" }

private def resiliencia : Workshop :=
  { wkID := "1", title := "Resiliencia", descr := "", req := [], startDate := 0, endDate := 5 }

theorem failed_tap_disables_answered :
    ∃ state screen, Transition.run step (start ines [])
        [.openScreen resiliencia, .read 0 [] [], .deliver 0] = some state ∧
      state.screens[0]? = some screen ∧
      ∃ final after,
        Transition.run step state [.tap 0, .failed state.writes.length "offline"] = some final ∧
        final.screens[0]? = some after ∧ final.collection = state.collection ∧
        after.view.enrolmentState = { screen.view.enrolmentState with isEnabled := false } ∧
        after.view.enrolmentState ≠ screen.view.enrolmentState :=
  ⟨_, _, rfl, rfl, failed_tap_disables ines [] [.openScreen resiliencia, .read 0 [] [], .deliver 0]
    _ 0 _ "offline" (by decide) rfl rfl (by decide)⟩

theorem not_restored_failed :
    ¬∀ (student : User) (collection : List Document) (events : List Event) (state final : State)
      (index : ℕ) (screen after : Screen) (err : String), student.rol = "Alumno" →
      Transition.run step (start student collection) events = some state →
      state.screens[index]? = some screen → screen.view.btInscripcion.isEnabled = true →
      Transition.run step state [.tap index, .failed state.writes.length err] = some final →
      final.screens[index]? = some after →
      after.view.enrolmentState = screen.view.enrolmentState ∧
        final.collection = state.collection := by
  intro h
  have hsame := (h ines [] [.openScreen resiliencia, .read 0 [] [], .deliver 0] _ _ 0 _ _ "offline"
    rfl rfl rfl (by decide) rfl rfl).1
  exact absurd hsame (by decide)

end AppPrepanet.Inscripciones
