import AppPrepanet.Coleccion.Readers
import AppPrepanet.Inscripciones.Steps

namespace AppPrepanet.Coleccion

open Firestore Inscripciones

-- What the detail screens have written together is a history of the collection, and what
-- they have read was written by a detail screen.
structure Written (state : State) : Prop where
  collection : ∃ stored, Transition.run step [] stored = some state.collection
  writes : ∀ write ∈ state.writes, ∃ view : ViewControllerWorkshop, write.data = view.enrollData
  screens : ∀ screen ∈ state.screens, ∀ documents, screen.fetch = .read documents →
    ∀ document ∈ documents, ∃ inscripcion,
      ViewControllerWorkshop.inscripcionOf document = some inscripcion

section Written

variable {state next : State} {event : Inscripciones.Event}

theorem Written.reads (h : Written state) {document : Document}
    (hd : document ∈ state.collection) :
    ∃ inscripcion, ViewControllerWorkshop.inscripcionOf document = some inscripcion := by
  obtain ⟨stored, hrun⟩ := h.collection
  obtain ⟨index, hlt, rfl⟩ := List.getElem_of_mem hd
  have hrep := run_represents hrun
  have hlt' : index < (history stored).length := hrep.length_eq ▸ hlt
  exact ⟨_, (hrep.get hlt hlt').reads⟩

-- So does an answer, where the device lays its own enrolments over what is stored.
theorem Written.reads_view (h : Written state) {own : List ℕ} {document : Document}
    (hd : document ∈ state.view own) :
    ∃ inscripcion, ViewControllerWorkshop.inscripcionOf document = some inscripcion := by
  rcases mem_view hd with hstored | ⟨write, hw, _, hdata⟩
  · exact h.reads (List.mem_filter.mp hstored).1
  · obtain ⟨view, henroll⟩ := h.writes write hw
    obtain ⟨documentID, data⟩ := document
    have hsame : data = view.enrollData := hdata.trans henroll
    exact ⟨_, hsame ▸ view.inscripcionOf_enrollData documentID⟩

theorem start_written (student : User) : Written (start student []) :=
  ⟨⟨[], rfl⟩, by simp [start], by simp [start]⟩

-- One more event of the collection.
theorem exists_stored {collection : List Document} {event : Event} {after : List Document}
    (h : ∃ stored, Transition.run step [] stored = some collection)
    (hstep : step collection event = some after) :
    ∃ stored, Transition.run step [] stored = some after := by
  obtain ⟨stored, hrun⟩ := h
  exact ⟨stored ++ [event], Transition.run_concat_eq_some.mpr ⟨collection, hrun, hstep⟩⟩

theorem Written.collection_step (h : Written state) (hstep : Step state event next) :
    ∃ stored, Transition.run step [] stored = some next.collection := by
  cases hstep with
  | openScreen _ | read _ _ _ _ | deliver _ _ _ | deliverError _ _ | tap _ _ => exact h.collection
  | @store index write documentID hwrite hstage hfresh =>
      obtain ⟨view, hdata⟩ := h.writes write (List.mem_of_getElem? hwrite)
      have hstored : step state.collection (.enrollStudent documentID view) =
          some (state.collection ++ [⟨documentID, write.data⟩]) := by
        rw [hdata]
        exact if_pos hfresh
      exact exists_stored h.collection hstored
  | completed _ _ | failed _ _ =>
      rw [callback_collection]
      exact h.collection
  | setStatus documentID status =>
      have hstored : step state.collection (.setStatus documentID status) =
          some (state.collection.map (updateStatus documentID status)) := rfl
      exact exists_stored h.collection hstored

theorem Written.step (h : Written state) (hstep : Step state event next) : Written next := by
  refine ⟨h.collection_step hstep, hstep.forall_writes h.writes ?_ ?_,
    hstep.forall_screens h.screens ?_ ?_ ?_ ?_ ?_ ?_⟩
  · intro index screen _
    exact ⟨screen.view, rfl⟩
  · intro write stage hw
    exact hw
  · intro workshop _ documents hf
    cases hf
  · intro screen own documents _ hdocuments found hf document hd
    cases hf
    exact h.reads_view (hdocuments.mem_iff.mp hd)
  · intro screen documents view _ _ _ found hf
    cases hf
  · intro screen _ found hf
    cases hf
  · intro screen hs
    exact hs
  · intro screen err hs
    exact hs

end Written

theorem written_run {student : User} {events : List Inscripciones.Event} {final : State}
    (hrun : Transition.run Inscripciones.step (start student []) events = some final) :
    Written final :=
  Transition.run_invariant (fun _ _ _ h hstep => Written.step h (Step.of_step hstep))
    (start_written student) hrun

-- No detail screen crashes on an answer, however late it is delivered.
theorem deliver_isSome {student : User} {events : List Inscripciones.Event} {final : State}
    (hrun : Transition.run Inscripciones.step (start student []) events = some final)
    {index : ℕ} {screen : Screen} {documents : List Document}
    (hscreen : final.screens[index]? = some screen) (hfetch : screen.fetch = .read documents) :
    (Inscripciones.step final (.deliver index)).isSome = true := by
  have hreads := (written_run hrun).screens screen (List.mem_of_getElem? hscreen) documents hfetch
  obtain ⟨inscripciones, hm⟩ := Loop.exists_mapM_eq_some hreads
  have hview := screen.view.getEnrollmentStatus_ok.mpr ⟨inscripciones, hm, rfl⟩
  simp [Inscripciones.step, hscreen, hfetch, hview]

end AppPrepanet.Coleccion
