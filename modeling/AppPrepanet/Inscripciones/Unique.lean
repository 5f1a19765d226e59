import AppPrepanet.Inscripciones.Steps
import AppPrepanet.ViewControllerWorkshop.Documents
import Mathlib.Data.Fintype.EquivFin

namespace AppPrepanet.Inscripciones

open Firestore ViewControllerWorkshop

def hasKey (matricula tallerID : String) (document : Document) : Bool :=
  document.fieldIs "matricula" matricula && document.fieldIs "tallerID" tallerID

-- No two documents share matricula and tallerID.
def Unique (collection : List Document) : Prop :=
  ∀ matricula tallerID, collection.countP (hasKey matricula tallerID) ≤ 1

-- The write is on its way and would add a document with this key.
def Write.pendingFor (matricula tallerID : String) (write : Write) : Bool :=
  write.stage = .pending && hasKey matricula tallerID ⟨"", write.data⟩

-- The document shows the workshop as taken.
def ShowsTaken (tallerID : String) (document : Document) : Prop :=
  document.fieldIs "tallerID" tallerID = true ∧ ∃ status ∈ document.string "status", Handled status

instance (tallerID : String) : DecidablePred (ShowsTaken tallerID) := fun _ => by
  unfold ShowsTaken; infer_instance

-- The student's tap finds a screen that knows about every enrolment in its workshop: no
-- write for it is on its way, and if a document for it is stored then the answer that this
-- screen has been given shows the workshop as taken.
def Informed (state : State) : Event → Prop
  | .tap index => ∀ screen ∈ state.screens[index]?,
      (∀ write ∈ state.writes,
        write.pendingFor state.student.matricula screen.view.workshop.wkID = false) ∧
      ((∃ document ∈ state.collection,
        hasKey state.student.matricula screen.view.workshop.wkID document = true) →
          ∃ document ∈ screen.fetch.answer, ShowsTaken screen.view.workshop.wkID document)
  | _ => True

instance (state : State) : DecidablePred (Informed state)
  | .tap index => by unfold Informed; infer_instance
  | .openScreen _ | .read _ _ _ | .deliver _ | .deliverError _ _ | .store _ _ | .completed _
  | .failed _ _ | .setStatus _ _ => .isTrue trivial

-- A coordinator moves documents among the three statuses.
def Coordinated (_ : State) : Event → Prop
  | .setStatus _ status => Handled status
  | _ => True

instance (state : State) : DecidablePred (Coordinated state)
  | .setStatus _ status => inferInstanceAs (Decidable (Handled status))
  | .openScreen _ | .read _ _ _ | .deliver _ | .deliverError _ _ | .tap _ | .store _ _
  | .completed _ | .failed _ _ => .isTrue trivial

-- What a screen of the student keeps: it has read its answer to the end, and an enabled button
-- belongs to a workshop that the inscripciones on the screen do not show as taken.
structure ScreenGuard (student : User) (screen : Screen) : Prop where
  user : screen.view.user = student
  answer : screen.fetch.answer.mapM inscripcionOf = some screen.view.inscripciones
  enabled : screen.view.btInscripcion.isEnabled = true →
    ¬Enrolled screen.view.workshop screen.view.inscripciones

structure Guarded (state : State) : Prop where
  once : ∀ matricula tallerID, state.collection.countP (hasKey matricula tallerID) +
    state.writes.countP (·.pendingFor matricula tallerID) ≤ 1
  screens : ∀ screen ∈ state.screens, ScreenGuard state.student screen

theorem hasKey_updateStatus (matricula tallerID documentID status : String)
    (document : Document) :
    hasKey matricula tallerID (updateStatus documentID status document) =
      hasKey matricula tallerID document := by
  have hget : ∀ field ≠ "status",
      (updateStatus documentID status document).get field = document.get field := by
    intro field hfield
    unfold updateStatus
    split_ifs
    · exact document.get_setField_other _ hfield
    · rfl
  simp only [hasKey, Document.fieldIs, hget "matricula" (by decide), hget "tallerID" (by decide)]

theorem hasKey_enrollData (matricula tallerID documentID : String)
    (screen : ViewControllerWorkshop) :
    hasKey matricula tallerID ⟨documentID, screen.enrollData⟩ = true ↔
      screen.user.matricula = matricula ∧ screen.workshop.wkID = tallerID := by
  simp [hasKey, Document.fieldIs, Document.get, enrollData, List.lookup_cons, FieldValue.string]

theorem enrolled_of_showsTaken {documents : List Document} {inscripciones : List Inscripcion}
    (hm : documents.mapM inscripcionOf = some inscripciones) {workshop : Workshop}
    (h : ∃ document ∈ documents, ShowsTaken workshop.wkID document) :
    Enrolled workshop inscripciones := by
  obtain ⟨document, hd, hid, status, hstatus, hhandled⟩ := h
  obtain ⟨inscripcion, hi, hdecode⟩ := Loop.exists_mem_of_mapM hm hd
  obtain ⟨htaller, _, _, _, hs, _⟩ := inscripcionOf_eq_some_iff.mp hdecode
  have hsame : inscripcion.status = status := Option.some.inj (hs.symm.trans hstatus)
  refine ⟨inscripcion, hi, ?_, hsame ▸ hhandled⟩
  exact Option.some.inj (htaller.symm.trans (document.fieldIs_iff.mp hid))

section Screens

variable {student : User} {screen : Screen}

theorem ScreenGuard.viewDidLoad (student : User) (workshop : Workshop) :
    ScreenGuard student ⟨(storyboard workshop student).viewDidLoad, .issued⟩ where
  user := viewDidLoad_user (storyboard workshop student)
  answer := by simp [Fetch.answer, storyboard]
  enabled := by simp [Enrolled, storyboard]

-- The query goes on, but the screen has not been given an answer yet.
theorem ScreenGuard.waiting (h : ScreenGuard student screen) {fetch : Fetch}
    (hold : screen.fetch.answer = []) (hnew : fetch.answer = []) :
    ScreenGuard student { screen with fetch := fetch } := by
  refine ⟨h.user, ?_, h.enabled⟩
  have hanswer := h.answer
  rw [hold] at hanswer
  rw [hnew]
  exact hanswer

theorem ScreenGuard.deliver (h : ScreenGuard student screen) {documents : List Document}
    (hfetch : screen.fetch = .read documents) {view : ViewControllerWorkshop}
    (hview : screen.view.getEnrollmentStatus (.ok documents) = some view) :
    ScreenGuard student ⟨view, .delivered documents⟩ := by
  obtain ⟨inscripciones, hm, rfl⟩ := (getEnrollmentStatus_ok screen.view).mp hview
  have hnone : screen.view.inscripciones = [] := by
    have hanswer := h.answer
    rw [hfetch] at hanswer
    exact (Option.some.inj hanswer).symm
  refine ⟨by simpa using h.user, ?_, fun henabled => ?_⟩
  · simpa [Fetch.answer, hnone] using hm
  · simpa using ((fetchCompletion_enabled _).mp henabled).2

theorem ScreenGuard.enrollBt (h : ScreenGuard student screen) :
    ScreenGuard student { screen with view := screen.view.enrollBt } :=
  ⟨h.user, h.answer,
    fun henabled => absurd henabled (by simp [ViewControllerWorkshop.enrollBt, enrollStudent])⟩

theorem ScreenGuard.completion (h : ScreenGuard student screen) (err : Option String) :
    ScreenGuard student { screen with view := screen.view.enrollStudentCompletion err } := by
  cases err with
  | none => exact ⟨h.user, h.answer, h.enabled⟩
  | some err => exact h

end Screens

theorem answer_of_outstanding {fetch : Fetch} (h : fetch.outstanding = true) :
    fetch.answer = [] := by
  cases fetch with
  | issued | read _ => rfl
  | delivered _ | failed => cases h

section State

variable {state : State}

-- Replacing one write trades its part of the count for that of its replacement.
theorem countP_setWrite (p : Write → Bool) {index : ℕ} {old : Write}
    (hold : state.writes[index]? = some old) (new : Write) :
    (state.setWrite index new).writes.countP p + (if p old then 1 else 0) =
      state.writes.countP p + (if p new then 1 else 0) := by
  obtain ⟨hlt, rfl⟩ := List.getElem?_eq_some_iff.mp hold
  simp only [State.setWrite, List.countP_set hlt]
  by_cases ho : p state.writes[index] = true
  · have hpos : 0 < state.writes.countP p :=
      List.countP_pos_iff.mpr ⟨_, List.getElem_mem hlt, ho⟩
    simp only [ho, if_true]
    omega
  · simp only [ho, Bool.false_eq_true, if_false]
    omega

end State

theorem start_guarded {student : User} {collection : List Document} (h : Unique collection) :
    Guarded (start student collection) where
  once := fun matricula tallerID => by simpa [start] using h matricula tallerID
  screens := by simp [start]

-- A tap that meets `Informed` finds no document and no write with its key.
theorem Guarded.tap {state : State} (h : Guarded state) {index : ℕ} {screen : Screen}
    (hscreen : state.screens[index]? = some screen)
    (henabled : screen.view.btInscripcion.isEnabled = true)
    (hcond : Informed state (.tap index)) :
    state.collection.countP (hasKey state.student.matricula screen.view.workshop.wkID) = 0 ∧
    state.writes.countP (·.pendingFor state.student.matricula screen.view.workshop.wkID) = 0 := by
  obtain ⟨hwrites, hdocuments⟩ := hcond screen hscreen
  have hguard := h.screens screen (List.mem_of_getElem? hscreen)
  constructor
  · apply List.countP_eq_zero.mpr
    intro document hd hk
    have htaken := enrolled_of_showsTaken hguard.answer (hdocuments ⟨document, hd, hk⟩)
    exact hguard.enabled henabled htaken
  · apply List.countP_eq_zero.mpr
    intro write hw
    simp [hwrites write hw]

-- A write that has been answered, well or badly, is on its way no more.
theorem Guarded.once_finish {state : State} (h : Guarded state) {index : ℕ} {write : Write}
    (hwrite : state.writes[index]? = some write) (err : Option String)
    (matricula tallerID : String) :
    let next := (state.setWrite index { write with stage := .finished }).callback write.screen err
    next.collection.countP (hasKey matricula tallerID) +
      next.writes.countP (·.pendingFor matricula tallerID) ≤ 1 := by
  have honce := h.once matricula tallerID
  have hset := countP_setWrite (·.pendingFor matricula tallerID) hwrite
    { write with stage := .finished }
  have hfinished : ({ write with stage := .finished } : Write).pendingFor matricula tallerID =
      false := rfl
  rw [hfinished] at hset
  simp only [Bool.false_eq_true, if_false] at hset
  simp only [callback_collection, callback_writes]
  have hle : (state.setWrite index { write with stage := .finished }).writes.countP
      (·.pendingFor matricula tallerID) ≤ state.writes.countP (·.pendingFor matricula tallerID) := by
    omega
  exact Nat.le_trans (Nat.add_le_add_left hle _) honce

-- Documents and pending writes together have each key at most once.
theorem Guarded.once_step {state next : State} {event : Event} (h : Guarded state)
    (hcond : Informed state event) (hstep : Step state event next) (matricula tallerID : String) :
    next.collection.countP (hasKey matricula tallerID) +
      next.writes.countP (·.pendingFor matricula tallerID) ≤ 1 := by
  have honce := h.once matricula tallerID
  cases hstep with
  | openScreen _ | read _ _ _ _ | deliver _ _ _ | deliverError _ _ => exact honce
  | @tap index screen hscreen hbutton =>
      have hold := h.screens screen (List.mem_of_getElem? hscreen)
      have henabled := (UIButton.sendsAction_iff.mp hbutton).1
      obtain ⟨hdocuments, hwrites⟩ := h.tap hscreen henabled hcond
      simp only [State.addWrite, State.setScreen, List.countP_append, List.countP_singleton,
        Write.pendingFor, decide_true, Bool.true_and, hasKey_enrollData, hold.user]
      by_cases hkey : state.student.matricula = matricula ∧ screen.view.workshop.wkID = tallerID
      · obtain ⟨rfl, rfl⟩ := hkey
        simp only [Write.pendingFor] at hwrites
        simp [hdocuments, hwrites]
      · simpa [hkey, Write.pendingFor] using honce
  | @store index write documentID hwrite hstage hfresh =>
      have hset := countP_setWrite (·.pendingFor matricula tallerID) hwrite
        { write with stage := .stored documentID }
      have hnew : hasKey matricula tallerID ⟨documentID, write.data⟩ =
          hasKey matricula tallerID ⟨"", write.data⟩ := rfl
      simp only [Write.pendingFor, hstage, decide_true, Bool.true_and] at hset honce
      simp only [State.addDocument, List.countP_append, List.countP_singleton, hnew]
      simp only [State.setWrite, Write.pendingFor] at hset ⊢
      simp at hset
      omega
  | completed hwrite hstage => exact h.once_finish hwrite none matricula tallerID
  | @failed index write err hwrite hstage => exact h.once_finish hwrite (some err) matricula tallerID
  | setStatus documentID status =>
      simpa only [List.countP_map, Function.comp_def, hasKey_updateStatus] using honce

theorem Guarded.step {state next : State} {event : Event} (h : Guarded state)
    (hcond : Informed state event) (hstep : Step state event next) : Guarded next := by
  refine ⟨h.once_step hcond hstep, ?_⟩
  rw [hstep.student_eq]
  refine hstep.forall_screens_guarded h.screens ?_ ?_ ?_ ?_ ?_ ?_
  · intro workshop _
    exact ScreenGuard.viewDidLoad state.student workshop
  · intro screen own documents hs hfetch _
    exact hs.waiting (by rw [hfetch]; rfl) rfl
  · intro screen documents view hs hfetch hview
    exact hs.deliver hfetch hview
  · intro screen hs houtstanding
    exact hs.waiting (answer_of_outstanding houtstanding) rfl
  · intro screen hs _
    exact hs.enrollBt
  · intro write _ screen err _ _ hs
    exact hs.completion err

theorem guarded_run {student : User} {collection : List Document} {events : List Event}
    {final : State} (hunique : Unique collection)
    (hcond : Transition.Along step Informed (start student collection) events)
    (hrun : Transition.run step (start student collection) events = some final) :
    Guarded final :=
  Transition.run_invariant_along
    (fun _ _ _ hinv hcond hstep => Guarded.step hinv hcond (Step.of_step hstep))
    (start_guarded hunique) hcond hrun

theorem Guarded.unique {state : State} (h : Guarded state) : Unique state.collection :=
  fun matricula tallerID => Nat.le_trans (Nat.le_add_right _ _) (h.once matricula tallerID)

-- As long as every tap is informed, no second document with the same matricula and
-- tallerID is ever stored.
theorem unique_of_informed (student : User) (collection : List Document) (events : List Event)
    (final : State) (hunique : Unique collection)
    (hcond : Transition.Along step Informed (start student collection) events)
    (hrun : Transition.run step (start student collection) events = some final) :
    Unique final.collection :=
  (guarded_run hunique hcond hrun).unique

section Uninformed

-- A pending write may be stored next; next to a document with its key it is a duplicate.
theorem exists_duplicate {state : State} {matricula tallerID : String} {index : ℕ}
    {write : Write} (hwrite : state.writes[index]? = some write)
    (hpending : write.pendingFor matricula tallerID = true) {document : Document}
    (hdocument : document ∈ state.collection) (hkey : hasKey matricula tallerID document = true) :
    ∃ documentID next, step state (.store index documentID) = some next ∧
      ¬Unique next.collection := by
  obtain ⟨documentID, hid⟩ :=
    Infinite.exists_notMem_finset (state.collection.map (·.documentID)).toFinset
  have hfresh : documentID ∉ state.collection.map (·.documentID) := by simpa using hid
  obtain ⟨hstage, hwritten⟩ : write.stage = .pending ∧
      hasKey matricula tallerID ⟨"", write.data⟩ = true := by
    simpa [Write.pendingFor] using hpending
  refine ⟨documentID, _, by simp only [step, hwrite, Option.bind_eq_bind, Option.bind_some,
    hstage, hfresh, not_false_eq_true, and_self, if_true]; rfl, fun hunique => ?_⟩
  have hle := hunique matricula tallerID
  have hpos : 0 < state.collection.countP (hasKey matricula tallerID) :=
    List.countP_pos_iff.mpr ⟨document, hdocument, hkey⟩
  have hnew : hasKey matricula tallerID ⟨documentID, write.data⟩ = true := hwritten
  simp only [State.addDocument, State.setWrite, List.countP_append, List.countP_singleton, hnew,
    if_true] at hle
  omega

-- The condition leaves out no harmless tap: when the writes that are on their way
-- succeed, a tap that is not informed ends in a duplicate.
theorem uninformed_tap_duplicates {state next : State} {index : ℕ} (hguard : Guarded state)
    (hstep : step state (.tap index) = some next) (hcond : ¬Informed state (.tap index)) :
    ∃ events final, Transition.run step next events = some final ∧
      ¬Unique final.collection := by
  cases Step.of_step hstep with
  | @tap _ screen hscreen hbutton =>
      have huser := (hguard.screens screen (List.mem_of_getElem? hscreen)).user
      let write : Write := { screen := index, data := screen.view.enrollData, stage := .pending }
      let tapped :=
        (state.setScreen index { screen with view := screen.view.enrollBt }).addWrite write
      have hwrite : tapped.writes[state.writes.length]? = some write := by
        simp [tapped, State.addWrite, State.setScreen]
      have hpending : write.pendingFor state.student.matricula screen.view.workshop.wkID = true := by
        have hkey := (hasKey_enrollData state.student.matricula screen.view.workshop.wkID ""
          screen.view).mpr ⟨by rw [huser], rfl⟩
        simpa [Write.pendingFor, write] using hkey
      by_cases hstored : ∃ document ∈ state.collection,
          hasKey state.student.matricula screen.view.workshop.wkID document = true
      · obtain ⟨document, hd, hk⟩ := hstored
        obtain ⟨documentID, final, hs, hdup⟩ := exists_duplicate hwrite hpending hd hk
        exact ⟨[.store state.writes.length documentID], final, by simpa using hs, hdup⟩
      · -- nothing is stored yet, so another write with this key is on its way
        obtain ⟨other, ho, hop⟩ : ∃ other ∈ state.writes,
            other.pendingFor state.student.matricula screen.view.workshop.wkID = true := by
          by_contra hnone
          refine hcond fun found hfound => ?_
          cases Option.some.inj (hscreen.symm.trans hfound)
          exact ⟨fun other ho => by simpa using fun hp => hnone ⟨other, ho, hp⟩,
            fun hd => absurd hd hstored⟩
        obtain ⟨position, hlt, rfl⟩ := List.getElem_of_mem ho
        have hother : tapped.writes[position]? = some state.writes[position] := by
          simp [tapped, State.addWrite, State.setScreen, List.getElem?_append_left hlt]
        obtain ⟨hstage, hok⟩ : state.writes[position].stage = .pending ∧ hasKey
            state.student.matricula screen.view.workshop.wkID ⟨"", state.writes[position].data⟩ =
              true := by
          simpa [Write.pendingFor] using hop
        obtain ⟨firstID, hid⟩ :=
          Infinite.exists_notMem_finset (tapped.collection.map (·.documentID)).toFinset
        have hfresh : firstID ∉ tapped.collection.map (·.documentID) := by simpa using hid
        let middle := (tapped.setWrite position
          { state.writes[position] with stage := .stored firstID }).addDocument
            ⟨firstID, state.writes[position].data⟩
        have hfirst : step tapped (.store position firstID) = some middle := by
          simp only [step, hother, Option.bind_eq_bind, Option.bind_some, hstage, hfresh,
            not_false_eq_true, and_self, if_true, middle]
        have hwrite' : middle.writes[state.writes.length]? = some write := by
          simp only [middle, State.addDocument, State.setWrite]
          rw [List.getElem?_set_ne (by omega), hwrite]
        obtain ⟨documentID, final, hs, hdup⟩ := exists_duplicate hwrite' hpending
          (List.mem_append.mpr (.inr (List.mem_singleton_self _))) hok
        refine ⟨[.store position firstID, .store state.writes.length documentID], final, ?_, hdup⟩
        rw [Transition.run_cons, show step _ (.store position firstID) = some middle from hfirst,
          Option.bind_some, Transition.run_singleton, hs]

end Uninformed

private def ana : User :=
  { nombre := "Ana", email := "ana@tec.mx", matricula := "A01", campus := "MTY", rol := "Alumno" }

private def emociones : Workshop :=
  { wkID := "1", title := "Mis Emociones", descr := "", req := [], startDate := 0, endDate := 5 }

private def enrolled : Document :=
  ⟨"d0", [("tallerTitle", .string "Mis Emociones"), ("Date", .timestamp ⟨0⟩),
    ("tallerID", .string "1"), ("campusID", .string "MTY"), ("matricula", .string "A01"),
    ("status", .string "En Proceso")]⟩

private def reopened : List Event :=
  [.openScreen emociones, .read 0 [] [], .deliver 0, .tap 0, .store 0 "d1", .completed 0,
    .setStatus "d1" "Inscrito", .openScreen emociones]

theorem unique_of_informed_reopened :
    ∃ final, Transition.run step (start ana []) reopened = some final ∧
      final.collection.length = 1 ∧ Unique final.collection :=
  ⟨_, rfl, rfl, unique_of_informed ana [] reopened _ (fun _ _ => by simp) (by decide) rfl⟩

-- A tap before the fetch has answered: the storyboard leaves the button enabled.
theorem not_unique_early_tap :
    ¬∀ (student : User) (collection : List Document) (events : List Event) (final : State),
      Unique collection → Transition.Along step Coordinated (start student collection) events →
      Transition.run step (start student collection) events = some final →
      Unique final.collection := by
  intro h
  have hunique : Unique [enrolled] := fun _ _ => List.countP_le_length
  have hfinal := h ana [enrolled] [.openScreen emociones, .tap 0, .store 0 "d1"] _ hunique
    (by decide) rfl
  exact absurd (hfinal "A01" "1") (by decide)

end AppPrepanet.Inscripciones
