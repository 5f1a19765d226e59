import AppPrepanet.Inscripciones.Unique
import AppPrepanet.Ladder
import AppPrepanet.ViewControllerWorkshop.Documents
import Mathlib.Data.Nat.SuccPred

namespace AppPrepanet.Inscripciones

open Firestore Ladder ViewControllerWorkshop

-- Workshops "1" to "n", each requiring exactly the ones before it. Positions in the
-- list start at 0.
structure Sequential (catalogue : List Workshop) : Prop where
  wkID : ∀ (k : ℕ) (hk : k < catalogue.length), catalogue[k].wkID = toString (k + 1)
  titles : (catalogue.map (·.title)).Nodup
  req : ∀ (k : ℕ) (hk : k < catalogue.length), catalogue[k].req = (catalogue.take k).map (·.title)

-- One move of a coordinator.
def Advance (document : Document) (status : String) : Prop :=
  (document.string "status" = some "En Proceso" ∧ status = "Inscrito") ∨
    (document.string "status" = some "Inscrito" ∧ status = "Aprobado")

instance (document : Document) (status : String) : Decidable (Advance document status) := by
  unfold Advance; infer_instance

-- Screens show workshops of the catalogue, and coordinators only advance.
def Allowed (catalogue : List Workshop) (state : State) : Event → Prop
  | .openScreen workshop => workshop ∈ catalogue
  | .setStatus documentID status =>
      ∀ document ∈ state.collection, document.documentID = documentID → Advance document status
  | _ => True

instance (catalogue : List Workshop) (state : State) : DecidablePred (Allowed catalogue state)
  | .openScreen workshop => inferInstanceAs (Decidable (workshop ∈ catalogue))
  | .setStatus _ _ => by unfold Allowed; infer_instance
  | .read _ _ _ | .deliver _ | .deliverError _ _ | .tap _ | .store _ _ | .completed _
  | .failed _ _ => .isTrue trivial

-- The workshop needs no other one, or the one just below it is stored as approved.
def PriorApproved (state : State) (workshop : Workshop) : Prop :=
  workshop.req = [] ∨ ∃ document ∈ state.collection,
    hasKey state.student.matricula (toString workshop.req.length) document = true ∧
      document.string "status" = some "Aprobado"

instance (state : State) (workshop : Workshop) : Decidable (PriorApproved state workshop) := by
  unfold PriorApproved; infer_instance

-- The tap comes after the answer of the screen's fetch, or needs no answer.
def Gated (state : State) : Event → Prop
  | .tap index => ∀ screen ∈ state.screens[index]?,
      screen.fetch.answered = true ∨ PriorApproved state screen.view.workshop
  | _ => True

instance (state : State) : DecidablePred (Gated state)
  | .tap index => by unfold Gated; infer_instance
  | .openScreen _ | .read _ _ _ | .deliver _ | .deliverError _ _ | .store _ _ | .completed _
  | .failed _ _ | .setStatus _ _ => .isTrue trivial

-- The student has a document for the workshop at this position, or a write for one was
-- issued.
def Taken (state : State) (k : ℕ) : Prop :=
  (∃ document ∈ state.collection,
    hasKey state.student.matricula (toString (k + 1)) document = true) ∨
  ∃ write ∈ state.writes, hasKey state.student.matricula (toString (k + 1)) ⟨"", write.data⟩ = true

def Approved (state : State) (k : ℕ) : Prop :=
  ∃ document ∈ state.collection,
    hasKey state.student.matricula (toString (k + 1)) document = true ∧
      document.string "status" = some "Aprobado"

-- An inscripcion read at some earlier moment. It may be stale, but only on the low side:
-- what it shows as approved is approved now.
def Past (catalogue : List Workshop) (state : State) (inscripcion : Inscripcion) : Prop :=
  ∃ k < catalogue.length, inscripcion.wkID = toString (k + 1) ∧
    (inscripcion.status = "Aprobado" → Approved state k)

instance (state : State) (k : ℕ) : Decidable (Taken state k) := by unfold Taken; infer_instance

instance (state : State) (k : ℕ) : Decidable (Approved state k) := by
  unfold Approved; infer_instance

structure ScreenPast (catalogue : List Workshop) (state : State) (screen : Screen) : Prop where
  user : screen.view.user = state.student
  workshop : screen.view.workshop ∈ catalogue
  past : ∀ inscripcion ∈ screen.view.inscripciones, Past catalogue state inscripcion
  read : ∀ documents, screen.fetch = .read documents → ∀ document ∈ documents,
    ∀ inscripcion, inscripcionOf document = some inscripcion → Past catalogue state inscripcion
  gate : screen.fetch.answered = true → screen.view.btInscripcion.isEnabled = true →
    screen.view.canEnroll = true

structure Sound (catalogue : List Workshop) (state : State) : Prop where
  collection : ∀ document ∈ state.collection,
    document.fieldIs "matricula" state.student.matricula = true →
      ∃ inscripcion, inscripcionOf document = some inscripcion ∧
        ∃ k < catalogue.length, inscripcion.wkID = toString (k + 1)
  writes : ∀ write ∈ state.writes, ∃ view : ViewControllerWorkshop,
    view.user = state.student ∧ view.workshop ∈ catalogue ∧ write.data = view.enrollData
  enforced : Enforced {k | Taken state k} {k | Approved state k}
  screens : ∀ screen ∈ state.screens, ScreenPast catalogue state screen

section Catalogue

variable {catalogue : List Workshop}

theorem Sequential.position (h : Sequential catalogue) {workshop : Workshop}
    (hw : workshop ∈ catalogue) :
    ∃ k < catalogue.length, workshop.wkID = toString (k + 1) ∧ workshop.req.length = k := by
  obtain ⟨k, hk, rfl⟩ := List.getElem_of_mem hw
  refine ⟨k, hk, h.wkID k hk, ?_⟩
  rw [h.req k hk, List.length_map, List.length_take]
  omega

theorem toString_succ_inj {a b : ℕ} (h : toString (a + 1) = toString (b + 1)) : a = b := by
  have := Swift.toString_injective h
  omega

theorem approved_subset_taken (state : State) : {k | Approved state k} ⊆ {k | Taken state k} :=
  fun _ ⟨document, hd, hk, _⟩ => .inl ⟨document, hd, hk⟩

-- The single test of `canEnroll` reaches all earlier workshops.
theorem below_of_canEnroll {state : State}
    (henforced : Enforced {k | Taken state k} {k | Approved state k})
    {view : ViewControllerWorkshop} {k : ℕ} (hreq : view.workshop.req.length = k)
    (hpast : ∀ inscripcion ∈ view.inscripciones, Past catalogue state inscripcion)
    (henroll : view.canEnroll = true) : Set.Iio k ⊆ {k | Approved state k} := by
  rcases view.canEnroll_iff.mp henroll with hempty | ⟨inscripcion, hi, hint, hstatus⟩
  · intro rung hr
    rw [hempty, List.length_nil] at hreq
    exact absurd (Set.mem_Iio.mp hr) (by omega)
  · obtain ⟨prior, _, hid, happroved⟩ := hpast inscripcion hi
    rw [hid] at hint
    have hvalue := Swift.int_toString_eq hint.symm
    have hnext : prior + 1 = k := by omega
    exact henforced.below_of_covBy (approved_subset_taken state)
      (Nat.covBy_iff_add_one_eq.mpr hnext) (happroved hstatus)

theorem below_of_priorApproved {state : State}
    (henforced : Enforced {k | Taken state k} {k | Approved state k}) {workshop : Workshop}
    {k : ℕ} (hreq : workshop.req.length = k) (hprior : PriorApproved state workshop) :
    Set.Iio k ⊆ {k | Approved state k} := by
  rcases hprior with hempty | ⟨document, hd, hkey, hstatus⟩
  · intro rung hr
    rw [hempty, List.length_nil] at hreq
    exact absurd (Set.mem_Iio.mp hr) (by omega)
  · intro rung hr
    have hpos : 0 < k := Nat.zero_lt_of_lt (Set.mem_Iio.mp hr)
    obtain ⟨prior, rfl⟩ := Nat.exists_eq_succ_of_ne_zero hpos.ne'
    rw [hreq] at hkey
    exact henforced.below_of_covBy (approved_subset_taken state)
      (Nat.covBy_iff_add_one_eq.mpr rfl) ⟨document, hd, hkey, hstatus⟩ hr

-- What is stored for the student reads as an inscripcion of the catalogue.
theorem Sound.past_of_matching {state : State} (h : Sound catalogue state) {document : Document}
    (hd : document ∈ state.matching) {inscripcion : Inscripcion}
    (hi : inscripcionOf document = some inscripcion) : Past catalogue state inscripcion := by
  obtain ⟨hmem, hstudent⟩ := List.mem_filter.mp hd
  obtain ⟨other, ho, k, hk, hid⟩ := h.collection document hmem hstudent
  cases Option.some.inj (hi.symm.trans ho)
  refine ⟨k, hk, hid, fun hstatus => ?_⟩
  obtain ⟨htaller, _, _, _, hs, _⟩ := inscripcionOf_eq_some_iff.mp hi
  rw [hid] at htaller
  rw [hstatus] at hs
  have hkey : hasKey state.student.matricula (toString (k + 1)) document = true := by
    rw [hasKey, Bool.and_eq_true]
    exact ⟨hstudent, document.fieldIs_iff.mpr htaller⟩
  exact ⟨document, hmem, hkey, hs⟩

-- So does what an answer adds to it from the device: that is not approved yet.
theorem Sound.past (hcatalogue : Sequential catalogue) {state : State} (h : Sound catalogue state)
    {own : List ℕ} {document : Document} (hd : document ∈ state.view own)
    {inscripcion : Inscripcion} (hi : inscripcionOf document = some inscripcion) :
    Past catalogue state inscripcion := by
  rcases mem_view hd with hd | ⟨write, hw, _, hdata⟩
  · exact h.past_of_matching hd hi
  · obtain ⟨view, _, hworkshop, henroll⟩ := h.writes write hw
    obtain ⟨k, hk, hid, _⟩ := hcatalogue.position hworkshop
    have hdocument : document = ⟨document.documentID, view.enrollData⟩ := by
      rw [← henroll, ← hdata]
    rw [hdocument, inscripcionOf_enrollData] at hi
    cases hi
    exact ⟨k, hk, hid, by simp [enrolment]⟩

end Catalogue

section Monotone

variable {catalogue : List Workshop} {state next : State} {event : Event}

-- Approved documents stay approved: no move of a coordinator starts at 'Aprobado'.
theorem Step.approved (h : Step state event next) (hallowed : Allowed catalogue state event)
    {k : ℕ} (hk : Approved state k) : Approved next k := by
  obtain ⟨document, hd, hkey, hstatus⟩ := hk
  cases h with
  | openScreen _ | read _ _ _ _ | deliver _ _ _ | deliverError _ _ | tap _ _ =>
      exact ⟨document, hd, hkey, hstatus⟩
  | store hwrite hstage hfresh =>
      exact ⟨document, List.mem_append_left _ hd, hkey, hstatus⟩
  | completed hwrite hstage | failed hwrite hstage =>
      refine ⟨document, ?_, ?_, hstatus⟩
      · rw [callback_collection]
        exact hd
      · rw [callback_student]
        exact hkey
  | setStatus documentID status =>
      have hne : document.documentID ≠ documentID := by
        intro hid
        rcases hallowed document hd hid with ⟨hs, _⟩ | ⟨hs, _⟩
        · exact absurd (hstatus.symm.trans hs) (by decide)
        · exact absurd (hstatus.symm.trans hs) (by decide)
      have hsame : updateStatus documentID status document = document := if_neg hne
      exact ⟨document, List.mem_map.mpr ⟨document, hd, hsame⟩, hkey, hstatus⟩

theorem Past.mono (h : Step state event next) (hallowed : Allowed catalogue state event)
    {inscripcion : Inscripcion} (hpast : Past catalogue state inscripcion) :
    Past catalogue next inscripcion := by
  obtain ⟨k, hk, hid, happroved⟩ := hpast
  exact ⟨k, hk, hid, fun hstatus => h.approved hallowed (happroved hstatus)⟩

theorem ScreenPast.mono (h : Step state event next) (hallowed : Allowed catalogue state event)
    {screen : Screen} (hscreen : ScreenPast catalogue state screen) :
    ScreenPast catalogue next screen where
  user := by rw [h.student_eq, hscreen.user]
  workshop := hscreen.workshop
  past := fun inscripcion hi => (hscreen.past inscripcion hi).mono h hallowed
  read := fun documents hf document hd inscripcion hi =>
    (hscreen.read documents hf document hd inscripcion hi).mono h hallowed
  gate := hscreen.gate

-- Only a tap takes a new workshop.
theorem Step.taken (h : Step state event next) {k : ℕ} (hk : Taken next k) :
    Taken state k ∨ ∃ index screen, event = .tap index ∧ state.screens[index]? = some screen ∧
      screen.view.btInscripcion.isEnabled = true ∧
      screen.view.workshop.wkID = toString (k + 1) := by
  have hwrites : ∀ (index : ℕ) (write : Write) (stage : Stage),
      state.writes[index]? = some write →
      ∀ other ∈ (state.setWrite index { write with stage := stage }).writes,
        ∃ old ∈ state.writes, old.data = other.data := by
    intro index write stage hw
    refine Positions.forall_mem_set (fun other ho => ⟨other, ho, rfl⟩) ?_
    exact ⟨write, List.mem_of_getElem? hw, rfl⟩
  cases h with
  | openScreen _ | read _ _ _ _ | deliver _ _ _ | deliverError _ _ => exact .inl hk
  | @tap index screen hscreen hbutton =>
      rcases hk with hd | ⟨write, hw, hkey⟩
      · exact .inl (.inl hd)
      · rcases List.mem_append.mp hw with hw | hw
        · exact .inl (.inr ⟨write, hw, hkey⟩)
        · rw [List.mem_singleton.mp hw, hasKey_enrollData] at hkey
          have henabled := (UIButton.sendsAction_iff.mp hbutton).1
          exact .inr ⟨index, screen, rfl, hscreen, henabled, hkey.2⟩
  | @store index write documentID hwrite hstage hfresh =>
      rcases hk with ⟨document, hd, hkey⟩ | ⟨other, ho, hkey⟩
      · rcases List.mem_append.mp hd with hd | hd
        · exact .inl (.inl ⟨document, hd, hkey⟩)
        · rw [List.mem_singleton.mp hd] at hkey
          exact .inl (.inr ⟨write, List.mem_of_getElem? hwrite, hkey⟩)
      · obtain ⟨old, hold, hdata⟩ := hwrites index write (.stored documentID) hwrite other ho
        exact .inl (.inr ⟨old, hold, hdata ▸ hkey⟩)
  | @completed index write _ hwrite hstage | @failed index write _ hwrite hstage =>
      rcases hk with ⟨document, hd, hkey⟩ | ⟨other, ho, hkey⟩
      · rw [callback_collection] at hd
        rw [callback_student] at hkey
        exact .inl (.inl ⟨document, hd, hkey⟩)
      · rw [callback_writes] at ho
        rw [callback_student] at hkey
        obtain ⟨old, hold, hdata⟩ := hwrites index write .finished hwrite other ho
        exact .inl (.inr ⟨old, hold, hdata ▸ hkey⟩)
  | setStatus documentID status =>
      rcases hk with ⟨document, hd, hkey⟩ | hw
      · obtain ⟨old, hold, rfl⟩ := List.mem_map.mp hd
        rw [hasKey_updateStatus] at hkey
        exact .inl (.inl ⟨old, hold, hkey⟩)
      · exact .inl (.inr hw)

end Monotone

section Screens

variable {catalogue : List Workshop} {state : State} {screen : Screen}

theorem ScreenPast.viewDidLoad {workshop : Workshop} (hw : workshop ∈ catalogue) :
    ScreenPast catalogue state
      ⟨(storyboard workshop state.student).viewDidLoad, .issued⟩ where
  user := viewDidLoad_user (storyboard workshop state.student)
  workshop := by simpa [storyboard] using hw
  past := by simp [storyboard]
  read := by simp
  gate := by simp [Fetch.answered]

theorem ScreenPast.deliver (h : ScreenPast catalogue state screen) {documents : List Document}
    (hfetch : screen.fetch = .read documents) {view : ViewControllerWorkshop}
    (hview : screen.view.getEnrollmentStatus (.ok documents) = some view) :
    ScreenPast catalogue state ⟨view, .delivered documents⟩ := by
  obtain ⟨inscripciones, hm, rfl⟩ := (getEnrollmentStatus_ok screen.view).mp hview
  refine ⟨by simpa using h.user, by simpa using h.workshop, fun inscripcion hi => ?_, by simp,
    fun _ henabled => ?_⟩
  · rw [fetchCompletion_inscripciones] at hi
    rcases List.mem_append.mp hi with hi | hi
    · exact h.past inscripcion hi
    · obtain ⟨document, hd, hdecode⟩ := Loop.mapM_eq_some_mem hm hi
      exact h.read documents hfetch document hd inscripcion hdecode
  · have hcount := (canEnroll_iff _).mp ((fetchCompletion_enabled _).mp henabled).1
    rw [canEnroll_iff, fetchCompletion_workshop, fetchCompletion_inscripciones]
    exact hcount

theorem ScreenPast.enrollBt (h : ScreenPast catalogue state screen) :
    ScreenPast catalogue state { screen with view := screen.view.enrollBt } :=
  ⟨h.user, h.workshop, h.past, h.read,
    fun _ henabled => absurd henabled (by simp [ViewControllerWorkshop.enrollBt, enrollStudent])⟩

theorem ScreenPast.completion (h : ScreenPast catalogue state screen) (err : Option String) :
    ScreenPast catalogue state
      { screen with view := screen.view.enrollStudentCompletion err } := by
  cases err with
  | none => exact ⟨h.user, h.workshop, h.past, h.read, h.gate⟩
  | some err => exact h

end Screens

section Sound

variable {catalogue : List Workshop} {state next : State} {event : Event}

theorem start_sound {student : User} {collection : List Document}
    (hnone : ∀ document ∈ collection, document.fieldIs "matricula" student.matricula = false) :
    Sound catalogue (start student collection) where
  collection := by
    intro document hd hstudent
    rw [start, hnone document hd] at hstudent
    exact absurd hstudent (by decide)
  writes := by simp [start]
  enforced := by
    rintro k (⟨document, hd, hkey⟩ | ⟨write, hw, _⟩)
    · simp only [hasKey, start, hnone document hd, Bool.false_and, Bool.false_eq_true] at hkey
    · simp [start] at hw
  screens := by simp [start]

-- Documents enter the collection through writes only, and keep all but their status.
theorem Sound.collection_step (hcatalogue : Sequential catalogue) (h : Sound catalogue state)
    (hstep : Step state event next) :
    ∀ document ∈ next.collection, document.fieldIs "matricula" state.student.matricula = true →
      ∃ inscripcion, inscripcionOf document = some inscripcion ∧
        ∃ k < catalogue.length, inscripcion.wkID = toString (k + 1) := by
  intro document hd hstudent
  cases hstep with
  | openScreen _ | read _ _ _ _ | deliver _ _ _ | deliverError _ _ | tap _ _ =>
      exact h.collection document hd hstudent
  | completed _ _ | failed _ _ =>
      rw [callback_collection] at hd
      exact h.collection document hd hstudent
  | @store index write documentID hwrite hstage hfresh =>
      rcases List.mem_append.mp hd with hd | hd
      · exact h.collection document hd hstudent
      · obtain ⟨view, _, hworkshop, hdata⟩ := h.writes write (List.mem_of_getElem? hwrite)
        obtain ⟨k, hk, hid, _⟩ := hcatalogue.position hworkshop
        rw [List.mem_singleton.mp hd, hdata]
        exact ⟨_, inscripcionOf_enrollData view documentID, k, hk, hid⟩
  | setStatus documentID status =>
      obtain ⟨old, hold, rfl⟩ := List.mem_map.mp hd
      unfold updateStatus at hstudent ⊢
      split_ifs at hstudent ⊢ with hid
      · rw [Document.fieldIs, old.get_setField_other _ (by decide)] at hstudent
        obtain ⟨inscripcion, hi, hrange⟩ := h.collection old hold hstudent
        exact ⟨_, inscripcionOf_setStatus hi status, hrange⟩
      · exact h.collection old hold hstudent

theorem Sound.writes_step (h : Sound catalogue state) (hstep : Step state event next) :
    ∀ write ∈ next.writes, ∃ view : ViewControllerWorkshop,
      view.user = state.student ∧ view.workshop ∈ catalogue ∧ write.data = view.enrollData := by
  refine hstep.forall_writes h.writes ?_ ?_
  · intro index screen hscreen
    have hold := h.screens screen (List.mem_of_getElem? hscreen)
    exact ⟨screen.view, hold.user, hold.workshop, rfl⟩
  · intro write stage hw
    exact hw

theorem Sound.screens_step (hcatalogue : Sequential catalogue) (h : Sound catalogue state)
    (hallowed : Allowed catalogue state event) (hstep : Step state event next) :
    ∀ screen ∈ next.screens, ScreenPast catalogue state screen := by
  refine hstep.forall_screens h.screens ?_ ?_ ?_ ?_ ?_ ?_
  · rintro workshop rfl
    exact ScreenPast.viewDidLoad hallowed
  · intro screen own documents hs hdocuments
    refine ⟨hs.user, hs.workshop, hs.past, fun found hf document hd inscripcion hi => ?_,
      by simp [Fetch.answered]⟩
    cases hf
    exact h.past hcatalogue (hdocuments.mem_iff.mp hd) hi
  · intro screen documents view hs hfetch hview
    exact hs.deliver hfetch hview
  · intro screen hs
    exact ⟨hs.user, hs.workshop, hs.past, by simp, by simp [Fetch.answered]⟩
  · intro screen hs
    exact hs.enrollBt
  · intro screen err hs
    exact hs.completion err

-- A tap that the gate lets through comes after the approval of every earlier workshop.
theorem Sound.below_of_tap (h : Sound catalogue state) {index : ℕ} {screen : Screen}
    (hscreen : state.screens[index]? = some screen)
    (henabled : screen.view.btInscripcion.isEnabled = true) (hgate : Gated state (.tap index))
    {k : ℕ} (hreq : screen.view.workshop.req.length = k) :
    Set.Iio k ⊆ {k | Approved state k} := by
  have hold := h.screens screen (List.mem_of_getElem? hscreen)
  rcases hgate screen hscreen with hdelivered | hprior
  · exact below_of_canEnroll h.enforced hreq hold.past (hold.gate hdelivered henabled)
  · exact below_of_priorApproved h.enforced hreq hprior

theorem Sound.enforced_step (hcatalogue : Sequential catalogue) (h : Sound catalogue state)
    (hallowed : Allowed catalogue state event) (hgate : Gated state event)
    (hstep : Step state event next) :
    Enforced {k | Taken next k} {k | Approved next k} := by
  refine h.enforced.step (fun k hk => hstep.approved hallowed hk) fun k hk => ?_
  rcases hstep.taken hk with htaken | ⟨index, screen, rfl, hscreen, henabled, hid⟩
  · exact .inl htaken
  · have hold := h.screens screen (List.mem_of_getElem? hscreen)
    obtain ⟨position, _, hwkID, hreq⟩ := hcatalogue.position hold.workshop
    have hposition : position = k := toString_succ_inj (hwkID.symm.trans hid)
    subst hposition
    exact .inr (h.below_of_tap hscreen henabled hgate hreq)

theorem Sound.step (hcatalogue : Sequential catalogue) (h : Sound catalogue state)
    (hallowed : Allowed catalogue state event) (hgate : Gated state event)
    (hstep : Step state event next) : Sound catalogue next := by
  have hstudent := hstep.student_eq
  refine ⟨?_, ?_, h.enforced_step hcatalogue hallowed hgate hstep, fun screen hs => ?_⟩
  · rw [hstudent]
    exact h.collection_step hcatalogue hstep
  · rw [hstudent]
    exact h.writes_step hstep
  · exact (h.screens_step hcatalogue hallowed hstep screen hs).mono hstep hallowed

theorem sound_run (hcatalogue : Sequential catalogue) {student : User}
    {collection : List Document} {events : List Event} {final : State}
    (hnone : ∀ document ∈ collection, document.fieldIs "matricula" student.matricula = false)
    (hcond : Transition.Along step (fun state event => Allowed catalogue state event ∧
      Gated state event) (start student collection) events)
    (hrun : Transition.run step (start student collection) events = some final) :
    Sound catalogue final :=
  Transition.run_invariant_along
    (fun _ _ _ hinv hc hs => Sound.step hcatalogue hinv hc.1 hc.2 (Step.of_step hs))
    (start_sound hnone) hcond hrun

theorem Sound.approved_prefix (h : Sound catalogue state) :
    ∃ count ≤ catalogue.length, ∀ k, Approved state k ↔ k < count := by
  refine exists_prefix (h.enforced.isLowerSet (approved_subset_taken state)) ?_
  rintro ⟨document, hd, hkey, _⟩
  rw [hasKey, Bool.and_eq_true] at hkey
  obtain ⟨inscripcion, hi, k, hk, hid⟩ := h.collection document hd hkey.1
  have htaller := (inscripcionOf_eq_some_iff.mp hi).1
  rw [document.fieldIs_iff.mp hkey.2, hid] at htaller
  have heq := toString_succ_inj (Option.some.inj htaller)
  omega

-- The condition leaves out no harmless tap: without it the workshop is taken before the
-- one below it is approved.
theorem ungated_tap_not_enforced (hcatalogue : Sequential catalogue) (h : Sound catalogue state)
    {index : ℕ} (hstep : step state (.tap index) = some next) (hgate : ¬Gated state (.tap index)) :
    ¬Enforced {k | Taken next k} {k | Approved next k} := by
  intro henforced
  cases Step.of_step hstep with
  | @tap _ screen hscreen hbutton =>
      have hold := h.screens screen (List.mem_of_getElem? hscreen)
      obtain ⟨k, hk, hid, hreq⟩ := hcatalogue.position hold.workshop
      refine hgate fun found hfound => .inr ?_
      cases Option.some.inj (hscreen.symm.trans hfound)
      rcases Nat.eq_zero_or_pos k with hzero | hpos
      · exact .inl (List.length_eq_zero_iff.mp (hreq.trans hzero))
      · have htaken : Taken ((state.setScreen index
            { screen with view := screen.view.enrollBt }).addWrite
              { screen := index, data := screen.view.enrollData, stage := .pending }) k := by
          refine .inr ⟨_, List.mem_append_right _ (List.mem_singleton_self _), ?_⟩
          exact (hasKey_enrollData _ _ _ _).mpr ⟨congrArg User.matricula hold.user, hid⟩
        obtain ⟨document, hd, hkey, hstatus⟩ :=
          henforced k htaken (Set.mem_Iio.mpr (Nat.sub_lt hpos Nat.one_pos))
        rw [Nat.sub_add_cancel hpos] at hkey
        exact .inr ⟨document, hd, hreq ▸ hkey, hstatus⟩

end Sound

-- A workshop is taken from the tap on, so the law holds at the tap, when the document is
-- stored, and ever after.
theorem prerequisites_of_gated (catalogue : List Workshop) (student : User)
    (collection : List Document) (events : List Event) (final : State)
    (hcatalogue : Sequential catalogue)
    (hnone : ∀ document ∈ collection, document.fieldIs "matricula" student.matricula = false)
    (hcond : Transition.Along step (fun state event => Allowed catalogue state event ∧
      Gated state event) (start student collection) events)
    (hrun : Transition.run step (start student collection) events = some final) :
    (∀ k, Taken final k → ∀ j < k, Approved final j) ∧
      ∃ count ≤ catalogue.length, ∀ k, Approved final k ↔ k < count := by
  have hsound := sound_run hcatalogue hnone hcond hrun
  refine ⟨fun k hk j hj => ?_, hsound.approved_prefix⟩
  exact hsound.enforced k hk (Set.mem_Iio.mpr hj)

private def beatriz : User :=
  { nombre := "Beatriz", email := "bea@tec.mx", matricula := "A02", campus := "MTY",
    rol := "Alumno" }

private def firstTwo : List Workshop :=
  [{ wkID := "1", title := "Mis Emociones", descr := "", req := [], startDate := 0, endDate := 5 },
   { wkID := "2", title := "Liderazgo", descr := "", req := ["Mis Emociones"], startDate := 6,
     endDate := 9 }]

private theorem firstTwo_sequential : Sequential firstTwo :=
  ⟨by decide, by decide, by decide⟩

private def firstDocument (status : String) : Document :=
  ⟨"d1", [("status", .string status), ("tallerTitle", .string "Mis Emociones"),
    ("Date", .timestamp ⟨0⟩), ("tallerID", .string "1"), ("campusID", .string "MTY"),
    ("matricula", .string "A02")]⟩

private def bothInOrder : List Event :=
  [.openScreen firstTwo[0], .tap 0, .store 0 "d1", .setStatus "d1" "Inscrito",
    .setStatus "d1" "Aprobado", .openScreen firstTwo[1], .read 1 [] [firstDocument "Aprobado"],
    .deliver 1, .tap 1, .store 1 "d2"]

theorem prerequisites_of_gated_inOrder :
    ∃ final, Transition.run step (start beatriz []) bothInOrder = some final ∧
      Taken final 1 ∧ (∀ k, Taken final k → ∀ j < k, Approved final j) ∧
        ∃ count ≤ firstTwo.length, ∀ k, Approved final k ↔ k < count :=
  ⟨_, rfl, by decide, prerequisites_of_gated firstTwo beatriz [] bothInOrder _
    firstTwo_sequential (by simp) (by decide) rfl⟩

-- The second workshop, tapped before the fetch has answered.
theorem not_prerequisites_early_tap :
    ¬∀ (catalogue : List Workshop) (student : User) (collection : List Document)
      (events : List Event) (final : State), Sequential catalogue →
      (∀ document ∈ collection, document.fieldIs "matricula" student.matricula = false) →
      Transition.Along step (Allowed catalogue) (start student collection) events →
      Transition.run step (start student collection) events = some final →
      (∀ k, Taken final k → ∀ j < k, Approved final j) ∧
        ∃ count ≤ catalogue.length, ∀ k, Approved final k ↔ k < count := by
  intro h
  have hfinal := h firstTwo beatriz [] [.openScreen firstTwo[1], .tap 0, .store 0 "d1"] _
    firstTwo_sequential (by simp) (by decide) rfl
  exact absurd (hfinal.1 1 (by decide) 0 (by decide)) (by decide)

end AppPrepanet.Inscripciones
