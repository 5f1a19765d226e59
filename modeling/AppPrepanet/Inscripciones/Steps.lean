import AppPrepanet.Growth
import AppPrepanet.Inscripciones
import AppPrepanet.Positions

namespace AppPrepanet.Inscripciones

open Firestore Growth ViewControllerWorkshop

-- How much is still to come of a write.
def Stage.left : Stage → ℕ
  | .pending => 2
  | .stored _ => 1
  | .finished => 0

section Callback

variable {state : State}

-- A callback runs on one screen only.
theorem getElem?_callback {Q : ℕ → Screen → Prop}
    (h : ∀ (index : ℕ) (screen : Screen), state.screens[index]? = some screen → Q index screen)
    {position : ℕ} {err : Option String}
    (hcompletion : ∀ screen, state.screens[position]? = some screen → Q position screen →
      Q position { screen with view := screen.view.enrollStudentCompletion err }) :
    ∀ (index : ℕ) (screen : Screen),
      (state.callback position err).screens[index]? = some screen → Q index screen := by
  unfold State.callback
  split
  · exact h
  · rename_i screen hs
    exact Positions.forall_getElem?_set h (hcompletion screen hs (h position screen hs))

@[simp] theorem callback_collection (index : ℕ) (err : Option String) :
    (state.callback index err).collection = state.collection := by
  unfold State.callback
  split <;> rfl

@[simp] theorem callback_writes (index : ℕ) (err : Option String) :
    (state.callback index err).writes = state.writes := by
  unfold State.callback
  split <;> rfl

@[simp] theorem callback_student (index : ℕ) (err : Option String) :
    (state.callback index err).student = state.student := by
  unfold State.callback
  split <;> rfl

end Callback

-- A change of status takes no document away and gives none another name.
theorem map_documentID_updateStatus (documentID status : String) (collection : List Document) :
    (collection.map (updateStatus documentID status)).map (·.documentID) =
      collection.map (·.documentID) := by
  rw [List.map_map]
  apply List.map_congr_left
  intro document _
  simp only [Function.comp_apply, updateStatus]
  split_ifs <;> rfl

section View

variable {own : List (Fields × Stage)} {stored : List Document} {document : Document}
  {state : State}

-- A document of an answer is stored, or it is one of the device's own that are on their way.
theorem mem_localView (hd : document ∈ localView own stored) :
    document ∈ stored ∨ ∃ write ∈ own, write.2 ≠ .finished ∧ document.data = write.1 := by
  rcases List.mem_append.mp hd with hd | hd
  · obtain ⟨original, horiginal, rfl⟩ := List.mem_map.mp hd
    cases hfind : own.find? (·.2 = .stored original.documentID) with
    | none => exact .inl horiginal
    | some write =>
        have hstage : write.2 = .stored original.documentID := by simpa using List.find?_some hfind
        exact .inr ⟨write, List.mem_of_find?_eq_some hfind, by simp [hstage], rfl⟩
  · obtain ⟨write, hwrite, rfl⟩ := List.mem_map.mp hd
    obtain ⟨hmem, hstage⟩ := List.mem_filter.mp hwrite
    have hpending : write.2 = .pending := by simpa using hstage
    exact .inr ⟨write, hmem, by simp [hpending], rfl⟩

theorem mem_view {own : List ℕ} (hd : document ∈ state.view own) :
    document ∈ state.matching ∨ ∃ write ∈ state.writes, write.stage ≠ .finished ∧
      document.data = write.data := by
  refine (mem_localView hd).imp_right ?_
  rintro ⟨_, hmem, hstage, hdata⟩
  obtain ⟨write, hwrite, rfl⟩ := List.mem_map.mp hmem
  obtain ⟨position, _, hposition⟩ := List.mem_filterMap.mp hwrite
  exact ⟨write, List.mem_of_getElem? hposition, hstage, hdata⟩

-- Where all that it has handed over has been answered, a device sees what is stored.
theorem localView_of_finished (h : ∀ write ∈ own, write.2 = .finished) :
    localView own stored = stored := by
  have hnone : ∀ document : Document, own.find? (·.2 = .stored document.documentID) = none := by
    intro document
    refine List.find?_eq_none.mpr fun write hwrite => ?_
    simp [h write hwrite]
  have hpending : own.filter (·.2 = .pending) = [] := by
    refine List.filter_eq_nil_iff.mpr fun write hwrite => ?_
    simp [h write hwrite]
  simp [localView, hnone, hpending]

theorem view_of_finished {own : List ℕ}
    (h : ∀ position ∈ own, ∀ write ∈ state.writes[position]?, write.stage = .finished) :
    state.view own = state.matching := by
  refine localView_of_finished fun _ hmem => ?_
  obtain ⟨write, hwrite, rfl⟩ := List.mem_map.mp hmem
  obtain ⟨position, hown, hposition⟩ := List.mem_filterMap.mp hwrite
  exact h position hown write hposition

end View

section Step

variable {state next : State} {event : Event}

-- What the relation allows, `step` does.
theorem Step.to_step (h : Step state event next) : step state event = some next := by
  cases h with
  | openScreen workshop => rfl
  | read hscreen hfetch hown hdocuments => simp [step, hscreen, hfetch, hown, hdocuments]
  | deliver hscreen hfetch hview => simp [step, hscreen, hfetch, hview]
  | deliverError hscreen hfetch =>
      simp [step, hscreen, hfetch, ViewControllerWorkshop.getEnrollmentStatus]
  | tap hscreen hbutton => simp [step, hscreen, hbutton]
  | store hwrite hstage hfresh => simp only [step, hwrite, Option.bind_eq_bind, Option.bind_some,
      hstage, hfresh, not_false_eq_true, and_self, if_true]
  | completed hwrite hstage => simp [step, hwrite, hstage]
  | failed hwrite hstage => simp [step, hwrite, hstage]
  | setStatus documentID status => rfl

theorem Step.student_eq (h : Step state event next) : next.student = state.student := by
  cases h with
  | openScreen _ | read _ _ _ _ | deliver _ _ _ | deliverError _ _ | tap _ _ | store _ _ _
  | setStatus _ _ => rfl
  | completed _ _ | failed _ _ => exact callback_student _ _

-- What each thing that can happen to a screen preserves, a step preserves of all of them.
-- `Q` may depend on the position of the screen.
theorem Step.forall_screens_at {Q : ℕ → Screen → Prop} (hstep : Step state event next)
    (h : ∀ (index : ℕ) (screen : Screen), state.screens[index]? = some screen → Q index screen)
    (hopen : ∀ workshop, event = .openScreen workshop →
      Q state.screens.length ⟨(storyboard workshop state.student).viewDidLoad, .issued⟩)
    (hread : ∀ index screen own documents, Q index screen → screen.fetch = .issued →
      documents.Perm (state.view own) → Q index { screen with fetch := .read documents })
    (hdeliver : ∀ index screen documents view, state.screens[index]? = some screen →
      Q index screen → screen.fetch = .read documents →
        screen.view.getEnrollmentStatus (.ok documents) = some view →
          Q index ⟨view, .delivered documents⟩)
    (hfail : ∀ index screen, Q index screen → screen.fetch.outstanding = true →
      Q index { screen with fetch := .failed })
    (htap : ∀ index screen, event = .tap index → state.screens[index]? = some screen →
      Q index screen → screen.view.btInscripcion.sendsAction = true →
        Q index { screen with view := screen.view.enrollBt })
    (hcompletion : ∀ position write screen err, state.writes[position]? = some write →
      (err = none → event = .completed position ∧ ∃ documentID, write.stage = .stored documentID) →
        state.screens[write.screen]? = some screen → Q write.screen screen →
          Q write.screen { screen with view := screen.view.enrollStudentCompletion err }) :
    ∀ (index : ℕ) (screen : Screen), next.screens[index]? = some screen → Q index screen := by
  cases hstep with
  | openScreen workshop => exact Positions.forall_getElem?_concat h (hopen workshop rfl)
  | @read index own screen documents hscreen hfetch hown hdocuments =>
      have hold := h index screen hscreen
      exact Positions.forall_getElem?_set h
        (hread index screen own documents hold hfetch hdocuments)
  | @deliver index screen documents view hscreen hfetch hview =>
      have hold := h index screen hscreen
      exact Positions.forall_getElem?_set h
        (hdeliver index screen documents view hscreen hold hfetch hview)
  | @deliverError index screen err hscreen hfetch =>
      have hold := h index screen hscreen
      exact Positions.forall_getElem?_set h (hfail index screen hold hfetch)
  | @tap index screen hscreen hbutton =>
      have hold := h index screen hscreen
      exact Positions.forall_getElem?_set h (htap index screen rfl hscreen hold hbutton)
  | store _ _ _ | setStatus _ _ => exact h
  | @completed index write documentID hwrite hstage =>
      have hset : ∀ (position : ℕ) (screen : Screen), (state.setWrite index
          { write with stage := .finished }).screens[position]? = some screen →
            Q position screen := h
      exact getElem?_callback hset fun screen hs =>
        hcompletion index write screen none hwrite (fun _ => ⟨rfl, documentID, hstage⟩) hs
  | @failed index write err hwrite hstage =>
      have hset : ∀ (position : ℕ) (screen : Screen), (state.setWrite index
          { write with stage := .finished }).screens[position]? = some screen →
            Q position screen := h
      exact getElem?_callback hset fun screen hs =>
        hcompletion index write screen (some err) hwrite (fun hnone => by cases hnone) hs

theorem Step.forall_screens_guarded {P : Screen → Prop}
    (hstep : Step state event next) (h : ∀ screen ∈ state.screens, P screen)
    (hopen : ∀ workshop, event = .openScreen workshop →
      P ⟨(storyboard workshop state.student).viewDidLoad, .issued⟩)
    (hread : ∀ screen own documents, P screen → screen.fetch = .issued →
      documents.Perm (state.view own) → P { screen with fetch := .read documents })
    (hdeliver : ∀ screen documents view, P screen → screen.fetch = .read documents →
      screen.view.getEnrollmentStatus (.ok documents) = some view →
        P ⟨view, .delivered documents⟩)
    (hfail : ∀ screen, P screen → screen.fetch.outstanding = true →
      P { screen with fetch := .failed })
    (htap : ∀ screen, P screen → screen.view.btInscripcion.sendsAction = true →
      P { screen with view := screen.view.enrollBt })
    (hcompletion : ∀ write ∈ state.writes, ∀ screen err,
      (err = none → ∃ documentID, write.stage = .stored documentID) →
        state.screens[write.screen]? = some screen → P screen →
        P { screen with view := screen.view.enrollStudentCompletion err }) :
    ∀ screen ∈ next.screens, P screen := by
  intro screen hs
  obtain ⟨index, hindex⟩ := List.getElem?_of_mem hs
  have hold : ∀ (index : ℕ) (screen : Screen), state.screens[index]? = some screen → P screen :=
    fun _ other ho => h other (List.mem_of_getElem? ho)
  exact hstep.forall_screens_at (Q := fun _ => P) hold hopen (fun _ => hread)
    (fun _ screen documents view _ => hdeliver screen documents view) (fun _ => hfail)
    (fun _ screen _ _ => htap screen)
    (fun _ write screen err hwrite hstored =>
      hcompletion write (List.mem_of_getElem? hwrite) screen err fun hnone => (hstored hnone).2)
    index screen hindex

-- The same where the guards do not matter.
theorem Step.forall_screens {P : Screen → Prop}
    (hstep : Step state event next) (h : ∀ screen ∈ state.screens, P screen)
    (hopen : ∀ workshop, event = .openScreen workshop →
      P ⟨(storyboard workshop state.student).viewDidLoad, .issued⟩)
    (hread : ∀ screen own documents, P screen → documents.Perm (state.view own) →
      P { screen with fetch := .read documents })
    (hdeliver : ∀ screen documents view, P screen → screen.fetch = .read documents →
      screen.view.getEnrollmentStatus (.ok documents) = some view →
        P ⟨view, .delivered documents⟩)
    (hfail : ∀ screen, P screen → P { screen with fetch := .failed })
    (htap : ∀ screen, P screen → P { screen with view := screen.view.enrollBt })
    (hcompletion : ∀ screen err, P screen →
      P { screen with view := screen.view.enrollStudentCompletion err }) :
    ∀ screen ∈ next.screens, P screen :=
  hstep.forall_screens_guarded h hopen
    (fun screen own documents hs _ => hread screen own documents hs)
    hdeliver (fun screen hs _ => hfail screen hs) (fun screen hs _ => htap screen hs)
    fun _ _ screen err _ _ => hcompletion screen err

-- A write begins with a tap, and from then on only its stage changes.
theorem Step.forall_writes {P : Write → Prop}
    (hstep : Step state event next) (h : ∀ write ∈ state.writes, P write)
    (htap : ∀ index screen, state.screens[index]? = some screen →
      P { screen := index, data := screen.view.enrollData, stage := .pending })
    (hstage : ∀ write stage, P write → P { write with stage := stage }) :
    ∀ write ∈ next.writes, P write := by
  cases hstep with
  | openScreen _ | read _ _ _ _ | deliver _ _ _ | deliverError _ _ | setStatus _ _ => exact h
  | @tap index screen hscreen hbutton =>
      exact Positions.forall_mem_concat h (htap index screen hscreen)
  | @store index write documentID hwrite hpending hfresh =>
      have hold := h write (List.mem_of_getElem? hwrite)
      exact Positions.forall_mem_set h (hstage write (.stored documentID) hold)
  | @completed index write _ hwrite hstored | @failed index write _ hwrite hstored =>
      have hold := h write (List.mem_of_getElem? hwrite)
      rw [callback_writes]
      exact Positions.forall_mem_set h (hstage write .finished hold)

-- The collection changes in two ways only: a pending write is stored behind the documents
-- that are there, or a status is set.
theorem Step.collection_cases (hstep : Step state event next) :
    next.collection = state.collection ∨
    (∃ index documentID write, event = .store index documentID ∧
      state.writes[index]? = some write ∧ write.stage = .pending ∧
      documentID ∉ state.collection.map (·.documentID) ∧
      next.collection = state.collection ++ [⟨documentID, write.data⟩]) ∨
    ∃ documentID status, event = .setStatus documentID status ∧
      next.collection = state.collection.map (updateStatus documentID status) := by
  cases hstep with
  | openScreen _ | read _ _ _ _ | deliver _ _ _ | deliverError _ _ | tap _ _ => exact .inl rfl
  | completed _ _ | failed _ _ => exact .inl (callback_collection _ _)
  | @store index write documentID hwrite hstage hfresh =>
      exact .inr (.inl ⟨index, documentID, write, rfl, hwrite, hstage, hfresh, rfl⟩)
  | setStatus documentID status => exact .inr (.inr ⟨documentID, status, rfl, rfl⟩)

-- A relation that each thing that can happen to a screen respects holds between the screens
-- before and after a step.
theorem Step.extends_screens {R : Screen → Screen → Prop} [Std.Refl R]
    (hstep : Step state event next)
    (hread : ∀ screen documents, screen.fetch = .issued →
      R screen { screen with fetch := .read documents })
    (hdeliver : ∀ screen documents view, screen.fetch = .read documents →
      screen.view.getEnrollmentStatus (.ok documents) = some view →
        R screen ⟨view, .delivered documents⟩)
    (hfail : ∀ screen, screen.fetch.outstanding = true → R screen { screen with fetch := .failed })
    (htap : ∀ screen, R screen { screen with view := screen.view.enrollBt })
    (hcompletion : ∀ screen err,
      R screen { screen with view := screen.view.enrollStudentCompletion err }) :
    Extends R state.screens next.screens := by
  cases hstep with
  | openScreen workshop => exact Extends.concat _ _
  | @read index own screen documents hscreen hfetch hown hdocuments =>
      exact Extends.set hscreen (hread screen documents hfetch)
  | @deliver index screen documents view hscreen hfetch hview =>
      exact Extends.set hscreen (hdeliver screen documents view hfetch hview)
  | @deliverError index screen err hscreen hfetch => exact Extends.set hscreen (hfail screen hfetch)
  | @tap index screen hscreen hbutton => exact Extends.set hscreen (htap screen)
  | store _ _ _ | setStatus _ _ => exact Extends.refl _
  | @completed index write _ hwrite hstage | @failed index write _ hwrite hstage =>
      unfold State.callback
      split
      · exact Extends.refl _
      · rename_i screen hscreen
        exact Extends.set hscreen (hcompletion screen _)

-- What a screen is about never changes: its workshop and its user.
def Screen.subject (screen : Screen) : Workshop × User := (screen.view.workshop, screen.view.user)

theorem Step.subject (hstep : Step state event next) :
    Extends (fun old new => new.subject = old.subject) state.screens next.screens := by
  have : Std.Refl fun old new : Screen => new.subject = old.subject := ⟨fun _ => rfl⟩
  refine hstep.extends_screens ?_ ?_ ?_ ?_ ?_
  · intro screen documents _
    rfl
  · intro screen documents view _ hview
    obtain ⟨inscripciones, _, rfl⟩ := screen.view.getEnrollmentStatus_ok.mp hview
    simp [Screen.subject]
  · intro screen _
    rfl
  · intro screen
    rfl
  · intro screen err
    cases err with
    | none => rfl
    | some err => rfl

theorem enrollData_of_subject {old new : Screen} (h : new.subject = old.subject) :
    new.view.enrollData = old.view.enrollData := by
  obtain ⟨hworkshop, huser⟩ := Prod.mk.inj h
  simp only [enrollData, hworkshop, huser]

-- What a write may become: it stays at its place, and once it has left for good it is not
-- pending again.
def Write.Advances (old new : Write) : Prop :=
  new.screen = old.screen ∧ new.data = old.data ∧ (new.stage = .pending → old.stage = .pending)

instance : Std.Refl Write.Advances := ⟨fun _ => ⟨rfl, rfl, id⟩⟩

theorem Step.extends_writes (hstep : Step state event next) :
    Extends Write.Advances state.writes next.writes := by
  cases hstep with
  | openScreen _ | read _ _ _ _ | deliver _ _ _ | deliverError _ _ | setStatus _ _ =>
      exact Extends.refl _
  | tap hscreen hbutton => exact Extends.concat _ _
  | store hwrite hpending hfresh => exact Extends.set hwrite ⟨rfl, rfl, by simp⟩
  | completed hwrite hstored | failed hwrite hstored =>
      rw [callback_writes]
      exact Extends.set hwrite ⟨rfl, rfl, by simp⟩

end Step

end AppPrepanet.Inscripciones
