import AppPrepanet.Transition
import AppPrepanet.ViewControllerWorkshop.Button

namespace AppPrepanet.Inscripciones

open Firestore

-- What has become of the query that `viewDidLoad` issued. Firestore takes the
-- snapshot at some moment between the issue and the delivery.
inductive Fetch where
  | issued
  | read (documents : List Document)
  | delivered (documents : List Document)
  | failed
deriving DecidableEq

structure Screen where
  view : ViewControllerWorkshop
  fetch : Fetch
deriving DecidableEq

-- An `addDocument` is stored or fails; its callback on the screen comes afterwards. Until then
-- the device that made it keeps the document as it has written it.
inductive Stage where
  | pending
  | stored (documentID : String)
  | finished
deriving DecidableEq

structure Write where
  screen : ℕ
  data : Fields
  stage : Stage
deriving DecidableEq

-- Detail screens of one student, open one after another or on several devices, over
-- the one collection Inscripciones. Screens and writes are named by their position.
structure State where
  student : User
  collection : List Document
  screens : List Screen
  writes : List Write
deriving DecidableEq

-- `own` are the writes that were made on the device of the screen that reads.
inductive Event where
  | openScreen (workshop : Workshop)
  | read (screen : ℕ) (own : List ℕ) (documents : List Document)
  | deliver (screen : ℕ)
  | deliverError (screen : ℕ) (err : String)
  | tap (screen : ℕ)
  | store (write : ℕ) (documentID : String)
  | completed (write : ℕ)
  | failed (write : ℕ) (err : String)
  | setStatus (documentID status : String)
deriving DecidableEq

def start (student : User) (collection : List Document) : State where
  student := student
  collection := collection
  screens := []
  writes := []

-- What a device that has handed over these documents itself makes of the stored ones: until a
-- write of its own has been answered it sees the document as it has written it. Nothing reads
-- the identifier that a pending document has already.
def localView (own : List (Fields × Stage)) (stored : List Document) : List Document :=
  (stored.map fun document =>
    match own.find? (·.2 = .stored document.documentID) with
    | some write => ⟨document.documentID, write.1⟩
    | none => document) ++
  (own.filter (·.2 = .pending)).map fun write => ⟨"", write.1⟩

namespace State

-- The documents that match the query `matricula = user.matricula`.
def matching (state : State) : List Document :=
  state.collection.filter (·.fieldIs "matricula" state.student.matricula)

-- What a device answers that query with.
def view (state : State) (own : List ℕ) : List Document :=
  localView ((own.filterMap (state.writes[·]?)).map fun write => (write.data, write.stage))
    state.matching

def addScreen (state : State) (screen : Screen) : State :=
  { state with screens := state.screens ++ [screen] }

def setScreen (state : State) (index : ℕ) (screen : Screen) : State :=
  { state with screens := state.screens.set index screen }

def addWrite (state : State) (write : Write) : State :=
  { state with writes := state.writes ++ [write] }

def setWrite (state : State) (index : ℕ) (write : Write) : State :=
  { state with writes := state.writes.set index write }

def addDocument (state : State) (document : Document) : State :=
  { state with collection := state.collection ++ [document] }

-- A callback runs on its screen, also when that screen has been left.
def callback (state : State) (index : ℕ) (err : Option String) : State :=
  match state.screens[index]? with
  | none => state
  | some screen =>
      state.setScreen index { screen with view := screen.view.enrollStudentCompletion err }

end State

def updateStatus (documentID status : String) (document : Document) : Document :=
  if document.documentID = documentID then document.setField "status" (.string status)
  else document

namespace Fetch

def outstanding : Fetch → Bool
  | .issued | .read _ => true
  | .delivered _ | .failed => false

def answered : Fetch → Bool
  | .delivered _ => true
  | .issued | .read _ | .failed => false

-- The documents that the screen has been given.
def answer : Fetch → List Document
  | .delivered documents => documents
  | .issued | .read _ | .failed => []

end Fetch

def step (state : State) : Event → Option State
  | .openScreen workshop =>
      let view := (ViewControllerWorkshop.storyboard workshop state.student).viewDidLoad
      some (state.addScreen { view := view, fetch := .issued })
  | .read index own documents => do
      let screen ← state.screens[index]?
      if screen.fetch = .issued ∧ own.Nodup ∧ documents.Perm (state.view own) then
        some (state.setScreen index { screen with fetch := .read documents })
      else none
  | .deliver index => do
      let screen ← state.screens[index]?
      match screen.fetch with
      | .read documents =>
          let view ← screen.view.getEnrollmentStatus (.ok documents)
          some (state.setScreen index { view := view, fetch := .delivered documents })
      | _ => none
  | .deliverError index err => do
      let screen ← state.screens[index]?
      if screen.fetch.outstanding then
        let view ← screen.view.getEnrollmentStatus (.error err)
        some (state.setScreen index { view := view, fetch := .failed })
      else none
  | .tap index => do
      let screen ← state.screens[index]?
      if screen.view.btInscripcion.sendsAction then
        let write := { screen := index, data := screen.view.enrollData, stage := .pending }
        some ((state.setScreen index { screen with view := screen.view.enrollBt }).addWrite write)
      else none
  | .store index documentID => do
      let write ← state.writes[index]?
      if write.stage = .pending ∧ documentID ∉ state.collection.map (·.documentID) then
        some ((state.setWrite index { write with stage := .stored documentID }).addDocument
          ⟨documentID, write.data⟩)
      else none
  | .completed index => do
      let write ← state.writes[index]?
      match write.stage with
      | .stored _ =>
          some ((state.setWrite index { write with stage := .finished }).callback write.screen none)
      | _ => none
  | .failed index err => do
      let write ← state.writes[index]?
      if write.stage = .pending then
        some ((state.setWrite index { write with stage := .finished }).callback
          write.screen (some err))
      else none
  | .setStatus documentID status =>
      some { state with collection := state.collection.map (updateStatus documentID status) }

-- Everything a step can do, with its guards. Later proofs split on this relation and
-- do not unfold `step`.
inductive Step (state : State) : Event → State → Prop
  | openScreen (workshop : Workshop) :
      Step state (.openScreen workshop) (state.addScreen
        { view := (ViewControllerWorkshop.storyboard workshop state.student).viewDidLoad,
          fetch := .issued })
  | read {index : ℕ} {own : List ℕ} {screen : Screen} {documents : List Document}
      (hscreen : state.screens[index]? = some screen) (hfetch : screen.fetch = .issued)
      (hown : own.Nodup) (hdocuments : documents.Perm (state.view own)) :
      Step state (.read index own documents)
        (state.setScreen index { screen with fetch := .read documents })
  | deliver {index : ℕ} {screen : Screen} {documents : List Document}
      {view : ViewControllerWorkshop} (hscreen : state.screens[index]? = some screen)
      (hfetch : screen.fetch = .read documents)
      (hview : screen.view.getEnrollmentStatus (.ok documents) = some view) :
      Step state (.deliver index)
        (state.setScreen index { view := view, fetch := .delivered documents })
  | deliverError {index : ℕ} {screen : Screen} {err : String}
      (hscreen : state.screens[index]? = some screen)
      (hfetch : screen.fetch.outstanding = true) :
      Step state (.deliverError index err) (state.setScreen index { screen with fetch := .failed })
  | tap {index : ℕ} {screen : Screen} (hscreen : state.screens[index]? = some screen)
      (hbutton : screen.view.btInscripcion.sendsAction = true) :
      Step state (.tap index)
        ((state.setScreen index { screen with view := screen.view.enrollBt }).addWrite
          { screen := index, data := screen.view.enrollData, stage := .pending })
  | store {index : ℕ} {write : Write} {documentID : String}
      (hwrite : state.writes[index]? = some write) (hstage : write.stage = .pending)
      (hfresh : documentID ∉ state.collection.map (·.documentID)) :
      Step state (.store index documentID)
        ((state.setWrite index { write with stage := .stored documentID }).addDocument
          ⟨documentID, write.data⟩)
  | completed {index : ℕ} {write : Write} {documentID : String}
      (hwrite : state.writes[index]? = some write) (hstage : write.stage = .stored documentID) :
      Step state (.completed index)
        ((state.setWrite index { write with stage := .finished }).callback write.screen none)
  | failed {index : ℕ} {write : Write} {err : String}
      (hwrite : state.writes[index]? = some write) (hstage : write.stage = .pending) :
      Step state (.failed index err)
        ((state.setWrite index { write with stage := .finished }).callback
          write.screen (some err))
  | setStatus (documentID status : String) :
      Step state (.setStatus documentID status)
        { state with collection := state.collection.map (updateStatus documentID status) }

theorem Step.of_step {state next : State} {event : Event} (h : step state event = some next) :
    Step state event next := by
  cases event with
  | openScreen workshop =>
      cases h
      exact .openScreen workshop
  | read index own documents =>
      simp only [step, Option.bind_eq_bind, Option.bind_eq_some_iff] at h
      obtain ⟨screen, hscreen, h⟩ := h
      split_ifs at h with hc
      cases h
      exact .read hscreen hc.1 hc.2.1 hc.2.2
  | deliver index =>
      simp only [step, Option.bind_eq_bind, Option.bind_eq_some_iff] at h
      obtain ⟨screen, hscreen, h⟩ := h
      split at h
      · rename_i documents hfetch
        obtain ⟨view, hview, h⟩ := Option.bind_eq_some_iff.mp h
        cases h
        exact .deliver hscreen hfetch hview
      · cases h
  | deliverError index err =>
      simp only [step, Option.bind_eq_bind, Option.bind_eq_some_iff] at h
      obtain ⟨screen, hscreen, h⟩ := h
      split_ifs at h with hc
      cases h
      exact .deliverError hscreen hc
  | tap index =>
      simp only [step, Option.bind_eq_bind, Option.bind_eq_some_iff] at h
      obtain ⟨screen, hscreen, h⟩ := h
      split_ifs at h with hc
      cases h
      exact .tap hscreen hc
  | store index documentID =>
      simp only [step, Option.bind_eq_bind, Option.bind_eq_some_iff] at h
      obtain ⟨write, hwrite, h⟩ := h
      split_ifs at h with hc
      cases h
      exact .store hwrite hc.1 hc.2
  | completed index =>
      simp only [step, Option.bind_eq_bind, Option.bind_eq_some_iff] at h
      obtain ⟨write, hwrite, h⟩ := h
      split at h
      · rename_i documentID hstage
        cases h
        exact .completed hwrite hstage
      · cases h
  | failed index err =>
      simp only [step, Option.bind_eq_bind, Option.bind_eq_some_iff] at h
      obtain ⟨write, hwrite, h⟩ := h
      split_ifs at h with hc
      cases h
      exact .failed hwrite hc
  | setStatus documentID status =>
      cases h
      exact .setStatus documentID status

end AppPrepanet.Inscripciones
