import AppPrepanet.App
import AppPrepanet.Inscripciones

namespace AppPrepanet.Servidor

open Firestore Inscripciones

-- What has become of a document that was handed to `addDocument`, and who was signed in then:
-- a device keeps one queue of such documents for each user.
structure Mutation where
  author : Option String
  stage : Stage
deriving DecidableEq

-- A device that runs the app, with what has become of the queries of its detail screens and
-- of what they have handed to `addDocument`.
structure Device where
  app : App.State
  fetches : List Fetch
  mutations : List Mutation
deriving DecidableEq

-- Any number of devices over the one collection Inscripciones.
structure State where
  devices : List Device
  collection : List Document
deriving DecidableEq

inductive Event where
  | app (device : ℕ) (event : App.Event)
  | read (device detail : ℕ) (documents : List Document)
  | deliver (device detail : ℕ)
  | deliverError (device detail : ℕ) (err : String)
  | store (device write : ℕ) (documentID : String)
  | completed (device write : ℕ)
  | failed (device write : ℕ) (err : String)
  | setStatus (documentID status : String)
deriving DecidableEq

def Device.start : Device where
  app := App.start
  fetches := []
  mutations := []

def start (count : ℕ) (collection : List Document) : State where
  devices := List.replicate count Device.start
  collection := collection

-- The answers that a detail screen gets come from the server.
def fromServer : App.Event → Bool
  | .nav (.fetchAnswer _ _) | .nav (.completion _ _) => true
  | _ => false

namespace Device

def currentUser (device : Device) : Option String := device.app.nav.login.currentUser

-- What is known here of the enrolments of a matricula: those that the signed-in user has made
-- on this device.
def own (device : Device) (matricula : String) : List (Fields × Stage) :=
  ((device.app.nav.added.zip device.mutations).filter fun entry =>
    entry.2.author = device.currentUser ∧
      (⟨"", entry.1.data⟩ : Document).fieldIs "matricula" matricula = true).map fun entry =>
        (entry.1.data, entry.2.stage)

-- What happens on the device may send a query or a document to the server.
def request (device : Device) (app : App.State) : App.Event → Device
  | .nav (.openDetail _) => { device with app := app, fetches := device.fetches ++ [.issued] }
  | .nav .enrollBt =>
      { device with
        app := app, mutations := device.mutations ++ [⟨device.currentUser, .pending⟩] }
  | _ => { device with app := app }

def setFetch (device : Device) (detail : ℕ) (fetch : Fetch) (app : App.State) : Device :=
  { device with app := app, fetches := device.fetches.set detail fetch }

def setMutation (device : Device) (write : ℕ) (mutation : Mutation) (app : App.State) : Device :=
  { device with app := app, mutations := device.mutations.set write mutation }

end Device

namespace State

def setDevice (state : State) (index : ℕ) (device : Device) : State :=
  { state with devices := state.devices.set index device }

def addDocument (state : State) (document : Document) : State :=
  { state with collection := state.collection ++ [document] }

-- The documents that match the query `matricula = user.matricula`.
def matching (state : State) (user : User) : List Document :=
  state.collection.filter (·.fieldIs "matricula" user.matricula)

-- What the device answers that query with.
def view (state : State) (device : Device) (user : User) : List Document :=
  localView (device.own user.matricula) (state.matching user)

end State

-- A document may be stored after another user has signed in, if it was sent before. Its callback
-- waits until its author is the one who is signed in.
def step (state : State) : Event → Option State
  | .app index event => do
      let device ← state.devices[index]?
      if fromServer event = false then
        let app ← App.step device.app event
        some (state.setDevice index (device.request app event))
      else none
  | .read index detail documents => do
      let device ← state.devices[index]?
      let shown ← device.app.nav.details[detail]?
      if device.fetches[detail]? = some .issued ∧
          documents.Perm (state.view device shown.view.user) then
        some (state.setDevice index (device.setFetch detail (.read documents) device.app))
      else none
  | .deliver index detail => do
      let device ← state.devices[index]?
      match device.fetches[detail]? with
      | some (.read documents) =>
          let app ← App.step device.app (.nav (.fetchAnswer detail (.ok documents)))
          some (state.setDevice index (device.setFetch detail (.delivered documents) app))
      | _ => none
  | .deliverError index detail err => do
      let device ← state.devices[index]?
      let fetch ← device.fetches[detail]?
      if fetch.outstanding then
        let app ← App.step device.app (.nav (.fetchAnswer detail (.error err)))
        some (state.setDevice index (device.setFetch detail .failed app))
      else none
  | .store index write documentID => do
      let device ← state.devices[index]?
      let added ← device.app.nav.added[write]?
      let mutation ← device.mutations[write]?
      if mutation.stage = .pending ∧ documentID ∉ state.collection.map (·.documentID) then
        let stored := { mutation with stage := .stored documentID }
        some ((state.setDevice index (device.setMutation write stored device.app)).addDocument
          ⟨documentID, added.data⟩)
      else none
  | .completed index write => do
      let device ← state.devices[index]?
      let mutation ← device.mutations[write]?
      match mutation.stage with
      | .stored _ =>
          if mutation.author = device.currentUser then
            let app ← App.step device.app (.nav (.completion write none))
            some (state.setDevice index
              (device.setMutation write { mutation with stage := .finished } app))
          else none
      | _ => none
  | .failed index write err => do
      let device ← state.devices[index]?
      let mutation ← device.mutations[write]?
      if mutation.stage = .pending ∧ mutation.author = device.currentUser then
        let app ← App.step device.app (.nav (.completion write (some err)))
        some (state.setDevice index
          (device.setMutation write { mutation with stage := .finished } app))
      else none
  | .setStatus documentID status =>
      some { state with collection := state.collection.map (updateStatus documentID status) }

-- Everything a step can do, with its guards.
inductive Step (state : State) : Event → State → Prop
  | app {index : ℕ} {event : App.Event} {device : Device} {app : App.State}
      (hdevice : state.devices[index]? = some device) (hown : fromServer event = false)
      (hstep : App.step device.app event = some app) :
      Step state (.app index event) (state.setDevice index (device.request app event))
  | read {index detail : ℕ} {documents : List Document} {device : Device}
      {shown : Navigation.Detail} (hdevice : state.devices[index]? = some device)
      (hshown : device.app.nav.details[detail]? = some shown)
      (hfetch : device.fetches[detail]? = some .issued)
      (hdocuments : documents.Perm (state.view device shown.view.user)) :
      Step state (.read index detail documents)
        (state.setDevice index (device.setFetch detail (.read documents) device.app))
  | deliver {index detail : ℕ} {documents : List Document} {device : Device} {app : App.State}
      (hdevice : state.devices[index]? = some device)
      (hfetch : device.fetches[detail]? = some (.read documents))
      (hstep : App.step device.app (.nav (.fetchAnswer detail (.ok documents))) = some app) :
      Step state (.deliver index detail)
        (state.setDevice index (device.setFetch detail (.delivered documents) app))
  | deliverError {index detail : ℕ} {err : String} {device : Device} {fetch : Fetch}
      {app : App.State} (hdevice : state.devices[index]? = some device)
      (hfetch : device.fetches[detail]? = some fetch) (houtstanding : fetch.outstanding = true)
      (hstep : App.step device.app (.nav (.fetchAnswer detail (.error err))) = some app) :
      Step state (.deliverError index detail err)
        (state.setDevice index (device.setFetch detail .failed app))
  | store {index write : ℕ} {documentID : String} {device : Device} {added : Navigation.Write}
      {mutation : Mutation} (hdevice : state.devices[index]? = some device)
      (hadded : device.app.nav.added[write]? = some added)
      (hmutation : device.mutations[write]? = some mutation) (hstage : mutation.stage = .pending)
      (hfresh : documentID ∉ state.collection.map (·.documentID)) :
      Step state (.store index write documentID)
        ((state.setDevice index (device.setMutation write
          { mutation with stage := .stored documentID } device.app)).addDocument
            ⟨documentID, added.data⟩)
  | completed {index write : ℕ} {documentID : String} {device : Device} {mutation : Mutation}
      {app : App.State} (hdevice : state.devices[index]? = some device)
      (hmutation : device.mutations[write]? = some mutation)
      (hstage : mutation.stage = .stored documentID) (hauthor : mutation.author = device.currentUser)
      (hstep : App.step device.app (.nav (.completion write none)) = some app) :
      Step state (.completed index write)
        (state.setDevice index (device.setMutation write { mutation with stage := .finished } app))
  | failed {index write : ℕ} {err : String} {device : Device} {mutation : Mutation}
      {app : App.State} (hdevice : state.devices[index]? = some device)
      (hmutation : device.mutations[write]? = some mutation) (hstage : mutation.stage = .pending)
      (hauthor : mutation.author = device.currentUser)
      (hstep : App.step device.app (.nav (.completion write (some err))) = some app) :
      Step state (.failed index write err)
        (state.setDevice index (device.setMutation write { mutation with stage := .finished } app))
  | setStatus (documentID status : String) :
      Step state (.setStatus documentID status)
        { state with collection := state.collection.map (updateStatus documentID status) }

theorem Step.of_step {state next : State} {event : Event} (h : step state event = some next) :
    Step state event next := by
  cases event with
  | app index event =>
      simp only [step, Option.bind_eq_bind, Option.bind_eq_some_iff] at h
      obtain ⟨device, hdevice, h⟩ := h
      split_ifs at h with hown
      obtain ⟨app, hstep, h⟩ := Option.bind_eq_some_iff.mp h
      cases h
      exact .app hdevice hown hstep
  | read index detail documents =>
      simp only [step, Option.bind_eq_bind, Option.bind_eq_some_iff] at h
      obtain ⟨device, hdevice, shown, hshown, h⟩ := h
      split_ifs at h with hc
      cases h
      exact .read hdevice hshown hc.1 hc.2
  | deliver index detail =>
      simp only [step, Option.bind_eq_bind, Option.bind_eq_some_iff] at h
      obtain ⟨device, hdevice, h⟩ := h
      split at h
      · rename_i documents hfetch
        obtain ⟨app, hstep, h⟩ := Option.bind_eq_some_iff.mp h
        cases h
        exact .deliver hdevice hfetch hstep
      · cases h
  | deliverError index detail err =>
      simp only [step, Option.bind_eq_bind, Option.bind_eq_some_iff] at h
      obtain ⟨device, hdevice, fetch, hfetch, h⟩ := h
      split_ifs at h with houtstanding
      obtain ⟨app, hstep, h⟩ := Option.bind_eq_some_iff.mp h
      cases h
      exact .deliverError hdevice hfetch houtstanding hstep
  | store index write documentID =>
      simp only [step, Option.bind_eq_bind, Option.bind_eq_some_iff] at h
      obtain ⟨device, hdevice, added, hadded, mutation, hmutation, h⟩ := h
      split_ifs at h with hc
      cases h
      exact .store hdevice hadded hmutation hc.1 hc.2
  | completed index write =>
      simp only [step, Option.bind_eq_bind, Option.bind_eq_some_iff] at h
      obtain ⟨device, hdevice, mutation, hmutation, h⟩ := h
      split at h
      · rename_i documentID hstage
        split_ifs at h with hauthor
        obtain ⟨app, hstep, h⟩ := Option.bind_eq_some_iff.mp h
        cases h
        exact .completed hdevice hmutation hstage hauthor hstep
      · cases h
  | failed index write err =>
      simp only [step, Option.bind_eq_bind, Option.bind_eq_some_iff] at h
      obtain ⟨device, hdevice, mutation, hmutation, h⟩ := h
      split_ifs at h with hc
      obtain ⟨app, hstep, h⟩ := Option.bind_eq_some_iff.mp h
      cases h
      exact .failed hdevice hmutation hc.1 hc.2 hstep
  | setStatus documentID status =>
      cases h
      exact .setStatus documentID status

end AppPrepanet.Servidor
