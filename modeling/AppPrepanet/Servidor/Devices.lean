import AppPrepanet.Named
import AppPrepanet.Navigation.Provenance
import AppPrepanet.Positions
import AppPrepanet.Servidor

namespace AppPrepanet.Servidor

open Firestore Function Inscripciones Named Positions ViewControllerWorkshop

-- What a detail screen has handed to `addDocument`, which screen it was and who was signed in.
structure Sent where
  screen : ℕ × ℕ
  data : Fields
  author : Option String
  stage : Stage
deriving DecidableEq

def Device.screens (device : Device) : List Screen :=
  List.zipWith (fun shown fetch => ⟨shown.view, fetch⟩) device.app.nav.details device.fetches

def Device.sent (index : ℕ) (device : Device) : List Sent :=
  List.zipWith (fun added mutation =>
    ⟨(index, added.detail), added.data, mutation.author, mutation.stage⟩)
      device.app.nav.added device.mutations

namespace State

-- Screens and documents are named by their device and by their position there.
def find {α : Type*} (rows : ℕ → Device → List α) (state : State) : ℕ × ℕ → Option α :=
  cell (state.devices.mapIdx rows)

def screenAt (state : State) : ℕ × ℕ → Option Screen := state.find fun _ => Device.screens

def sentAt (state : State) : ℕ × ℕ → Option Sent := state.find Device.sent

-- All that has been sent, wherever it is now.
def outbox (state : State) : List Sent := (state.devices.mapIdx Device.sent).flatten

end State

-- Its callback is still to come.
def onItsWay : Stage → Bool
  | .pending | .stored _ => true
  | .finished => false

-- The device runs the app, and the two sides agree on what has been answered.
structure Linked (device : Device) : Prop where
  reachable : ∃ events, Transition.run App.step App.start events = some device.app
  fetches : device.app.nav.details.map (!·.fetched) = device.fetches.map Fetch.outstanding
  mutations : device.app.nav.added.map (!·.answered) =
    device.mutations.map fun mutation => onItsWay mutation.stage

section Find

variable {α : Type*} {rows : ℕ → Device → List α} {state : State} {index position : ℕ}
  {device after : Device} {old new : α}

theorem row_of_device (hdevice : state.devices[index]? = some device) :
    (state.devices.mapIdx rows)[index]? = some (rows index device) := by
  rw [List.getElem?_mapIdx, hdevice, Option.map_some]

theorem find_of_device (hdevice : state.devices[index]? = some device) :
    state.find rows (index, position) = (rows index device)[position]? :=
  cell_of_row (row_of_device hdevice)

theorem find_setDevice_of_eq (hdevice : state.devices[index]? = some device)
    (hrows : rows index after = rows index device) :
    (state.setDevice index after).find rows = state.find rows := by
  have hrow : (state.devices.mapIdx rows)[index]? = some (rows index device) :=
    row_of_device hdevice
  obtain ⟨hlt, hget⟩ := List.getElem?_eq_some_iff.mp hrow
  rw [State.find, State.setDevice, List.mapIdx_set, hrows, ← hget, List.set_getElem_self]
  rfl

theorem find_setDevice_of_set (hdevice : state.devices[index]? = some device)
    (hold : (rows index device)[position]? = some old)
    (hrows : rows index after = (rows index device).set position new) :
    (state.setDevice index after).find rows =
      update (state.find rows) (index, position) (some new) := by
  rw [State.find, State.setDevice, List.mapIdx_set, hrows, cell_set (row_of_device hdevice) hold]
  rfl

theorem find_setDevice_of_concat (hdevice : state.devices[index]? = some device)
    (hrows : rows index after = rows index device ++ [new]) :
    (state.setDevice index after).find rows =
      update (state.find rows) (index, (rows index device).length) (some new) := by
  rw [State.find, State.setDevice, List.mapIdx_set, hrows, cell_concat (row_of_device hdevice)]
  rfl

theorem find_length (hdevice : state.devices[index]? = some device) :
    state.find rows (index, (rows index device).length) = none := by
  rw [find_of_device hdevice, List.getElem?_eq_none (Nat.le_refl _)]

theorem find_eq_some_iff : state.find rows (index, position) = some old ↔
    ∃ device, state.devices[index]? = some device ∧ (rows index device)[position]? = some old := by
  rw [State.find, cell_eq_some_iff]
  simp [List.getElem?_mapIdx]

theorem mem_outbox_iff {sent : Sent} :
    sent ∈ state.outbox ↔ ∃ name, state.sentAt name = some sent :=
  mem_flatten_iff

theorem find_start {count : ℕ} {collection : List Document}
    (hrows : ∀ index, rows index Device.start = []) (name : ℕ × ℕ) :
    (start count collection).find rows name = none := by
  rw [Option.eq_none_iff_forall_ne_some]
  intro item hitem
  obtain ⟨device, hdevice, hitem⟩ := find_eq_some_iff.mp hitem
  rw [(List.mem_replicate.mp (List.mem_of_getElem? hdevice)).2, hrows] at hitem
  cases hitem

end Find

-- These have something to do with the server.
def isRequest : App.Event → Bool
  | .nav (.openDetail _) | .nav .enrollBt => true
  | _ => false

-- What happens on a device and does not come from the server: a screen is opened, or its button
-- is tapped, or nothing that matters here.
inductive Requested (device : Device) : App.Event → Device → Prop
  | quiet {event : App.Event} {after : Device} (hevent : isRequest event = false)
      (hscreens : after.screens = device.screens)
      (hsent : ∀ index, after.sent index = device.sent index) : Requested device event after
  | openDetail {row : ℕ} {after : Device} (workshop : Workshop) (user : User)
      (hscreens : after.screens =
        device.screens ++ [⟨(storyboard workshop user).viewDidLoad, .issued⟩])
      (hsent : ∀ index, after.sent index = device.sent index) :
      Requested device (.nav (.openDetail row)) after
  | enrollBt {detail : ℕ} {screen : Screen} {after : Device}
      (hopen : device.app.nav.openDetail = some detail)
      (hscreen : device.screens[detail]? = some screen)
      (hbutton : screen.view.btInscripcion.sendsAction = true)
      (hscreens : after.screens =
        device.screens.set detail { screen with view := screen.view.enrollBt })
      (hsent : ∀ index, after.sent index =
        device.sent index ++
          [⟨(index, detail), screen.view.enrollData, device.currentUser, .pending⟩]) :
      Requested device (.nav .enrollBt) after

section Device

variable {device : Device} {app : App.State} {event : App.Event}

theorem Linked.length_fetches (h : Linked device) :
    device.app.nav.details.length = device.fetches.length := by
  simpa using congrArg List.length h.fetches

theorem Linked.length_mutations (h : Linked device) :
    device.app.nav.added.length = device.mutations.length := by
  simpa using congrArg List.length h.mutations

theorem screens_eq_some_iff {detail : ℕ} {screen : Screen} :
    device.screens[detail]? = some screen ↔ ∃ shown, device.app.nav.details[detail]? = some shown ∧
      shown.view = screen.view ∧ device.fetches[detail]? = some screen.fetch := by
  rw [Device.screens, List.getElem?_zipWith_eq_some]
  constructor
  · rintro ⟨shown, fetch, hshown, hfetch, rfl⟩
    exact ⟨shown, hshown, rfl, hfetch⟩
  · rintro ⟨shown, hshown, hview, hfetch⟩
    exact ⟨shown, screen.fetch, hshown, hfetch, by rw [hview]⟩

theorem sent_eq_some_iff {index write : ℕ} {sent : Sent} :
    (device.sent index)[write]? = some sent ↔ ∃ added, device.app.nav.added[write]? = some added ∧
      device.mutations[write]? = some ⟨sent.author, sent.stage⟩ ∧
      sent.screen = (index, added.detail) ∧ sent.data = added.data := by
  rw [Device.sent, List.getElem?_zipWith_eq_some]
  constructor
  · rintro ⟨added, mutation, hadded, hmutation, rfl⟩
    exact ⟨added, hadded, hmutation, rfl, rfl⟩
  · rintro ⟨added, hadded, hmutation, hscreen, hdata⟩
    exact ⟨added, _, hadded, hmutation, by rw [← hscreen, ← hdata]⟩

-- What the device lays over an answer is part of what it has sent.
theorem own_eq (index : ℕ) (matricula : String) :
    device.own matricula = ((device.sent index).filter fun sent =>
      sent.author = device.currentUser ∧
        (⟨"", sent.data⟩ : Document).fieldIs "matricula" matricula = true).map fun sent =>
          (sent.data, sent.stage) := by
  rw [Device.own, Device.sent, ← List.map_uncurry_zip_eq_zipWith, List.filter_map, List.map_map]
  rfl

-- A screen of the app has a query.
theorem Linked.exists_screen (h : Linked device) {detail : ℕ} {shown : Navigation.Detail}
    (hshown : device.app.nav.details[detail]? = some shown) :
    ∃ fetch, device.fetches[detail]? = some fetch := by
  have hlt := (List.getElem?_eq_some_iff.mp hshown).1
  exact ⟨_, List.getElem?_eq_getElem (h.length_fetches ▸ hlt)⟩

-- What has been handed over was filled in on its screen.
theorem Linked.added_enrollData (h : Linked device) {write : ℕ} {added : Navigation.Write}
    (hadded : device.app.nav.added[write]? = some added) :
    ∃ shown, device.app.nav.details[added.detail]? = some shown ∧
      added.data = shown.view.enrollData := by
  obtain ⟨events, hrun⟩ := h.reachable
  obtain ⟨shown, hshown, _, hdata⟩ :=
    (Navigation.traced_run (App.nav_run hrun)).added added (List.mem_of_getElem? hadded)
  exact ⟨shown, hshown, hdata⟩

-- The app goes on as it does by itself.
theorem Linked.reachable_step (h : Linked device) (hstep : App.step device.app event = some app) :
    ∃ events, Transition.run App.step App.start events = some app := by
  obtain ⟨events, hrun⟩ := h.reachable
  exact ⟨events ++ [event], Transition.run_concat_eq_some.mpr ⟨device.app, hrun, hstep⟩⟩

-- What a request of the device does to what the server knows of it.
theorem Linked.request (h : Linked device) (hown : fromServer event = false)
    (hstep : App.step device.app event = some app) :
    Linked (device.request app event) ∧ Requested device event (device.request app event) := by
  have hreachable := h.reachable_step hstep
  cases App.Step.of_step hstep with
  | dir _ _ => exact ⟨⟨hreachable, h.fetches, h.mutations⟩, .quiet rfl rfl fun _ => rfl⟩
  | nav _ hnav =>
      cases Navigation.Step.of_step hnav with
      | login _ _ | openTalleres _ _ | list _ _ _ | backToList _ | backToHome _ _ =>
          exact ⟨⟨hreachable, h.fetches, h.mutations⟩, .quiet rfl rfl fun _ => rfl⟩
      | fetchAnswer _ _ _ | completion _ _ _ => cases hown
      | @openDetail index row list object user _ _ _ _ _ =>
          refine ⟨⟨hreachable, ?_, h.mutations⟩, .openDetail object.workshop user ?_ fun _ => rfl⟩
          · simp [Device.request, Navigation.State.addDetail, h.fetches, Fetch.outstanding]
          · exact zipWith_concat h.length_fetches
      | @enrollBt detail shown hopen hdetail hbutton =>
          obtain ⟨fetch, hfetch⟩ := h.exists_screen hdetail
          have hscreen : device.screens[detail]? = some ⟨shown.view, fetch⟩ :=
            screens_eq_some_iff.mpr ⟨shown, hdetail, rfl, hfetch⟩
          refine ⟨⟨hreachable, ?_, ?_⟩, .enrollBt hopen hscreen hbutton ?_ fun index => ?_⟩
          · exact (map_set_of_eq hdetail (by rfl)).trans h.fetches
          · simp [Device.request, Navigation.State.setDetail, Navigation.State.addWrite,
              h.mutations, onItsWay]
          · exact zipWith_set_left hfetch
          · exact zipWith_concat h.length_mutations

-- An answer to a query goes to its screen.
theorem Linked.answer (h : Linked device) {detail : ℕ} {result : QueryResult} {fetch : Fetch}
    (hanswered : fetch.outstanding = false)
    (hstep : App.step device.app (.nav (.fetchAnswer detail result)) = some app) :
    Linked (device.setFetch detail fetch app) ∧ ∃ screen view,
      device.screens[detail]? = some screen ∧
      screen.view.getEnrollmentStatus result = some view ∧
      (device.setFetch detail fetch app).screens = device.screens.set detail ⟨view, fetch⟩ ∧
      ∀ index, (device.setFetch detail fetch app).sent index = device.sent index := by
  have hreachable := h.reachable_step hstep
  cases App.Step.of_step hstep with
  | nav _ hnav =>
      cases Navigation.Step.of_step hnav with
      | @fetchAnswer _ _ shown view hdetail _ hview =>
          obtain ⟨before, hbefore⟩ := h.exists_screen hdetail
          refine ⟨⟨hreachable, ?_, h.mutations⟩, ⟨shown.view, before⟩, view,
            screens_eq_some_iff.mpr ⟨shown, hdetail, rfl, hbefore⟩, hview, ?_, fun _ => rfl⟩
          · simp [Device.setFetch, Navigation.State.setDetail, List.map_set, h.fetches, hanswered]
          · exact zipWith_set_set

-- The callback of `addDocument` runs on the screen that handed it the document.
theorem Linked.callback (h : Linked device) {write : ℕ} {mutation : Mutation}
    {err : Option String} (hmutation : device.mutations[write]? = some mutation)
    (hstep : App.step device.app (.nav (.completion write err)) = some app) :
    let after := device.setMutation write { mutation with stage := .finished } app
    Linked after ∧ ∃ detail screen, device.screens[detail]? = some screen ∧
      (∀ index sent, (device.sent index)[write]? = some sent → sent.screen = (index, detail)) ∧
      after.screens = device.screens.set detail
        { screen with view := screen.view.enrollStudentCompletion err } ∧
      ∀ index sent, (device.sent index)[write]? = some sent →
        after.sent index = (device.sent index).set write { sent with stage := .finished } := by
  have hreachable := h.reachable_step hstep
  cases App.Step.of_step hstep with
  | nav _ hnav =>
      cases Navigation.Step.of_step hnav with
      | @completion _ _ added shown hadded hdetail _ =>
          obtain ⟨fetch, hfetch⟩ := h.exists_screen hdetail
          refine ⟨⟨hreachable, ?_, ?_⟩, added.detail, ⟨shown.view, fetch⟩,
            screens_eq_some_iff.mpr ⟨shown, hdetail, rfl, hfetch⟩, ?_, ?_, ?_⟩
          · exact (map_set_of_eq hdetail (by rfl)).trans h.fetches
          · simp [Device.setMutation, Navigation.State.setDetail, Navigation.State.setWrite,
              List.map_set, h.mutations, onItsWay]
          · intro index sent hsent
            obtain ⟨found, hfound, _, hscreen, _⟩ := sent_eq_some_iff.mp hsent
            cases Option.some.inj (hadded.symm.trans hfound)
            exact hscreen
          · exact zipWith_set_left hfetch
          · intro index sent hsent
            obtain ⟨found, hfound, hsame, hscreen, hdata⟩ := sent_eq_some_iff.mp hsent
            cases Option.some.inj (hadded.symm.trans hfound)
            cases Option.some.inj (hmutation.symm.trans hsame)
            rw [hscreen, hdata]
            exact zipWith_set_set

-- The server by itself takes the snapshot for a query or stores a document.
theorem Linked.read (h : Linked device) {detail : ℕ}
    (hfetch : device.fetches[detail]? = some .issued) (documents : List Document) :
    Linked (device.setFetch detail (.read documents) device.app) :=
  ⟨h.reachable, h.fetches.trans (map_set_of_eq hfetch (by rfl)).symm, h.mutations⟩

theorem screens_setFetch {detail : ℕ} {shown : Navigation.Detail}
    (hshown : device.app.nav.details[detail]? = some shown) (fetch : Fetch) :
    (device.setFetch detail fetch device.app).screens =
      device.screens.set detail ⟨shown.view, fetch⟩ :=
  zipWith_set_right hshown

theorem Linked.stored (h : Linked device) {write : ℕ} {mutation : Mutation}
    (hmutation : device.mutations[write]? = some mutation) (hstage : mutation.stage = .pending)
    (documentID : String) :
    Linked (device.setMutation write { mutation with stage := .stored documentID } device.app) :=
  ⟨h.reachable, h.fetches,
    h.mutations.trans (map_set_of_eq hmutation (by simp [hstage, onItsWay])).symm⟩

theorem sent_setMutation {write : ℕ} {added : Navigation.Write}
    (hadded : device.app.nav.added[write]? = some added) (index : ℕ) (mutation : Mutation) :
    (device.setMutation write mutation device.app).sent index = (device.sent index).set write
      ⟨(index, added.detail), added.data, mutation.author, mutation.stage⟩ :=
  zipWith_set_right hadded

end Device

section Step

variable {state next : State} {event : Event}

theorem linked_setDevice {index : ℕ} {after : Device}
    (h : ∀ device ∈ state.devices, Linked device) (hafter : Linked after) :
    ∀ device ∈ (state.setDevice index after).devices, Linked device :=
  forall_mem_set h hafter

theorem linked_step (h : ∀ device ∈ state.devices, Linked device) (hstep : Step state event next) :
    ∀ device ∈ next.devices, Linked device := by
  cases hstep with
  | app hdevice hown happ =>
      exact linked_setDevice h ((h _ (List.mem_of_getElem? hdevice)).request hown happ).1
  | read hdevice _ hfetch _ =>
      exact linked_setDevice h ((h _ (List.mem_of_getElem? hdevice)).read hfetch _)
  | deliver hdevice _ happ | deliverError hdevice _ _ happ =>
      exact linked_setDevice h ((h _ (List.mem_of_getElem? hdevice)).answer rfl happ).1
  | store hdevice _ hmutation hstage _ =>
      exact linked_setDevice h ((h _ (List.mem_of_getElem? hdevice)).stored hmutation hstage _)
  | completed hdevice hmutation _ _ happ | failed hdevice hmutation _ _ happ =>
      exact linked_setDevice h ((h _ (List.mem_of_getElem? hdevice)).callback hmutation happ).1
  | setStatus _ _ => exact h

end Step

theorem linked_start (count : ℕ) (collection : List Document) :
    ∀ device ∈ (start count collection).devices, Linked device := by
  intro device hdevice
  rw [(List.mem_replicate.mp hdevice).2]
  exact ⟨⟨[], rfl⟩, rfl, rfl⟩

theorem linked_run {count : ℕ} {collection : List Document} {events : List Event} {final : State}
    (hrun : Transition.run step (start count collection) events = some final) :
    ∀ device ∈ final.devices, Linked device := by
  have hinv : ∀ state event next, (∀ device ∈ state.devices, Linked device) →
      step state event = some next → ∀ device ∈ next.devices, Linked device :=
    fun _ _ _ h hstep => linked_step h (Step.of_step hstep)
  exact Transition.run_invariant hinv (linked_start count collection) hrun

end AppPrepanet.Servidor
