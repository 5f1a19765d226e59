import AppPrepanet.Servidor.Devices

namespace AppPrepanet.Servidor

open Firestore Function Inscripciones Named ViewControllerWorkshop

-- Everything a step does to the screens, to what they have sent and to the collection, with
-- its guards. Later proofs split on this relation and do not look into the devices.
inductive Effect (state next : State) : Event → Prop
  | quiet {index : ℕ} {event : App.Event} (hevent : isRequest event = false)
      (hscreens : next.screenAt = state.screenAt) (hsent : next.sentAt = state.sentAt)
      (hcollection : next.collection = state.collection) : Effect state next (.app index event)
  | openDetail {index row : ℕ} {name : ℕ × ℕ} (workshop : Workshop) (user : User)
      (hnone : state.screenAt name = none)
      (hscreens : next.screenAt = update state.screenAt name
        (some ⟨(storyboard workshop user).viewDidLoad, .issued⟩))
      (hsent : next.sentAt = state.sentAt) (hcollection : next.collection = state.collection) :
      Effect state next (.app index (.nav (.openDetail row)))
  | read {index detail : ℕ} {documents : List Document} {device : Device} {screen : Screen}
      (hdevice : state.devices[index]? = some device)
      (hscreen : state.screenAt (index, detail) = some screen) (hfetch : screen.fetch = .issued)
      (hdocuments : documents.Perm (state.view device screen.view.user))
      (hscreens : next.screenAt = update state.screenAt (index, detail)
        (some { screen with fetch := .read documents }))
      (hsent : next.sentAt = state.sentAt) (hcollection : next.collection = state.collection) :
      Effect state next (.read index detail documents)
  | deliver {index detail : ℕ} {documents : List Document} {screen : Screen}
      {view : ViewControllerWorkshop} (hscreen : state.screenAt (index, detail) = some screen)
      (hfetch : screen.fetch = .read documents)
      (hview : screen.view.getEnrollmentStatus (.ok documents) = some view)
      (hscreens : next.screenAt = update state.screenAt (index, detail)
        (some ⟨view, .delivered documents⟩))
      (hsent : next.sentAt = state.sentAt) (hcollection : next.collection = state.collection) :
      Effect state next (.deliver index detail)
  | deliverError {index detail : ℕ} {err : String} {screen : Screen}
      (hscreen : state.screenAt (index, detail) = some screen)
      (houtstanding : screen.fetch.outstanding = true)
      (hscreens : next.screenAt = update state.screenAt (index, detail)
        (some { screen with fetch := .failed }))
      (hsent : next.sentAt = state.sentAt) (hcollection : next.collection = state.collection) :
      Effect state next (.deliverError index detail err)
  | enrollBt {index detail : ℕ} {name : ℕ × ℕ} {device : Device} {screen : Screen}
      (hdevice : state.devices[index]? = some device)
      (hopen : device.app.nav.openDetail = some detail)
      (hscreen : state.screenAt (index, detail) = some screen)
      (hbutton : screen.view.btInscripcion.sendsAction = true)
      (hnone : state.sentAt name = none)
      (hscreens : next.screenAt = update state.screenAt (index, detail)
        (some { screen with view := screen.view.enrollBt }))
      (hsent : next.sentAt = update state.sentAt name
        (some ⟨(index, detail), screen.view.enrollData, device.currentUser, .pending⟩))
      (hcollection : next.collection = state.collection) :
      Effect state next (.app index (.nav .enrollBt))
  | store {index write : ℕ} {documentID : String} {sent : Sent}
      (hwrite : state.sentAt (index, write) = some sent) (hstage : sent.stage = .pending)
      (hfresh : documentID ∉ state.collection.map (·.documentID))
      (hscreens : next.screenAt = state.screenAt)
      (hsent : next.sentAt = update state.sentAt (index, write)
        (some { sent with stage := .stored documentID }))
      (hcollection : next.collection = state.collection ++ [⟨documentID, sent.data⟩]) :
      Effect state next (.store index write documentID)
  | completed {index write : ℕ} {documentID : String} {sent : Sent} {screen : Screen}
      (hwrite : state.sentAt (index, write) = some sent) (hstage : sent.stage = .stored documentID)
      (hscreen : state.screenAt sent.screen = some screen)
      (hscreens : next.screenAt = update state.screenAt sent.screen
        (some { screen with view := screen.view.enrollStudentCompletion none }))
      (hsent : next.sentAt = update state.sentAt (index, write)
        (some { sent with stage := .finished }))
      (hcollection : next.collection = state.collection) :
      Effect state next (.completed index write)
  | failed {index write : ℕ} {err : String} {sent : Sent} {screen : Screen}
      (hwrite : state.sentAt (index, write) = some sent) (hstage : sent.stage = .pending)
      (hscreen : state.screenAt sent.screen = some screen)
      (hscreens : next.screenAt = update state.screenAt sent.screen
        (some { screen with view := screen.view.enrollStudentCompletion (some err) }))
      (hsent : next.sentAt = update state.sentAt (index, write)
        (some { sent with stage := .finished }))
      (hcollection : next.collection = state.collection) :
      Effect state next (.failed index write err)
  | setStatus (documentID status : String) (hscreens : next.screenAt = state.screenAt)
      (hsent : next.sentAt = state.sentAt)
      (hcollection : next.collection = state.collection.map (updateStatus documentID status)) :
      Effect state next (.setStatus documentID status)

section Effect

variable {state next : State} {event : Event} {index : ℕ} {device : Device}

theorem effect_request (hdevice : state.devices[index]? = some device) (hlinked : Linked device)
    {event : App.Event} {app : App.State} (hown : fromServer event = false)
    (hstep : App.step device.app event = some app) :
    Effect state (state.setDevice index (device.request app event)) (.app index event) := by
  cases (hlinked.request hown hstep).2 with
  | quiet hevent hscreens hsent =>
      exact .quiet hevent (find_setDevice_of_eq hdevice hscreens)
        (find_setDevice_of_eq hdevice (hsent index)) rfl
  | openDetail workshop user hscreens hsent =>
      have hnone : state.screenAt (index, device.screens.length) = none := find_length hdevice
      exact .openDetail workshop user hnone (find_setDevice_of_concat hdevice hscreens)
        (find_setDevice_of_eq hdevice (hsent index)) rfl
  | @enrollBt detail screen _ hopen hscreen hbutton hscreens hsent =>
      have hnone : state.sentAt (index, (device.sent index).length) = none := find_length hdevice
      have hfind : state.screenAt (index, detail) = some screen :=
        (find_of_device hdevice).trans hscreen
      exact .enrollBt hdevice hopen hfind hbutton hnone
        (find_setDevice_of_set hdevice hscreen hscreens)
        (find_setDevice_of_concat hdevice (hsent index)) rfl

theorem sentAt_of_mutation (hdevice : state.devices[index]? = some device) {write : ℕ}
    {added : Navigation.Write} {mutation : Mutation}
    (hadded : device.app.nav.added[write]? = some added)
    (hmutation : device.mutations[write]? = some mutation) :
    let sent : Sent := ⟨(index, added.detail), added.data, mutation.author, mutation.stage⟩
    (device.sent index)[write]? = some sent ∧ state.sentAt (index, write) = some sent := by
  intro sent
  have hsent : (device.sent index)[write]? = some sent :=
    sent_eq_some_iff.mpr ⟨added, hadded, hmutation, rfl, rfl⟩
  exact ⟨hsent, (find_of_device hdevice).trans hsent⟩

-- A document that the server knows of is one that the app has handed over.
theorem Linked.exists_added (h : Linked device) {write : ℕ} {mutation : Mutation}
    (hmutation : device.mutations[write]? = some mutation) :
    ∃ added, device.app.nav.added[write]? = some added := by
  have hlt := (List.getElem?_eq_some_iff.mp hmutation).1
  exact ⟨_, List.getElem?_eq_getElem (h.length_mutations ▸ hlt)⟩

-- What the callback of `addDocument` does, whatever it says.
theorem effect_callback (hdevice : state.devices[index]? = some device) (hlinked : Linked device)
    {write : ℕ} {mutation : Mutation} {err : Option String} {app : App.State}
    (hmutation : device.mutations[write]? = some mutation)
    (hstep : App.step device.app (.nav (.completion write err)) = some app) :
    let after := device.setMutation write { mutation with stage := .finished } app
    ∃ sent screen, state.sentAt (index, write) = some sent ∧ sent.stage = mutation.stage ∧
      state.screenAt sent.screen = some screen ∧
      (state.setDevice index after).screenAt = update state.screenAt sent.screen
        (some { screen with view := screen.view.enrollStudentCompletion err }) ∧
      (state.setDevice index after).sentAt =
        update state.sentAt (index, write) (some { sent with stage := .finished }) := by
  obtain ⟨added, hadded⟩ := hlinked.exists_added hmutation
  obtain ⟨hsent, hwrite⟩ := sentAt_of_mutation hdevice hadded hmutation
  obtain ⟨_, detail, screen, hscreen, hnames, hscreens, hrows⟩ := hlinked.callback hmutation hstep
  have hname : (index, added.detail) = (index, detail) := hnames index _ hsent
  refine ⟨_, screen, hwrite, rfl, ?_, ?_,
    find_setDevice_of_set hdevice hsent (hrows index _ hsent)⟩
  · rw [hname]
    exact (find_of_device hdevice).trans hscreen
  · rw [hname]
    exact find_setDevice_of_set hdevice hscreen hscreens

theorem effect_of_step (hlinked : ∀ device ∈ state.devices, Linked device)
    (hstep : Step state event next) : Effect state next event := by
  cases hstep with
  | app hdevice hown happ =>
      exact effect_request hdevice (hlinked _ (List.mem_of_getElem? hdevice)) hown happ
  | @read index detail documents device shown hdevice hshown hfetch hdocuments =>
      have hscreen : device.screens[detail]? = some ⟨shown.view, .issued⟩ :=
        screens_eq_some_iff.mpr ⟨shown, hshown, rfl, hfetch⟩
      have hfind : state.screenAt (index, detail) = some ⟨shown.view, .issued⟩ :=
        (find_of_device hdevice).trans hscreen
      have hscreens := screens_setFetch hshown (.read documents)
      exact .read hdevice hfind rfl hdocuments (find_setDevice_of_set hdevice hscreen hscreens)
        (find_setDevice_of_eq hdevice rfl) rfl
  | @deliver index detail documents device app hdevice hfetch happ =>
      have hdelivered : (Fetch.delivered documents).outstanding = false := rfl
      obtain ⟨_, screen, view, hscreen, hview, hscreens, hsent⟩ :=
        (hlinked _ (List.mem_of_getElem? hdevice)).answer hdelivered happ
      obtain ⟨_, _, _, hread⟩ := screens_eq_some_iff.mp hscreen
      exact .deliver ((find_of_device hdevice).trans hscreen)
        (Option.some.inj (hread.symm.trans hfetch)) hview
        (find_setDevice_of_set hdevice hscreen hscreens)
        (find_setDevice_of_eq hdevice (hsent index)) rfl
  | @deliverError index detail err device fetch app hdevice hfetch houtstanding happ =>
      have hfailed : Fetch.failed.outstanding = false := rfl
      obtain ⟨_, screen, view, hscreen, hview, hscreens, hsent⟩ :=
        (hlinked _ (List.mem_of_getElem? hdevice)).answer hfailed happ
      obtain ⟨_, _, _, hread⟩ := screens_eq_some_iff.mp hscreen
      cases Option.some.inj (hread.symm.trans hfetch)
      cases hview
      exact .deliverError ((find_of_device hdevice).trans hscreen) houtstanding
        (find_setDevice_of_set hdevice hscreen hscreens)
        (find_setDevice_of_eq hdevice (hsent index)) rfl
  | @store index write documentID device added mutation hdevice hadded hmutation hstage hfresh =>
      obtain ⟨hsent, hfind⟩ := sentAt_of_mutation hdevice hadded hmutation
      have hrows := sent_setMutation hadded index { mutation with stage := .stored documentID }
      exact .store hfind hstage hfresh (find_setDevice_of_eq hdevice rfl)
        (find_setDevice_of_set hdevice hsent hrows) rfl
  | completed hdevice hmutation hstage hauthor happ =>
      obtain ⟨sent, screen, hwrite, hsame, hscreen, hscreens, hsent⟩ :=
        effect_callback hdevice (hlinked _ (List.mem_of_getElem? hdevice)) hmutation happ
      exact .completed hwrite (hsame.trans hstage) hscreen hscreens hsent rfl
  | failed hdevice hmutation hstage hauthor happ =>
      obtain ⟨sent, screen, hwrite, hsame, hscreen, hscreens, hsent⟩ :=
        effect_callback hdevice (hlinked _ (List.mem_of_getElem? hdevice)) hmutation happ
      exact .failed hwrite (hsame.trans hstage) hscreen hscreens hsent rfl
  | setStatus documentID status => exact .setStatus documentID status rfl rfl rfl

end Effect

end AppPrepanet.Servidor
