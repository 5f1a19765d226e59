import AppPrepanet.Servidor.Alone
import AppPrepanet.ViewControllerWorkshop.Documents
import Mathlib.Data.Fintype.EquivFin

namespace AppPrepanet.Servidor

open Firestore Inscripciones Positions ViewControllerWorkshop

-- What comes by itself: the server takes a snapshot, hands it over, stores a document that the
-- signed-in user of a device has handed over, or says that it has.
def Arrival (state : State) : Event → Prop
  | .read _ _ _ | .deliver _ _ | .completed _ _ => True
  | .store index write _ => ∀ device ∈ state.devices[index]?,
      ∀ mutation ∈ device.mutations[write]?, mutation.author = device.currentUser
  | .app _ _ | .deliverError _ _ _ | .failed _ _ _ | .setStatus _ _ => False

-- How many arrivals are still to come. What somebody else has handed over has to wait.
def fetchLoad : Fetch → ℕ
  | .issued => 2
  | .read _ => 1
  | .delivered _ | .failed => 0

def mutationLoad (user : Option String) (mutation : Mutation) : ℕ :=
  if mutation.author = user then mutation.stage.left else 0

def Device.load (device : Device) : ℕ :=
  (device.fetches.map fetchLoad).sum + (device.mutations.map (mutationLoad device.currentUser)).sum

def State.load (state : State) : ℕ := (state.devices.map Device.load).sum

-- The users who are signed in on the devices.
def State.users (state : State) : List (Option String) := state.devices.map Device.currentUser

def Legible (document : Document) : Prop :=
  ∃ inscripcion, inscripcionOf document = some inscripcion

-- All that is stored, or has been read and not yet delivered, can be read.
structure Ready (state : State) : Prop where
  linked : ∀ device ∈ state.devices, Linked device
  collection : ∀ document ∈ state.collection, Legible document
  fetches : ∀ device ∈ state.devices, ∀ fetch ∈ device.fetches, ∀ documents,
    fetch = .read documents → ∀ document ∈ documents, Legible document

section Ready

variable {state next : State} {event : Event}

theorem Legible.updateStatus {document : Document} (h : Legible document)
    (documentID status : String) : Legible (updateStatus documentID status document) := by
  obtain ⟨inscripcion, hi⟩ := h
  unfold Inscripciones.updateStatus
  split_ifs
  · exact ⟨_, inscripcionOf_setStatus hi status⟩
  · exact ⟨inscripcion, hi⟩

-- A device issues queries and does not answer them.
theorem fetches_request {P : Fetch → Prop} {device : Device} (h : ∀ fetch ∈ device.fetches, P fetch)
    (hissued : P .issued) (app : App.State) (event : App.Event) :
    ∀ fetch ∈ (device.request app event).fetches, P fetch := by
  unfold Device.request
  split
  · exact forall_mem_concat h hissued
  · exact h
  · exact h

-- What a device lays over an answer has been filled in on its screens.
theorem Linked.own_legible {device : Device} (h : Linked device) {matricula : String}
    {write : Fields × Inscripciones.Stage} (hw : write ∈ device.own matricula)
    (documentID : String) : Legible ⟨documentID, write.1⟩ := by
  obtain ⟨entry, hentry, rfl⟩ := List.mem_map.mp hw
  have hadded := (List.of_mem_zip (List.mem_filter.mp hentry).1).1
  obtain ⟨position, hposition⟩ := List.getElem?_of_mem hadded
  obtain ⟨shown, _, hdata⟩ := h.added_enrollData hposition
  exact ⟨_, hdata ▸ shown.view.inscripcionOf_enrollData documentID⟩

theorem Ready.view (h : Ready state) {device : Device} (hdevice : device ∈ state.devices)
    {user : User} {document : Document} (hd : document ∈ state.view device user) :
    Legible document := by
  rcases mem_localView hd with hstored | ⟨write, hw, _, hdata⟩
  · exact h.collection document (List.mem_filter.mp hstored).1
  · obtain ⟨documentID, data⟩ := document
    have hsame : data = write.1 := hdata
    exact hsame ▸ (h.linked device hdevice).own_legible hw documentID

theorem Ready.step (h : Ready state) (hstep : Step state event next) : Ready next := by
  have hlinked := linked_step h.linked hstep
  cases hstep with
  | @app index event device app hdevice hown happ =>
      refine ⟨hlinked, h.collection, forall_mem_set h.fetches ?_⟩
      exact fetches_request (h.fetches device (List.mem_of_getElem? hdevice)) (by simp) app event
  | @read index detail documents device shown hdevice hshown hfetch hdocuments =>
      refine ⟨hlinked, h.collection, forall_mem_set h.fetches ?_⟩
      refine forall_mem_set (h.fetches device (List.mem_of_getElem? hdevice)) ?_
      rintro found ⟨⟩ document hd
      exact h.view (List.mem_of_getElem? hdevice) (hdocuments.mem_iff.mp hd)
  | @deliver index detail documents device app hdevice hfetch happ =>
      refine ⟨hlinked, h.collection, forall_mem_set h.fetches ?_⟩
      exact forall_mem_set (h.fetches device (List.mem_of_getElem? hdevice)) (by simp)
  | @deliverError index detail err device fetch app hdevice hfetch houtstanding happ =>
      refine ⟨hlinked, h.collection, forall_mem_set h.fetches ?_⟩
      exact forall_mem_set (h.fetches device (List.mem_of_getElem? hdevice)) (by simp)
  | @store index write documentID device added mutation hdevice hadded hmutation hstage hfresh =>
      have hmem := List.mem_of_getElem? hdevice
      refine ⟨hlinked, forall_mem_concat h.collection ?_,
        forall_mem_set h.fetches (h.fetches device hmem)⟩
      obtain ⟨shown, _, hdata⟩ := (h.linked device hmem).added_enrollData hadded
      exact ⟨_, hdata ▸ shown.view.inscripcionOf_enrollData documentID⟩
  | completed hdevice _ _ _ happ | failed hdevice _ _ _ happ =>
      have hold := h.fetches _ (List.mem_of_getElem? hdevice)
      exact ⟨hlinked, h.collection, forall_mem_set h.fetches hold⟩
  | setStatus documentID status =>
      refine ⟨hlinked, fun document hd => ?_, h.fetches⟩
      obtain ⟨before, hbefore, rfl⟩ := List.mem_map.mp hd
      exact (h.collection before hbefore).updateStatus documentID status

theorem ready_run {count : ℕ} {collection : List Document} {events : List Event}
    (hcollection : ∀ document ∈ collection, Legible document)
    (hrun : Transition.run Servidor.step (start count collection) events = some state) :
    Ready state := by
  have hstart : Ready (start count collection) := by
    refine ⟨linked_start count collection, hcollection, fun device hdevice fetch hfetch => ?_⟩
    rw [(List.mem_replicate.mp hdevice).2] at hfetch
    cases hfetch
  exact Transition.run_invariant (fun _ _ _ h hstep => Ready.step h (Step.of_step hstep)) hstart
    hrun

end Ready

section Users

variable {state next : State} {event : Event}

-- Answers from the server do not touch the login screen.
theorem login_of_fromServer {app after : App.State} {event : App.Event}
    (hserver : fromServer event = true) (hstep : App.step app event = some after) :
    after.nav.login = app.nav.login := by
  cases App.Step.of_step hstep with
  | dir _ _ => rfl
  | nav _ hnav =>
      cases Navigation.Step.of_step hnav with
      | fetchAnswer _ _ _ | completion _ _ _ => rfl
      | login _ _ | openTalleres _ _ | list _ _ _ | openDetail _ _ _ _ _ | enrollBt _ _ _
      | backToList _ | backToHome _ _ => cases hserver

theorem users_of_arrival (harrival : Arrival state event) (hstep : Step state event next) :
    next.users = state.users := by
  cases hstep with
  | read hdevice _ _ _ => exact map_set_of_eq hdevice rfl
  | store hdevice _ _ _ _ => exact map_set_of_eq hdevice rfl
  | deliver hdevice _ happ =>
      exact map_set_of_eq hdevice (congrArg (·.currentUser) (login_of_fromServer rfl happ))
  | completed hdevice _ _ _ happ =>
      exact map_set_of_eq hdevice (congrArg (·.currentUser) (login_of_fromServer rfl happ))
  | app _ _ _ | deliverError _ _ _ _ | failed _ _ _ _ _ | setStatus _ _ => cases harrival

end Users

section Load

variable {state : State} {index position : ℕ} {device after : Device} {app : App.State}

theorem load_setDevice (hdevice : state.devices[index]? = some device)
    (hlt : after.load < device.load) : (state.setDevice index after).load < state.load := by
  have hsum := sum_map_set after Device.load hdevice
  simp only [State.load, State.setDevice]
  omega

theorem load_setFetch {old new : Fetch} (hold : device.fetches[position]? = some old)
    (hlt : fetchLoad new < fetchLoad old) (hlogin : app.nav.login = device.app.nav.login) :
    (device.setFetch position new app).load < device.load := by
  have hsum := sum_map_set new fetchLoad hold
  simp only [Device.load, Device.setFetch, Device.currentUser, hlogin]
  omega

theorem load_setMutation {old new : Mutation} (hold : device.mutations[position]? = some old)
    (hlt : mutationLoad device.currentUser new < mutationLoad device.currentUser old)
    (hlogin : app.nav.login = device.app.nav.login) :
    (device.setMutation position new app).load < device.load := by
  have hsum := sum_map_set new (mutationLoad device.currentUser) hold
  simp only [Device.load, Device.setMutation, Device.currentUser, hlogin] at hlt hsum ⊢
  omega

end Load

section Arrival

variable {state : State} {index position : ℕ} {device : Device}

theorem Linked.getElem?_fetched (h : Linked device) {shown : Navigation.Detail} {fetch : Fetch}
    (hshown : device.app.nav.details[position]? = some shown)
    (hfetch : device.fetches[position]? = some fetch) : shown.fetched = !fetch.outstanding := by
  have hmap := congrArg (·[position]?) h.fetches
  have hnot : (!shown.fetched) = fetch.outstanding := by simpa [hshown, hfetch] using hmap
  rw [← hnot, Bool.not_not]

theorem Linked.getElem?_answered (h : Linked device) {added : Navigation.Write}
    {mutation : Mutation} (hadded : device.app.nav.added[position]? = some added)
    (hmutation : device.mutations[position]? = some mutation) :
    added.answered = !onItsWay mutation.stage := by
  have hmap := congrArg (·[position]?) h.mutations
  have hnot : (!added.answered) = onItsWay mutation.stage := by
    simpa [hadded, hmutation] using hmap
  rw [← hnot, Bool.not_not]

theorem Linked.exists_shown (h : Linked device) {fetch : Fetch}
    (hfetch : device.fetches[position]? = some fetch) :
    ∃ shown, device.app.nav.details[position]? = some shown := by
  have hlt := (List.getElem?_eq_some_iff.mp hfetch).1
  exact ⟨_, List.getElem?_eq_getElem (h.length_fetches ▸ hlt)⟩

theorem exists_fetchAnswer {shown : Navigation.Detail} {result : QueryResult}
    {view : ViewControllerWorkshop} (hshown : device.app.nav.details[position]? = some shown)
    (hfetched : shown.fetched = false)
    (hview : shown.view.getEnrollmentStatus result = some view) :
    ∃ app, App.step device.app (.nav (.fetchAnswer position result)) = some app := by
  refine ⟨{ device.app with
    nav := device.app.nav.setDetail position { shown with view := view, fetched := true } }, ?_⟩
  simp [App.step, App.needsHome, Navigation.step, hshown, hfetched, hview]

theorem exists_completion {added : Navigation.Write} {shown : Navigation.Detail}
    (hadded : device.app.nav.added[position]? = some added)
    (hshown : device.app.nav.details[added.detail]? = some shown)
    (hanswered : added.answered = false) (err : Option String) :
    ∃ app, App.step device.app (.nav (.completion position err)) = some app := by
  refine ⟨{ device.app with
    nav := (device.app.nav.setDetail added.detail
      { shown with view := shown.view.enrollStudentCompletion err }).setWrite position
        { added with answered := true } }, ?_⟩
  simp [App.step, App.needsHome, Navigation.step, hadded, hshown, hanswered]

-- A pending document can be stored under an identifier that is not in use.
theorem exists_store {added : Navigation.Write} {mutation : Mutation}
    (hdevice : state.devices[index]? = some device)
    (hadded : device.app.nav.added[position]? = some added)
    (hmutation : device.mutations[position]? = some mutation)
    (hstage : mutation.stage = .pending) :
    ∃ documentID, Servidor.step state (.store index position documentID) =
      some ((state.setDevice index (device.setMutation position
        { mutation with stage := .stored documentID } device.app)).addDocument
          ⟨documentID, added.data⟩) := by
  obtain ⟨documentID, hid⟩ :=
    Infinite.exists_notMem_finset (state.collection.map (·.documentID)).toFinset
  have hfresh : documentID ∉ state.collection.map (·.documentID) := by simpa using hid
  refine ⟨documentID, ?_⟩
  simp only [Servidor.step, hdevice, hadded, hmutation, Option.bind_eq_bind, Option.bind_some]
  exact if_pos ⟨hstage, hfresh⟩

-- One arrival, for each thing that is still to come.
theorem arrives_fetch (h : Ready state) (hdevice : state.devices[index]? = some device)
    {fetch : Fetch} (hfetch : device.fetches[position]? = some fetch) (hpos : 0 < fetchLoad fetch) :
    ∃ event next, Arrival state event ∧ Servidor.step state event = some next ∧
      next.load < state.load := by
  have hmem := List.mem_of_getElem? hdevice
  have hlinked := h.linked device hmem
  obtain ⟨shown, hshown⟩ := hlinked.exists_shown hfetch
  cases fetch with
  | issued =>
      let documents := state.view device shown.view.user
      refine ⟨.read index position documents,
        state.setDevice index (device.setFetch position (.read documents) device.app), trivial, ?_,
        load_setDevice hdevice (load_setFetch hfetch (by simp [fetchLoad]) rfl)⟩
      simp [Servidor.step, hdevice, hshown, hfetch, documents]
  | read documents =>
      have hlegible := h.fetches device hmem _ (List.mem_of_getElem? hfetch) documents rfl
      obtain ⟨inscripciones, hm⟩ := Loop.exists_mapM_eq_some hlegible
      have hview := shown.view.getEnrollmentStatus_ok.mpr ⟨inscripciones, hm, rfl⟩
      have hfetched : shown.fetched = false := hlinked.getElem?_fetched hshown hfetch
      obtain ⟨app, happ⟩ := exists_fetchAnswer hshown hfetched hview
      refine ⟨.deliver index position,
        state.setDevice index (device.setFetch position (.delivered documents) app), trivial, ?_,
        load_setDevice hdevice
          (load_setFetch hfetch (by simp [fetchLoad]) (login_of_fromServer rfl happ))⟩
      simp [Servidor.step, hdevice, hfetch, happ]
  | delivered _ | failed => cases hpos

theorem arrives_mutation (h : Ready state) (hdevice : state.devices[index]? = some device)
    {mutation : Mutation} (hmutation : device.mutations[position]? = some mutation)
    (hpos : 0 < mutationLoad device.currentUser mutation) :
    ∃ event next, Arrival state event ∧ Servidor.step state event = some next ∧
      next.load < state.load := by
  have hlinked := h.linked device (List.mem_of_getElem? hdevice)
  obtain ⟨added, hadded⟩ := hlinked.exists_added hmutation
  have hauthor : mutation.author = device.currentUser := by
    by_contra hother
    simp [mutationLoad, hother] at hpos
  rw [mutationLoad, if_pos hauthor] at hpos
  cases hstage : mutation.stage with
  | pending =>
      obtain ⟨documentID, hstore⟩ := exists_store hdevice hadded hmutation hstage
      refine ⟨_, _, ?_, hstore, load_setDevice hdevice (load_setMutation hmutation ?_ rfl)⟩
      · intro found hfound other hother
        cases Option.some.inj (hdevice.symm.trans hfound)
        cases Option.some.inj (hmutation.symm.trans hother)
        exact hauthor
      · simp [mutationLoad, hauthor, hstage, Stage.left]
  | stored documentID =>
      obtain ⟨shown, hshown, _⟩ := hlinked.added_enrollData hadded
      have hanswered : added.answered = false := by
        rw [hlinked.getElem?_answered hadded hmutation, hstage]
        rfl
      obtain ⟨app, happ⟩ := exists_completion hadded hshown hanswered none
      refine ⟨.completed index position, state.setDevice index
        (device.setMutation position { mutation with stage := .finished } app), trivial, ?_,
        load_setDevice hdevice
          (load_setMutation hmutation ?_ (login_of_fromServer rfl happ))⟩
      · simp only [Servidor.step, hdevice, hmutation, hstage, Option.bind_eq_bind,
          Option.bind_some]
        rw [if_pos hauthor, happ, Option.bind_some]
      · simp [mutationLoad, hauthor, hstage, Stage.left]
  | finished =>
      rw [hstage] at hpos
      cases hpos

theorem exists_arrival (h : Ready state) (hpos : 0 < state.load) :
    ∃ event next, Arrival state event ∧ Servidor.step state event = some next ∧
      next.load < state.load := by
  obtain ⟨index, device, hdevice, hload⟩ := exists_pos_of_sum_pos hpos
  have hsplit : 0 < (device.fetches.map fetchLoad).sum ∨
      0 < (device.mutations.map (mutationLoad device.currentUser)).sum := by
    unfold Device.load at hload
    omega
  rcases hsplit with hfetches | hmutations
  · obtain ⟨position, fetch, hfetch, hpos⟩ := exists_pos_of_sum_pos hfetches
    exact arrives_fetch h hdevice hfetch hpos
  · obtain ⟨position, mutation, hmutation, hpos⟩ := exists_pos_of_sum_pos hmutations
    exact arrives_mutation h hdevice hmutation hpos

end Arrival

-- What was still to be stored in `base` is still to be stored, or it has been.
def Carries (base state : State) : Prop :=
  ∀ name sent, base.sentAt name = some sent → sent.stage = .pending →
    ∃ later, state.sentAt name = some later ∧ later.data = sent.data ∧
      later.author = sent.author ∧
        (later.stage = .pending ∨ ∃ documentID, ⟨documentID, sent.data⟩ ∈ state.collection)

section Carries

variable {base state next : State} {event : Event}

theorem Carries.of_eq (h : Carries base state) (hsent : next.sentAt = state.sentAt)
    (hcollection : next.collection = state.collection) : Carries base next := by
  rw [Carries, hsent, hcollection]
  exact h

-- One of the documents goes on.
theorem Carries.update (h : Carries base state) {name : ℕ × ℕ} {old new : Sent}
    (hold : state.sentAt name = some old)
    (hsent : next.sentAt = Function.update state.sentAt name (some new))
    (hdata : new.data = old.data) (hauthor : new.author = old.author)
    (hnew : old.stage = .pending ∨ (∃ documentID, ⟨documentID, old.data⟩ ∈ state.collection) →
      new.stage = .pending ∨ ∃ documentID, ⟨documentID, old.data⟩ ∈ next.collection)
    (hgrows : ∀ document ∈ state.collection, document ∈ next.collection) :
    Carries base next := by
  intro other sent hbase hstage
  obtain ⟨later, hlater, hlaterData, hlaterAuthor, harrived⟩ := h other sent hbase hstage
  rw [hsent]
  by_cases heq : other = name
  · subst heq
    cases Option.some.inj (hold.symm.trans hlater)
    refine ⟨new, Function.update_self .., hdata.trans hlaterData, hauthor.trans hlaterAuthor, ?_⟩
    rw [← hlaterData] at harrived ⊢
    exact hnew harrived
  · refine ⟨later, (Function.update_of_ne heq ..).trans hlater, hlaterData, hlaterAuthor, ?_⟩
    exact harrived.imp_right fun ⟨documentID, hd⟩ => ⟨documentID, hgrows _ hd⟩

theorem Carries.step (h : Carries base state) (heffect : Effect state next event)
    (harrival : Arrival state event) : Carries base next := by
  cases heffect with
  | read _ _ _ _ _ hsent hcollection | deliver _ _ _ _ hsent hcollection =>
      exact h.of_eq hsent hcollection
  | @store index write documentID sent hwrite hstage hfresh hscreens hsent hcollection =>
      refine h.update hwrite hsent rfl rfl (fun _ => .inr ⟨documentID, ?_⟩) fun document hd => ?_
      · rw [hcollection]
        exact List.mem_append_right _ (List.mem_singleton_self _)
      · rw [hcollection]
        exact List.mem_append_left _ hd
  | @completed index write _ sent screen hwrite hstage hscreen hscreens hsent hcollection =>
      refine h.update hwrite hsent rfl rfl (fun harrived => .inr ?_) fun document hd =>
        hcollection ▸ hd
      rw [hcollection]
      exact harrived.resolve_left (by simp [hstage])
  | quiet _ _ _ _ | openDetail _ _ _ _ _ _ | deliverError _ _ _ _ _ | enrollBt _ _ _ _ _ _ _ _
  | failed _ _ _ _ _ _ | setStatus _ _ _ _ _ => cases harrival

end Carries

section Load

variable {state : State}

theorem fetchLoad_eq_zero_iff {fetch : Fetch} :
    fetchLoad fetch = 0 ↔ fetch.outstanding = false := by
  cases fetch <;> simp [fetchLoad, Fetch.outstanding]

theorem mutationLoad_eq_zero_iff {user : Option String} {mutation : Mutation} :
    mutationLoad user mutation = 0 ↔ (mutation.author = user → mutation.stage = .finished) := by
  unfold mutationLoad
  split_ifs with hauthor
  · cases hstage : mutation.stage <;> simp [Stage.left, hauthor]
  · simp [hauthor]

-- Every query has been answered, and of what the signed-in user has handed over every callback
-- has run.
def Settled (state : State) : Prop :=
  ∀ device ∈ state.devices, (∀ fetch ∈ device.fetches, fetch.outstanding = false) ∧
    ∀ mutation ∈ device.mutations, mutation.author = device.currentUser →
      mutation.stage = .finished

theorem load_eq_zero_iff : state.load = 0 ↔ Settled state := by
  simp only [Settled, State.load, Device.load, List.sum_eq_zero_iff_forall_eq_nat,
    List.forall_mem_map, Nat.add_eq_zero_iff, fetchLoad_eq_zero_iff, mutationLoad_eq_zero_iff]

-- The author of the document is signed in on the device that handed it over.
def Attended (state : State) (sent : Sent) : Prop :=
  state.users[sent.screen.1]? = some sent.author

instance (state : State) : DecidablePred (Attended state) := fun _ => by
  unfold Attended; infer_instance

theorem Settled.finished (h : Settled state) {name : ℕ × ℕ} {sent : Sent}
    (hsent : state.sentAt name = some sent) (hattended : state.users[name.1]? = some sent.author) :
    sent.stage = .finished := by
  obtain ⟨device, hdevice, hwrite⟩ := find_eq_some_iff.mp hsent
  obtain ⟨_, _, hmutation, _, _⟩ := sent_eq_some_iff.mp hwrite
  rw [State.users, List.getElem?_map, hdevice, Option.map_some] at hattended
  have hauthor := (Option.some.inj hattended).symm
  exact (h device (List.mem_of_getElem? hdevice)).2 _ (List.mem_of_getElem? hmutation) hauthor

theorem screen_of_sentAt {name : ℕ × ℕ} {sent : Sent} (hsent : state.sentAt name = some sent) :
    sent.screen.1 = name.1 := by
  obtain ⟨device, _, hwrite⟩ := find_eq_some_iff.mp hsent
  obtain ⟨_, _, _, hscreen, _⟩ := sent_eq_some_iff.mp hwrite
  rw [hscreen]

end Load

-- Nothing gets stuck while its author is signed in. Whatever the devices have done, as long as
-- what was stored at first can be read, arrivals alone lead to a state in which every query has
-- been answered and, of what the users have handed over who are signed in, every callback has
-- run, and every enrolment of theirs that was on its way is stored.
theorem everything_arrives (count : ℕ) (collection : List Document) (events : List Event)
    (state : State) (hlegible : ∀ document ∈ collection, Legible document)
    (hrun : Transition.run step (start count collection) events = some state) :
    ∃ more final, Transition.Along step Arrival state more ∧
      Transition.run step state more = some final ∧ final.users = state.users ∧
      Settled final ∧ ∀ sent ∈ state.outbox, sent.stage = .pending → Attended state sent →
        ∃ documentID, ⟨documentID, sent.data⟩ ∈ final.collection := by
  let Inv (middle : State) : Prop :=
    Ready middle ∧ Carries state middle ∧ middle.users = state.users
  have hdown : ∀ middle, Inv middle → 0 < middle.load → ∃ event next, Arrival middle event ∧
      step middle event = some next ∧ Inv next ∧ next.load < middle.load := by
    rintro middle ⟨hready, hcarries, husers⟩ hpos
    obtain ⟨event, next, harrival, hnext, hlt⟩ := exists_arrival hready hpos
    have hstep := Step.of_step hnext
    have hcarries' := hcarries.step (effect_of_step hready.linked hstep) harrival
    have husers' := (users_of_arrival harrival hstep).trans husers
    exact ⟨event, next, harrival, hnext, ⟨hready.step hstep, hcarries', husers'⟩, hlt⟩
  have hstart : Carries state state :=
    fun name sent hsent hstage => ⟨sent, hsent, rfl, rfl, .inl hstage⟩
  obtain ⟨final, ⟨more, halong, hmore⟩, ⟨_, hcarries, husers⟩, hzero⟩ :=
    Transition.CanReach.descend hdown ⟨ready_run hlegible hrun, hstart, rfl⟩
  have hsettled := load_eq_zero_iff.mp hzero
  refine ⟨more, final, halong, hmore, husers, hsettled, fun sent hsent hstage hattended => ?_⟩
  obtain ⟨name, hname⟩ := mem_outbox_iff.mp hsent
  obtain ⟨later, hlater, _, hauthor, harrived⟩ := hcarries name sent hname hstage
  refine harrived.resolve_left fun hpending => ?_
  have hsame : final.users[name.1]? = some later.author := by
    rw [husers, hauthor, ← screen_of_sentAt hname]
    exact hattended
  cases hpending.symm.trans (hsettled.finished hlater hsame)

-- Three queries and two enrolments are on their way, one of the enrolments stored already.
private def aMedias : List Event :=
  abrir 0 "u51" sara ++ abrir 1 "u52" tomas ++ [.app 0 (.nav .enrollBt), .store 0 0 "d1",
    .read 1 0 [], .app 1 (.nav .enrollBt)] ++ abrir 2 "u51" sara

theorem everything_arrives_aMedias :
    ∃ state, Transition.run step (start 3 []) aMedias = some state ∧
      state.outbox.map (·.stage) = [.stored "d1", .pending] ∧
      (∀ sent ∈ state.outbox, Attended state sent) ∧
      ∃ more final, Transition.Along step Arrival state more ∧
        Transition.run step state more = some final ∧ final.users = state.users ∧
        Settled final ∧ ∀ sent ∈ state.outbox, sent.stage = .pending → Attended state sent →
          ∃ documentID, ⟨documentID, sent.data⟩ ∈ final.collection :=
  ⟨_, rfl, rfl, by decide, everything_arrives 3 [] aMedias _ (by simp) rfl⟩

end AppPrepanet.Servidor
