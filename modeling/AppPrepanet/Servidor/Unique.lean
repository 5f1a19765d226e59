import AppPrepanet.Inscripciones.Unique
import AppPrepanet.Servidor.Arrives

namespace AppPrepanet.Servidor

open Coleccion Firestore Inscripciones ViewControllerWorkshop

-- The device on which the button is tapped.
def tapped : Event → Option ℕ
  | .app index (.nav .enrollBt) => some index
  | _ => none

-- A tap on any device finds a screen that knows about every enrolment of its user in its
-- workshop: none is on its way from any device, and if one is stored then the answer that the
-- screen has been given shows the workshop as taken.
def Informed (state : State) (event : Event) : Prop :=
  ∀ index ∈ tapped event, ∀ device ∈ state.devices[index]?,
    ∀ detail ∈ device.app.nav.openDetail, ∀ screen ∈ device.screens[detail]?,
      (∀ sent ∈ state.outbox, sent.stage = .pending →
        hasKey screen.view.user.matricula screen.view.workshop.wkID ⟨"", sent.data⟩ = false) ∧
      ((∃ document ∈ state.collection,
        hasKey screen.view.user.matricula screen.view.workshop.wkID document = true) →
          ∃ document ∈ screen.fetch.answer, ShowsTaken screen.view.workshop.wkID document)

instance (state : State) : DecidablePred (Informed state) := fun _ => by
  unfold Informed; infer_instance

section Share

variable {student : User} {screens writes : List (ℕ × ℕ)} {sent : List Sent} {state : State}
  {image : Inscripciones.State} {event : Event} {own : Inscripciones.Event}

theorem informed_of_renders (h : Follows student screens writes sent state image)
    (hinformed : Informed state event) (hrenders : Renders screens writes state event own) :
    Inscripciones.Informed image own := by
  cases hrenders with
  | @enrollBt index detail device hdevice hopen hname =>
      intro screen hscreen
      have hfind : state.screenAt (index, detail) = some screen :=
        (h.shows.getElem? (List.getElem?_idxOf hname)).trans hscreen
      obtain ⟨found, hfound, hget⟩ := find_eq_some_iff.mp hfind
      cases Option.some.inj (hdevice.symm.trans hfound)
      have huser : screen.view.user.matricula = image.student.matricula := by
        rw [h.user]
        exact (h.shows.mem_iff (index, detail) screen hfind).mp hname
      obtain ⟨hpending, hstored⟩ := hinformed index rfl device hdevice detail hopen screen hget
      rw [huser] at hpending hstored
      refine ⟨fun write hw => ?_, fun hexists => hstored ?_⟩
      · rw [h.writes] at hw
        obtain ⟨item, hitem, rfl⟩ := List.mem_map.mp hw
        obtain ⟨name, _, hlookup⟩ := h.sends.exists_name hitem
        by_cases hstage : item.stage = .pending
        · have hkey := hpending item (mem_outbox_iff.mpr ⟨name, hlookup⟩) hstage
          simp [Write.pendingFor, Sent.write, hkey]
        · simp [Write.pendingFor, Sent.write, hstage]
      · obtain ⟨document, hd, hkey⟩ := hexists
        exact ⟨document, h.mem_collection hd, hkey⟩
  | openDetail _ _ _ | read _ _ _ _ | deliver _ _ | deliverError _ _ _ | store _ _ _
  | completed _ _ | failed _ _ _ | setStatus _ _ => trivial

end Share

section Unique

variable {collection : List Document}

theorem countP_ofStudent (matricula tallerID : String) :
    (ofStudent matricula collection).countP (hasKey matricula tallerID) =
      collection.countP (hasKey matricula tallerID) := by
  rw [ofStudent, List.countP_filter]
  apply List.countP_congr
  intro document _
  simp only [hasKey, Bool.and_eq_true]
  tauto

theorem unique_ofStudent (h : Unique collection) (matricula : String) :
    Unique (ofStudent matricula collection) := by
  intro other tallerID
  exact Nat.le_trans (List.filter_sublist.countP_le) (h other tallerID)

end Unique

-- As long as every tap is informed, no student gets a second document for a workshop, however
-- many devices and students there are.
theorem one_document_each (count : ℕ) (collection : List Document) (events : List Event)
    (final : State) (hunique : Unique collection) (honly : OneUserEach final)
    (hinformed : Transition.Along step Informed (start count collection) events)
    (hrun : Transition.run step (start count collection) events = some final) :
    Unique final.collection := by
  intro matricula tallerID
  -- Who it is that has the matricula. If nobody has it, anybody will do.
  obtain ⟨student, rfl, hstudent⟩ : ∃ student : User, student.matricula = matricula ∧
      Only student final := by
    by_cases hshown : ∃ device ∈ final.devices, ∃ screen ∈ device.screens,
        screen.view.user.matricula = matricula
    · obtain ⟨device, hdevice, screen, hscreen, hmatricula⟩ := hshown
      exact ⟨screen.view.user, hmatricula, honly device hdevice screen hscreen⟩
    · refine ⟨⟨"", "", matricula, "", ""⟩, rfl, fun device hdevice screen hscreen h => ?_⟩
      exact absurd ⟨device, hdevice, screen, hscreen, h⟩ hshown
  obtain ⟨image, ⟨own, halong, hown⟩, screens, writes, sent, hfollows⟩ :=
    share_run (fun _ _ _ _ _ _ _ h hevent hrenders => informed_of_renders h hevent hrenders)
      hstudent hinformed hrun
  have hguarded := guarded_run (unique_ofStudent hunique student.matricula) halong hown
  rw [← countP_ofStudent, ← hfollows.collection]
  exact hguarded.unique student.matricula tallerID

private def dosEstudiantes : List Event :=
  abrir 0 "u51" sara ++ abrir 1 "u52" tomas ++ [.app 0 (.nav .enrollBt),
    .app 1 (.nav .enrollBt), .store 1 0 "d1"] ++ abrir 2 "u51" sara ++ [.store 0 0 "d2",
    .completed 0 0, .read 2 0 [⟨"d2", enrollDataDe sara⟩],
    .deliver 2 0]

theorem one_document_each_dosEstudiantes :
    ∃ final, Transition.run step (start 3 []) dosEstudiantes = some final ∧
      final.collection.length = 2 ∧ Unique final.collection :=
  ⟨_, rfl, rfl, one_document_each 3 [] dosEstudiantes _ (fun _ _ => Nat.zero_le 1) (by decide)
    (by decide) rfl⟩

section Blind

variable {state next : State} {matricula tallerID : String}

theorem two_le_countP_concat {collection : List Document} {document new : Document}
    (hd : document ∈ collection) (hkey : hasKey matricula tallerID document = true)
    (hnew : hasKey matricula tallerID new = true) :
    2 ≤ (collection ++ [new]).countP (hasKey matricula tallerID) := by
  have hpos : 0 < collection.countP (hasKey matricula tallerID) :=
    List.countP_pos_iff.mpr ⟨document, hd, hkey⟩
  rw [List.countP_append, List.countP_singleton, if_pos hnew]
  omega

theorem users_of_tap {index : ℕ} (hstep : Step state (.app index (.nav .enrollBt)) next) :
    next.users = state.users := by
  cases hstep with
  | @app _ _ device app hdevice _ happ =>
      refine Positions.map_set_of_eq hdevice ?_
      cases App.Step.of_step happ with
      | nav _ hnav =>
          cases Navigation.Step.of_step hnav with
          | enrollBt _ _ _ => rfl

-- One of the pending documents is stored while its author is signed in, and the others go on
-- waiting.
theorem exists_stored (hlinked : ∀ device ∈ state.devices, Linked device) {name : ℕ × ℕ}
    {sent : Sent} (hsent : state.sentAt name = some sent) (hstage : sent.stage = .pending)
    (hauthor : state.users[name.1]? = some sent.author) :
    ∃ documentID next, Arrival state (.store name.1 name.2 documentID) ∧
      step state (.store name.1 name.2 documentID) = some next ∧ next.users = state.users ∧
      next.collection = state.collection ++ [⟨documentID, sent.data⟩] ∧
      ∀ other, other ≠ name → next.sentAt other = state.sentAt other := by
  obtain ⟨index, write⟩ := name
  obtain ⟨device, hdevice, hwrite⟩ := find_eq_some_iff.mp hsent
  obtain ⟨added, hadded, hmutation, _, hdata⟩ := sent_eq_some_iff.mp hwrite
  obtain ⟨documentID, hstore⟩ := exists_store hdevice hadded hmutation hstage
  have harrival : Arrival state (.store index write documentID) := by
    intro found hfound mutation hother
    cases Option.some.inj (hdevice.symm.trans hfound)
    cases Option.some.inj (hmutation.symm.trans hother)
    rw [State.users, List.getElem?_map, hdevice, Option.map_some] at hauthor
    exact (Option.some.inj hauthor).symm
  refine ⟨documentID, _, harrival, hstore, users_of_arrival harrival (Step.of_step hstore),
    by rw [hdata]; rfl, fun other hne => ?_⟩
  cases effect_of_step hlinked (Step.of_step hstore) with
  | store _ _ _ _ hafter _ => rw [hafter, Function.update_of_ne hne]

-- Next to a stored document with its key it is a second one.
theorem exists_second (hlinked : ∀ device ∈ state.devices, Linked device) {name : ℕ × ℕ}
    {sent : Sent} (hsent : state.sentAt name = some sent) (hstage : sent.stage = .pending)
    (hauthor : state.users[name.1]? = some sent.author)
    (hkey : ∀ documentID, hasKey matricula tallerID ⟨documentID, sent.data⟩ = true)
    {document : Document} (hd : document ∈ state.collection)
    (hdocument : hasKey matricula tallerID document = true) :
    ∃ more final, Transition.Along step Arrival state more ∧
      Transition.run step state more = some final ∧
      2 ≤ final.collection.countP (hasKey matricula tallerID) := by
  obtain ⟨documentID, final, harrival, hstore, _, hfinal, _⟩ :=
    exists_stored hlinked hsent hstage hauthor
  refine ⟨[.store name.1 name.2 documentID], final, ⟨harrival, fun _ _ => trivial⟩, ?_, ?_⟩
  · rw [Transition.run_singleton, hstore]
  · rw [hfinal]
    exact two_le_countP_concat hd hdocument (hkey documentID)

-- So are two that are both on their way.
theorem exists_second_of_pending (hlinked : ∀ device ∈ state.devices, Linked device)
    {name place : ℕ × ℕ} {sent other : Sent} (hne : name ≠ place)
    (hsent : state.sentAt name = some sent) (hstage : sent.stage = .pending)
    (hauthor : state.users[name.1]? = some sent.author)
    (hkey : ∀ documentID, hasKey matricula tallerID ⟨documentID, sent.data⟩ = true)
    (hplace : state.sentAt place = some other) (hpending : other.stage = .pending)
    (hpresent : state.users[place.1]? = some other.author)
    (hother : hasKey matricula tallerID ⟨"", other.data⟩ = true) :
    ∃ more final, Transition.Along step Arrival state more ∧
      Transition.run step state more = some final ∧
      2 ≤ final.collection.countP (hasKey matricula tallerID) := by
  obtain ⟨documentID, middle, harrival, hfirst, husers, hmiddle, hrest⟩ :=
    exists_stored hlinked hplace hpending hpresent
  have hd : ⟨documentID, other.data⟩ ∈ middle.collection := by
    rw [hmiddle]
    exact List.mem_append_right _ (List.mem_singleton_self _)
  obtain ⟨more, final, halong, hmore, hcount⟩ :=
    exists_second (linked_step hlinked (Step.of_step hfirst)) ((hrest name hne).trans hsent) hstage
      (husers ▸ hauthor) hkey hd hother
  refine ⟨.store place.1 place.2 documentID :: more, final, ⟨harrival, fun after hafter => ?_⟩, ?_,
    hcount⟩
  · cases Option.some.inj (hfirst.symm.trans hafter)
    exact halong
  · rw [Transition.run_cons, hfirst, Option.bind_some, hmore]

-- What a tap can miss: a document is stored, or it is on its way from some device.
theorem exists_of_not_informed {index detail : ℕ} {device : Device} {screen : Screen}
    (hdevice : state.devices[index]? = some device)
    (hopen : device.app.nav.openDetail = some detail)
    (hscreen : device.screens[detail]? = some screen)
    (hblind : ¬Informed state (.app index (.nav .enrollBt))) :
    let key := hasKey screen.view.user.matricula screen.view.workshop.wkID
    (∃ document ∈ state.collection, key document = true) ∨
      ∃ other ∈ state.outbox, other.stage = .pending ∧ key ⟨"", other.data⟩ = true := by
  intro key
  by_contra hnothing
  obtain ⟨hstored, hpending⟩ := not_or.mp hnothing
  refine hblind fun found hfound device' hdevice' detail' hdetail' shown hshown => ?_
  cases hfound
  cases Option.some.inj (hdevice.symm.trans hdevice')
  cases Option.some.inj (hopen.symm.trans hdetail')
  cases Option.some.inj (hscreen.symm.trans hshown)
  refine ⟨fun sent hs hstage => ?_, fun hd => absurd hd hstored⟩
  by_contra hk
  exact hpending ⟨sent, hs, hstage, by simpa using hk⟩

end Blind

-- The condition leaves out no harmless tap. After any tap that is not informed, with every
-- pending document handed over by a user who is signed in, the arrivals can be such that the
-- student has two documents for the workshop.
theorem blind_tap_doubles (count : ℕ) (collection : List Document) (events : List Event)
    (state next : State) (index detail : ℕ) (device : Device) (screen : Screen)
    (hrun : Transition.run step (start count collection) events = some state)
    (hdevice : state.devices[index]? = some device)
    (hopen : device.app.nav.openDetail = some detail)
    (hscreen : device.screens[detail]? = some screen)
    (hattended : ∀ sent ∈ state.outbox, sent.stage = .pending → Attended state sent)
    (hblind : ¬Informed state (.app index (.nav .enrollBt)))
    (hstep : step state (.app index (.nav .enrollBt)) = some next) :
    ∃ more final, Transition.Along step Arrival next more ∧
      Transition.run step next more = some final ∧
      2 ≤ final.collection.countP
        (hasKey screen.view.user.matricula screen.view.workshop.wkID) := by
  have hlinked := linked_run hrun
  have hlinked' := linked_step hlinked (Step.of_step hstep)
  have husers := users_of_tap (Step.of_step hstep)
  cases effect_of_step hlinked (Step.of_step hstep) with
  | quiet hevent _ _ _ => cases hevent
  | @enrollBt _ detail' name device' screen' hdevice' hopen' hscreen' hbutton hnone hscreens hsent
      hcollection =>
      cases Option.some.inj (hdevice.symm.trans hdevice')
      cases Option.some.inj (hopen.symm.trans hopen')
      cases Option.some.inj (((find_of_device hdevice).symm.trans hscreen').symm.trans hscreen)
      let mine : Sent := ⟨(index, detail), screen.view.enrollData, device.currentUser, .pending⟩
      have hmine : next.sentAt name = some mine := by rw [hsent, Function.update_self]
      have hkey : ∀ documentID, hasKey screen.view.user.matricula screen.view.workshop.wkID
          ⟨documentID, mine.data⟩ = true :=
        fun documentID => (hasKey_enrollData _ _ documentID screen.view).mpr ⟨rfl, rfl⟩
      have hsigned : next.users[name.1]? = some mine.author := by
        rw [husers, ← screen_of_sentAt hmine, State.users, List.getElem?_map, hdevice]
        rfl
      rcases exists_of_not_informed hdevice hopen hscreen hblind with
        ⟨document, hd, hdocument⟩ | ⟨other, ho, hpending, hother⟩
      · rw [← hcollection] at hd
        exact exists_second hlinked' hmine rfl hsigned hkey hd hdocument
      · obtain ⟨place, hplace⟩ := mem_outbox_iff.mp ho
        have hne : name ≠ place := by
          rintro rfl
          cases hnone.symm.trans hplace
        have hwaits : next.sentAt place = some other := by
          rw [hsent, Function.update_of_ne hne.symm, hplace]
        have hpresent : next.users[place.1]? = some other.author := by
          rw [husers, ← screen_of_sentAt hplace]
          exact hattended other ho hpending
        exact exists_second_of_pending hlinked' hne hmine rfl hsigned hkey hwaits hpending hpresent
          hother

private def aDosManos : List Event :=
  abrir 0 "u51" sara ++ abrir 1 "u51" sara ++ [.read 0 0 [], .deliver 0 0, .read 1 0 [],
    .deliver 1 0, .app 0 (.nav .enrollBt)]

-- The other device has an answer that was right when it was read.
theorem blind_tap_doubles_aDosManos :
    ∃ state next device screen, Transition.run step (start 2 []) aDosManos = some state ∧
      state.devices[1]? = some device ∧ device.screens[0]? = some screen ∧
      step state (.app 1 (.nav .enrollBt)) = some next ∧
      ∃ more final, Transition.Along step Arrival next more ∧
        Transition.run step next more = some final ∧
        2 ≤ final.collection.countP
          (hasKey screen.view.user.matricula screen.view.workshop.wkID) :=
  ⟨_, _, _, _, rfl, rfl, rfl, rfl, blind_tap_doubles 2 [] aDosManos _ _ 1 0 _ _ rfl rfl rfl rfl
    (by decide) (by decide) rfl⟩

end AppPrepanet.Servidor
