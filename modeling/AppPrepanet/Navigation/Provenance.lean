import AppPrepanet.Navigation.Session
import AppPrepanet.Talleres.Loads
import AppPrepanet.ViewControllerWorkshop.Documents

namespace AppPrepanet.Navigation

open Firestore

-- The document was the only answer to a query for a UID.
def OnlyAnswer (events : List Event) (usuario : Document) : Prop :=
  ∃ tap uid, .login (.rolAnswer tap (.ok [usuario])) ∈ events ∧ usuario.fieldIs "UID" uid = true

-- The document was delivered to this list screen.
def DeliveredTo (events : List Event) (list : ℕ) (taller : Document) : Prop :=
  ∃ query documents, .list list (.talleres query (.ok documents)) ∈ events ∧ taller ∈ documents

-- The document enrols this student in this workshop.
structure EnrolmentOf (usuario taller document : Document) : Prop where
  matricula : document.string "matricula" = some usuario.documentID
  campusID : document.string "campusID" = some (usuario.stringOrEmpty "campus")
  status : document.string "status" = some "En Proceso"
  tallerID : document.string "tallerID" = some taller.documentID
  tallerTitle : ∃ titulo, taller.string "titulo" = some titulo ∧
    document.string "tallerTitle" = some titulo
  date : ∃ dates date, taller.timestamps "wkDate" = some dates ∧ dates[0]? = some date ∧
    document.timestamp "Date" = some date

def Identified (events : List Event) (user : User) : Prop :=
  ∃ usuario, OnlyAnswer events usuario ∧ user = userOf usuario ∧
    (user.rol = "Alumno" ∨ user.rol = "Coord")

def Loaded (events : List Event) (list : ℕ) (loaded : Workshop) : Prop :=
  ∃ taller, DeliveredTo events list taller ∧
    TableViewControllerAWorkshop.workshopOf taller = some loaded

structure ListTraced (events : List Event) (index : ℕ) (list : Talleres.State) : Prop where
  user : Identified events list.screen.user
  workshops : ∀ object ∈ list.screen.workshopArr, Loaded events index object.loaded

structure DetailTraced (events : List Event) (detail : Detail) : Prop where
  user : Identified events detail.view.user
  workshop : Loaded events detail.list { detail.view.workshop with status := "" }
  hidden : detail.view.user.rol = "Coord" → detail.view.btInscripcion.isHidden = true

def WriteTraced (details : List Detail) (write : Write) : Prop :=
  ∃ detail, details[write.detail]? = some detail ∧ detail.view.user.rol ≠ "Coord" ∧
    write.data = detail.view.enrollData

-- Where the user and the workshop of every open screen, and of every document on its way to
-- the collection, come from.
structure Traced (events : List Event) (state : State) : Prop where
  home : ∀ home, state.login.screen.presented = some (.home home) → Identified events home.user
  lists : ∀ index list, state.lists[index]? = some list → ListTraced events index list
  details : ∀ detail ∈ state.details, DetailTraced events detail
  added : ∀ write ∈ state.added, WriteTraced state.details write

section Mono

variable {events : List Event} (event : Event)

theorem Identified.mono {user : User} (h : Identified events user) :
    Identified (events ++ [event]) user := by
  obtain ⟨usuario, ⟨tap, uid, hmem, huid⟩, hrest⟩ := h
  exact ⟨usuario, ⟨tap, uid, List.mem_append_left _ hmem, huid⟩, hrest⟩

theorem Loaded.mono {list : ℕ} {loaded : Workshop} (h : Loaded events list loaded) :
    Loaded (events ++ [event]) list loaded := by
  obtain ⟨taller, ⟨query, documents, hmem, ht⟩, hrest⟩ := h
  exact ⟨taller, ⟨query, documents, List.mem_append_left _ hmem, ht⟩, hrest⟩

theorem Traced.mono {state : State} (h : Traced events state) :
    Traced (events ++ [event]) state where
  home := fun home hhome => (h.home home hhome).mono event
  lists := fun index list hlist =>
    ⟨(h.lists index list hlist).user.mono event,
      fun object ho => ((h.lists index list hlist).workshops object ho).mono event⟩
  details := by
    intro detail hd
    have hold := h.details detail hd
    exact ⟨hold.user.mono event, hold.workshop.mono event, hold.hidden⟩
  added := h.added

end Mono

section Details

variable {events : List Event} {state : State}

theorem DetailTraced.of_same {old new : Detail} (h : DetailTraced events old)
    (hsame : Same old new) : DetailTraced events new := by
  refine ⟨?_, ?_, ?_⟩
  · rw [hsame.user]
    exact h.user
  · rw [hsame.list, hsame.workshop]
    exact h.workshop
  · rw [hsame.user, hsame.isHidden]
    exact h.hidden

theorem enrollData_of_same {old new : Detail} (hsame : Same old new) :
    new.view.enrollData = old.view.enrollData := by
  simp only [ViewControllerWorkshop.enrollData, hsame.user, hsame.workshop]

theorem WriteTraced.of_same {details : List Detail} {index : ℕ} {old new : Detail} {write : Write}
    (h : WriteTraced details write) (hold : details[index]? = some old) (hsame : Same old new) :
    WriteTraced (details.set index new) write := by
  obtain ⟨detail, hdetail, hrol, hdata⟩ := h
  by_cases heq : index = write.detail
  · subst heq
    cases Option.some.inj (hold.symm.trans hdetail)
    refine ⟨new, List.getElem?_set_self (List.getElem?_eq_some_iff.mp hold).1, ?_, ?_⟩
    · rw [hsame.user]
      exact hrol
    · rw [enrollData_of_same hsame]
      exact hdata
  · exact ⟨detail, by rw [List.getElem?_set_ne heq, hdetail], hrol, hdata⟩

theorem Traced.setDetail (h : Traced events state) {index : ℕ} {old new : Detail}
    (hold : state.details[index]? = some old) (hsame : Same old new) :
    Traced events (state.setDetail index new) where
  home := h.home
  lists := h.lists
  details := by
    have htraced := h.details old (List.mem_of_getElem? hold)
    exact Positions.forall_mem_set h.details (htraced.of_same hsame)
  added := fun write hw => (h.added write hw).of_same hold hsame

end Details

section Step

variable {events : List Event} {state : State}

theorem Traced.login (h : Traced events state) {event : Login.Event} {login : Login.State}
    (hlogin : Login.Step state.login event login) :
    Traced (events ++ [.login event]) { state with login := login } := by
  have hold := h.mono (.login event)
  refine ⟨fun home hhome => ?_, hold.lists, hold.details, hold.added⟩
  by_cases hbefore : state.login.screen.presented = some (.home home)
  · exact hold.home home hbefore
  · obtain ⟨tap, document, chain, key, rfl, _, _, huid, _, _, hkind⟩ := hlogin.presents hbefore hhome
    have hanswer : OnlyAnswer (events ++ [.login (.rolAnswer tap (.ok [document]))]) document :=
      ⟨tap, key, List.mem_append_right _ (List.mem_singleton_self _), huid⟩
    rcases hkind with ⟨rfl, hrol⟩ | ⟨rfl, hrol⟩
    · exact ⟨document, hanswer, rfl, .inl hrol⟩
    · exact ⟨document, hanswer, rfl, .inr hrol⟩

-- What a list screen shows was there before or comes with the answer.
theorem ListTraced.step {index : ℕ} {event : Talleres.Event} {list next : Talleres.State}
    (h : ListTraced events index list) (hstep : Talleres.Step list event next)
    (hevent : .list index event ∈ events) : ListTraced events index next := by
  cases hstep with
  | viewWillAppear => exact ⟨h.user, by simp [TableViewControllerAWorkshop.viewWillAppear,
      TableViewControllerAWorkshop.reloadTableView]⟩
  | @talleres query result screen hopen hscreen =>
      refine ⟨Talleres.getWorkshops_user hscreen ▸ h.user, ?_⟩
      cases result with
      | error err =>
          cases hscreen
          exact h.workshops
      | ok documents =>
          obtain ⟨workshops, hm, hloaded⟩ := Talleres.getWorkshops_loaded hscreen
          intro object ho
          have hmem : object.loaded ∈ screen.workshopArr.map (·.loaded) := List.mem_map_of_mem ho
          rw [hloaded] at hmem
          rcases List.mem_append.mp hmem with hmem | hmem
          · obtain ⟨old, hold, heq⟩ := List.mem_map.mp hmem
            exact heq ▸ h.workshops old hold
          · obtain ⟨taller, ht, hw⟩ := Loop.mapM_eq_some_mem hm hmem
            exact ⟨taller, ⟨query, documents, hevent, ht⟩, hw⟩
  | inscripciones hopen hscreen =>
      refine ⟨Talleres.getStatus_user hscreen ▸ h.user, fun object ho => ?_⟩
      have hmem := List.mem_map_of_mem (f := fun object : WorkshopObject => object.loaded) ho
      rw [Talleres.getStatus_loaded hscreen] at hmem
      obtain ⟨old, hold, heq⟩ := List.mem_map.mp hmem
      exact heq ▸ h.workshops old hold
  | cellForRowAt _ _ | select _ _ => exact h

theorem Traced.list (h : Traced events state) {index : ℕ} {event : Talleres.Event}
    {list next : Talleres.State} (hlist : state.lists[index]? = some list)
    (hstep : Talleres.Step list event next) :
    Traced (events ++ [.list index event]) (state.setList index next) := by
  have hold := h.mono (.list index event)
  refine ⟨hold.home, fun other found hfound => ?_, hold.details, hold.added⟩
  rcases Positions.getElem?_set_eq_some hfound with ⟨rfl, rfl⟩ | ⟨_, hsame⟩
  · exact (hold.lists other list hlist).step hstep
      (List.mem_append_right _ (List.mem_singleton_self _))
  · exact hold.lists other found hsame

theorem Traced.openTalleres (h : Traced events state) {home : Home}
    (hhome : state.login.screen.presented = some (.home home)) :
    Traced events (state.addList home.user) := by
  refine ⟨h.home, fun index list hlist => ?_, h.details, h.added⟩
  rcases Positions.getElem?_concat_eq_some hlist with hlist | ⟨_, rfl⟩
  · exact h.lists index list hlist
  · exact ⟨h.home home hhome, by simp [Talleres.start]⟩

-- The user and the workshop that `prepare` hands over are those of the list.
theorem Traced.openDetail (h : Traced events state) {index row : ℕ} {list : Talleres.State}
    {object : WorkshopObject} {user : User} (hlist : state.lists[index]? = some list)
    (hprepare : list.screen.prepare row = some (object, user)) :
    Traced events (state.addDetail
      { list := index,
        view := (ViewControllerWorkshop.storyboard object.workshop user).viewDidLoad }) := by
  obtain ⟨found, hfound, heq⟩ := Option.map_eq_some_iff.mp hprepare
  cases heq
  have hold := h.lists index list hlist
  refine ⟨h.home, h.lists, Positions.forall_mem_concat h.details ⟨?_, ?_, fun hrol => ?_⟩,
    fun write hw => ?_⟩
  · simpa [ViewControllerWorkshop.storyboard] using hold.user
  · have hloaded := hold.workshops object (List.mem_of_getElem? hfound)
    simpa [ViewControllerWorkshop.storyboard, WorkshopObject.loaded] using hloaded
  · apply ViewControllerWorkshop.viewDidLoad_isHidden
    simpa using hrol
  · obtain ⟨detail, hdetail, hrest⟩ := h.added write hw
    have hlt := (List.getElem?_eq_some_iff.mp hdetail).1
    exact ⟨detail, by rw [State.addDetail, List.getElem?_append_left hlt, hdetail], hrest⟩

-- The button sends its action, so it is not hidden, so the user is not a coordinator.
theorem Traced.enrollBt (h : Traced events state) {index : ℕ} {detail : Detail}
    (hdetail : state.details[index]? = some detail)
    (hbutton : detail.view.btInscripcion.sendsAction = true) :
    Traced events ((state.setDetail index { detail with view := detail.view.enrollBt }).addWrite
      { detail := index, data := detail.view.enrollData }) := by
  have hsame := same_enrollBt detail
  have hset := h.setDetail hdetail hsame
  have hlt := (List.getElem?_eq_some_iff.mp hdetail).1
  refine ⟨hset.home, hset.lists, hset.details, Positions.forall_mem_concat hset.added ?_⟩
  refine ⟨_, List.getElem?_set_self hlt, fun hrol => ?_, (enrollData_of_same hsame).symm⟩
  have hhidden := (h.details detail (List.mem_of_getElem? hdetail)).hidden hrol
  have hshown := (UIButton.sendsAction_iff.mp hbutton).2
  exact absurd (hhidden.symm.trans hshown) (by decide)

theorem Traced.step {next : State} {event : Event} (h : Traced events state)
    (hstep : Step state event next) : Traced (events ++ [event]) next := by
  have hold := h.mono event
  cases hstep with
  | login hlogOut hlogin => exact h.login (Login.Step.of_step hlogin)
  | openTalleres hhome hclosed => exact hold.openTalleres hhome
  | list hlist hopen hstep => exact h.list hlist (Talleres.Step.of_step hstep)
  | openDetail hopen hlist hclosed hrow hprepare => exact hold.openDetail hlist hprepare
  | fetchAnswer hdetail hfetched hview =>
      exact hold.setDetail hdetail (same_fetchAnswer hview true)
  | enrollBt hopen hdetail hbutton => exact hold.enrollBt hdetail hbutton
  | @completion index err write detail hwrite hdetail hanswered =>
      have hset := hold.setDetail hdetail (same_completion detail err)
      have hsame := hset.added write (List.mem_of_getElem? hwrite)
      exact ⟨hset.home, hset.lists, hset.details, Positions.forall_mem_set hset.added hsame⟩
  | backToList hopen => exact ⟨hold.home, hold.lists, hold.details, hold.added⟩
  | backToHome hclosed hopen => exact ⟨hold.home, hold.lists, hold.details, hold.added⟩

end Step

theorem traced_run {events : List Event} {final : State}
    (hrun : Transition.run step start events = some final) : Traced events final := by
  refine Transition.run_history ⟨?_, ?_, ?_, ?_⟩
    (fun _ _ _ _ h hstep => Traced.step h (Step.of_step hstep)) hrun <;> simp [start, Login.start]

-- The button only sends its action in the session of a student.
theorem enrollBt_session {events : List Event} {state next : State}
    (hrun : Transition.run step start events = some state)
    (hstep : step state .enrollBt = some next) :
    ∃ user, state.login.screen.presented = some (.home (.alumnos user)) ∧ user.rol = "Alumno" := by
  cases Step.of_step hstep with
  | @enrollBt index detail hopen hdetail hbutton =>
      have hsession := inSession_run hrun
      obtain ⟨home, found, hhome, hfound, huser, _⟩ := hsession.detail index hopen
      cases Option.some.inj (hdetail.symm.trans hfound)
      rcases hsession.kind home hhome with ⟨hkind, hrol⟩ | ⟨_, hrol⟩
      · exact ⟨home.user, by rw [hhome, ← hkind], hrol⟩
      · have htraced := (traced_run hrun).details detail (List.mem_of_getElem? hdetail)
        have hhidden := htraced.hidden (huser ▸ hrol)
        have hshown := (UIButton.sendsAction_iff.mp hbutton).2
        exact absurd (hhidden.symm.trans hshown) (by decide)

-- Every document handed to `addDocument` names one student and one workshop: the student
-- whose document was the only answer to a query for a UID, and the workshop whose document
-- came to the list that the detail screen was opened from. And it takes a student's session.
theorem added_document_provenance (events : List Event) (final : State)
    (hrun : Transition.run step start events = some final) :
    (∀ write ∈ final.added, ∃ detail usuario taller,
      final.details[write.detail]? = some detail ∧
      OnlyAnswer events usuario ∧ usuario.string "rol" = some "Alumno" ∧
      DeliveredTo events detail.list taller ∧
      ∀ documentID, EnrolmentOf usuario taller ⟨documentID, write.data⟩) ∧
    ∀ next, step final .enrollBt = some next → ∃ user,
      final.login.screen.presented = some (.home (.alumnos user)) ∧ user.rol = "Alumno" := by
  have htraced := traced_run hrun
  refine ⟨fun write hw => ?_, fun next hstep => enrollBt_session hrun hstep⟩
  obtain ⟨detail, hdetail, hrol, hdata⟩ := htraced.added write hw
  have hopen := htraced.details detail (List.mem_of_getElem? hdetail)
  obtain ⟨usuario, hanswer, huser, hkind⟩ := hopen.user
  obtain ⟨taller, hdelivered, hworkshop⟩ := hopen.workshop
  obtain ⟨hid, _, htitulo, dates, hdates, hstart⟩ :=
    TableViewControllerAWorkshop.workshopOf_eq_some hworkshop
  refine ⟨detail, usuario, taller, hdetail, hanswer, ?_, hdelivered, fun documentID => ?_⟩
  · have halumno : (userOf usuario).rol = "Alumno" := huser ▸ hkind.resolve_right hrol
    cases hstored : usuario.string "rol" with
    | none => simp [userOf, Document.stringOrEmpty, hstored] at halumno
    | some rol => simpa [userOf, Document.stringOrEmpty, hstored] using halumno
  · obtain ⟨htallerID, htitle, hcampus, hmatricula, hstatus, hdate⟩ :=
      ViewControllerWorkshop.inscripcionOf_eq_some_iff.mp
        (detail.view.inscripcionOf_enrollData documentID)
    rw [← hdata] at htallerID htitle hcampus hmatricula hstatus hdate
    refine ⟨?_, ?_, hstatus, ?_, ⟨_, htitulo, htitle⟩, ⟨dates, _, hdates, hstart, hdate⟩⟩
    · rw [hmatricula, ViewControllerWorkshop.enrolment, huser]
      rfl
    · rw [hcampus, ViewControllerWorkshop.enrolment, huser]
      rfl
    · rw [htallerID, ViewControllerWorkshop.enrolment]
      exact congrArg some hid

private def usuaria : Document :=
  ⟨"A01", [("UID", .string "u1"), ("nombre", .string "Ana"), ("rol", .string "Alumno")]⟩

private def taller : Document :=
  ⟨"1", [("titulo", .string "Mis Emociones"), ("descripcion", .string ""),
    ("requerimientos", .array []), ("wkDate", .array [.timestamp ⟨3⟩, .timestamp ⟨5⟩])]⟩

private def primeraInscripcion : List Event :=
  [.login .btEntrar, .login (.signedIn 0 "u1"), .login (.signInCallback 0),
    .login (.rolAnswer 0 (.ok [usuaria])), .openTalleres, .list 0 .viewWillAppear,
    .list 0 (.talleres 0 (.ok [taller])), .openDetail 0, .fetchAnswer 0 (.ok []), .enrollBt]

theorem added_document_provenance_primera :
    ∃ final, Transition.run step start primeraInscripcion = some final ∧
      final.added.length = 1 ∧
      (∀ write ∈ final.added, ∃ detail usuario taller,
        final.details[write.detail]? = some detail ∧
        OnlyAnswer primeraInscripcion usuario ∧ usuario.string "rol" = some "Alumno" ∧
        DeliveredTo primeraInscripcion detail.list taller ∧
        ∀ documentID, EnrolmentOf usuario taller ⟨documentID, write.data⟩) ∧
      ∀ next, step final .enrollBt = some next → ∃ user,
        final.login.screen.presented = some (.home (.alumnos user)) ∧ user.rol = "Alumno" :=
  ⟨_, rfl, rfl, added_document_provenance primeraInscripcion _ rfl⟩

end AppPrepanet.Navigation
