import AppPrepanet.Inscripciones.Prerequisites
import AppPrepanet.ViewControllerWorkshop.Estado
import AppPrepanet.ViewControllerWorkshop.Reqs
import Mathlib.Logic.Relation

namespace AppPrepanet.Inscripciones

open Firestore Growth ViewControllerWorkshop

-- The statuses to which coordinators can move a document of this status.
def Reaches : String → String → Prop :=
  Relation.ReflTransGen fun old new =>
    (old = "En Proceso" ∧ new = "Inscrito") ∨ (old = "Inscrito" ∧ new = "Aprobado")

-- Coordinators only advance.
def Advancing (state : State) : Event → Prop
  | .setStatus documentID status =>
      ∀ document ∈ state.collection, document.documentID = documentID → Advance document status
  | _ => True

instance (state : State) : DecidablePred (Advancing state)
  | .setStatus _ _ => by unfold Advancing; infer_instance
  | .openScreen _ | .read _ _ _ | .deliver _ | .deliverError _ _ | .tap _ | .store _ _ | .completed _
  | .failed _ _ => .isTrue trivial

-- What the app and the coordinators may make of a stored document: only its status changes.
structure Kept (old new : Document) : Prop where
  documentID : new.documentID = old.documentID
  get : ∀ field, field ≠ "status" → new.get field = old.get field

instance : Std.Refl Kept := ⟨fun _ => ⟨rfl, fun _ _ => rfl⟩⟩

instance : IsTrans Document Kept where
  trans := fun _ _ _ hfirst hlast => ⟨hlast.documentID.trans hfirst.documentID,
    fun field hne => (hlast.get field hne).trans (hfirst.get field hne)⟩

theorem kept_updateStatus (documentID status : String) (document : Document) :
    Kept document (updateStatus documentID status document) := by
  unfold updateStatus
  split_ifs
  · exact ⟨rfl, fun field hne => document.get_setField_other _ hne⟩
  · exact Std.Refl.refl document

theorem Kept.fieldIs {old new : Document} (h : Kept old new) {field : String}
    (hne : field ≠ "status") (value : String) :
    new.fieldIs field value = old.fieldIs field value := by
  simp only [Document.fieldIs, h.get field hne]

-- What becomes of a document under coordinators that only advance.
structure Grown (old new : Document) : Prop extends Kept old new where
  status : ∀ before, old.string "status" = some before →
    ∃ after, new.string "status" = some after ∧ Reaches before after

instance : Std.Refl Grown :=
  ⟨fun document => ⟨Std.Refl.refl document, fun before hb => ⟨before, hb, .refl⟩⟩⟩

instance : IsTrans Document Grown where
  trans := by
    intro old middle new hfirst hlast
    refine ⟨IsTrans.trans _ _ _ hfirst.toKept hlast.toKept, fun before hb => ?_⟩
    obtain ⟨between, hbetween, hreach⟩ := hfirst.status before hb
    obtain ⟨after, hafter, hreach'⟩ := hlast.status between hbetween
    exact ⟨after, hafter, hreach.trans hreach'⟩

-- The student has a stored document with this value in the field, and its status is this one
-- or one that comes after it.
def Backed (state : State) (field value status : String) : Prop :=
  ∃ document ∈ state.collection,
    document.fieldIs "matricula" state.student.matricula = true ∧
    document.fieldIs field value = true ∧
    ∃ now, document.string "status" = some now ∧ Reaches status now

-- The student has enrolled, on some screen, with this value in the field.
def HandedOver (state : State) (field value : String) : Prop :=
  ∃ write ∈ state.writes, write.data.lookup field = some (.string value)

-- What a screen can have read: something that is backed, or an enrolment of the student's own
-- that was still on its way.
def Founded (state : State) (inscripcion : Inscripcion) : Prop :=
  (Backed state "tallerID" inscripcion.wkID inscripcion.status ∧
    Backed state "tallerTitle" inscripcion.wkTitle inscripcion.status) ∨
  (inscripcion.status = "En Proceso" ∧ HandedOver state "tallerID" inscripcion.wkID ∧
    HandedOver state "tallerTitle" inscripcion.wkTitle)

-- How a state may go on while coordinators only advance.
structure Later (state next : State) : Prop where
  student : next.student = state.student
  collection : Extends Grown state.collection next.collection
  writes : Extends Write.Advances state.writes next.writes

section Collection

variable {state next : State} {event : Event}

theorem grown_updateStatus {documentID status : String} {document : Document}
    (hadvance : document.documentID = documentID → Advance document status) :
    Grown document (updateStatus documentID status document) := by
  refine ⟨kept_updateStatus documentID status document, fun before hb => ?_⟩
  unfold updateStatus
  split_ifs with hid
  · refine ⟨status, document.string_setField_same "status" status, ?_⟩
    rcases hadvance hid with ⟨hs, rfl⟩ | ⟨hs, rfl⟩
    · cases Option.some.inj (hb.symm.trans hs)
      exact .single (.inl ⟨rfl, rfl⟩)
    · cases Option.some.inj (hb.symm.trans hs)
      exact .single (.inr ⟨rfl, rfl⟩)
  · exact ⟨before, hb, .refl⟩

theorem Step.grown (hstep : Step state event next) (hadvance : Advancing state event) :
    Extends Grown state.collection next.collection := by
  rcases hstep.collection_cases with hsame | ⟨_, _, _, _, _, _, _, hadd⟩ | ⟨_, _, rfl, hset⟩
  · rw [hsame]
    exact Extends.refl _
  · rw [hadd]
    exact Extends.concat _ _
  · rw [hset]
    exact Extends.map fun document hd => grown_updateStatus (hadvance document hd)

theorem Step.later (hstep : Step state event next) (hadvance : Advancing state event) :
    Later state next :=
  ⟨hstep.student_eq, hstep.grown hadvance, hstep.extends_writes⟩

theorem Backed.mono {field value status : String} (h : Backed state field value status)
    (hfield : field ≠ "status") (hlater : Later state next) : Backed next field value status := by
  obtain ⟨document, hd, hmatricula, hvalue, now, hnow, hreach⟩ := h
  obtain ⟨later, hl, hgrows⟩ := hlater.collection.exists_mem hd
  obtain ⟨after, hafter, hreach'⟩ := hgrows.status now hnow
  refine ⟨later, hl, ?_, ?_, after, hafter, hreach.trans hreach'⟩
  · rw [hgrows.fieldIs (by decide), hlater.student, hmatricula]
  · rw [hgrows.fieldIs hfield, hvalue]

theorem HandedOver.mono {field value : String} (h : HandedOver state field value)
    (hlater : Later state next) : HandedOver next field value := by
  obtain ⟨write, hw, hvalue⟩ := h
  obtain ⟨later, hl, _, hdata, _⟩ := hlater.writes.exists_mem hw
  exact ⟨later, hl, hdata ▸ hvalue⟩

theorem Founded.mono {inscripcion : Inscripcion} (h : Founded state inscripcion)
    (hlater : Later state next) : Founded next inscripcion := by
  rcases h with ⟨hid, htitle⟩ | ⟨hstatus, hid, htitle⟩
  · exact .inl ⟨hid.mono (by decide) hlater, htitle.mono (by decide) hlater⟩
  · exact .inr ⟨hstatus, hid.mono hlater, htitle.mono hlater⟩

-- What is read of a document stands behind what is stored of it from then on.
theorem founded_of_grown {document later : Document} (hl : later ∈ state.collection)
    (hgrown : Grown document later)
    (hmatricula : document.fieldIs "matricula" state.student.matricula = true)
    {inscripcion : Inscripcion} (hi : inscripcionOf document = some inscripcion) :
    Founded state inscripcion := by
  obtain ⟨hid, htitle, _, _, hstatus, _⟩ := inscripcionOf_eq_some_iff.mp hi
  obtain ⟨after, hafter, hreach⟩ := hgrown.status _ hstatus
  have hstudent : later.fieldIs "matricula" state.student.matricula = true := by
    rw [hgrown.fieldIs (by decide), hmatricula]
  refine .inl ⟨?_, ?_⟩
  · refine ⟨later, hl, hstudent, ?_, after, hafter, hreach⟩
    rw [hgrown.fieldIs (by decide), document.fieldIs_iff.mpr hid]
  · refine ⟨later, hl, hstudent, ?_, after, hafter, hreach⟩
    rw [hgrown.fieldIs (by decide), document.fieldIs_iff.mpr htitle]

-- A device shows an enrolment that it has handed over as it has written it.
theorem founded_of_write {write : Write} (hw : write ∈ state.writes)
    {view : ViewControllerWorkshop} (hdata : write.data = view.enrollData) {document : Document}
    (hd : document.data = write.data) {inscripcion : Inscripcion}
    (hi : inscripcionOf document = some inscripcion) : Founded state inscripcion := by
  obtain ⟨documentID, data⟩ := document
  have hsame : data = view.enrollData := hd.trans hdata
  rw [hsame, view.inscripcionOf_enrollData documentID] at hi
  cases hi
  refine .inr ⟨rfl, ⟨write, hw, ?_⟩, ⟨write, hw, ?_⟩⟩
  · rw [hdata]
    rfl
  · rw [hdata]
    rfl

end Collection

-- What a screen has read, and what it shows of it.
structure ScreenBehind (state : State) (screen : Screen) : Prop where
  user : screen.view.user = state.student
  read : ∀ documents, screen.fetch = .read documents → ∀ document ∈ documents,
    (document.fieldIs "matricula" state.student.matricula = true ∧
      ∃ later ∈ state.collection, Grown document later) ∨
    ∃ write ∈ state.writes, document.data = write.data
  inscripciones : ∀ inscripcion ∈ screen.view.inscripciones, Founded state inscripcion
  label : screen.view.lbDescEstado.text = "No Inscrito" ∨
    Backed state "tallerID" screen.view.workshop.wkID screen.view.lbDescEstado.text ∨
    ∃ inscripcion ∈ screen.view.inscripciones, inscripcion.wkID = screen.view.workshop.wkID ∧
      inscripcion.status = screen.view.lbDescEstado.text
  rows : ∀ row ∈ screen.view.reqs, row.status = "" ∨
    ∃ inscripcion ∈ screen.view.inscripciones, inscripcion.wkTitle = row.req ∧
      inscripcion.status = row.status

-- A write belongs to a screen, and its callback finds the document stored.
def WriteBehind (state : State) (write : Write) : Prop :=
  ∃ screen, state.screens[write.screen]? = some screen ∧ write.data = screen.view.enrollData ∧
    ∀ documentID, write.stage = .stored documentID →
      Backed state "tallerID" screen.view.workshop.wkID "En Proceso"

structure Behind (state : State) : Prop where
  screens : ∀ screen ∈ state.screens, ScreenBehind state screen
  writes : ∀ write ∈ state.writes, WriteBehind state write

section Screens

variable {state next : State} {screen : Screen}

theorem ScreenBehind.mono (h : ScreenBehind state screen) (hlater : Later state next) :
    ScreenBehind next screen := by
  refine ⟨h.user.trans hlater.student.symm, fun documents hf document hd => ?_,
    fun inscripcion hi => (h.inscripciones inscripcion hi).mono hlater, ?_, h.rows⟩
  · rcases h.read documents hf document hd with ⟨hmatricula, between, hb, hgrows⟩ | ⟨write, hw, hdata⟩
    · obtain ⟨later, hl, hgrows'⟩ := hlater.collection.exists_mem hb
      exact .inl ⟨hlater.student ▸ hmatricula, later, hl, IsTrans.trans _ _ _ hgrows hgrows'⟩
    · obtain ⟨later, hl, _, hsame, _⟩ := hlater.writes.exists_mem hw
      exact .inr ⟨later, hl, hdata.trans hsame.symm⟩
  · exact h.label.imp_right fun hshown => hshown.imp_left fun hb => hb.mono (by decide) hlater

theorem ScreenBehind.viewDidLoad (workshop : Workshop) :
    ScreenBehind state ⟨(storyboard workshop state.student).viewDidLoad, .issued⟩ where
  user := viewDidLoad_user (storyboard workshop state.student)
  read := by simp
  inscripciones := by simp [storyboard]
  label := by
    by_cases hrol : state.student.rol = "Coord" <;>
      simp [ViewControllerWorkshop.viewDidLoad, reloadTableView, storyboard, hrol]
  rows := by
    intro row hrow
    by_cases hrol : state.student.rol = "Coord"
    · simp [ViewControllerWorkshop.viewDidLoad, reloadTableView, storyboard, hrol,
        initializeReqObject_reqs, listed, mark] at hrow
      obtain ⟨req, _, rfl⟩ := hrow
      exact .inl rfl
    · simp [ViewControllerWorkshop.viewDidLoad, reloadTableView, storyboard, hrol] at hrow

-- A requirement keeps its status or takes that of an inscripcion with its title.
theorem mark_cases (inscripciones : List Inscripcion) (row : Requerimiento) :
    (mark inscripciones row).status = row.status ∨ ∃ inscripcion ∈ inscripciones,
      inscripcion.wkTitle = row.req ∧ inscripcion.status = (mark inscripciones row).status := by
  unfold mark
  cases hfound : inscripciones.findRev? fun inscripcion => inscripcion.wkTitle = row.req with
  | none => exact .inl rfl
  | some inscripcion =>
      rw [List.findRev?_eq_find?_reverse] at hfound
      have hmem := List.mem_of_find?_eq_some hfound
      have hmatch := List.find?_some hfound
      exact .inr ⟨inscripcion, List.mem_reverse.mp hmem, by simpa using hmatch, rfl⟩

theorem ScreenBehind.deliver (h : ScreenBehind state screen)
    (hwrites : ∀ write ∈ state.writes, WriteBehind state write) {documents : List Document}
    (hfetch : screen.fetch = .read documents) {view : ViewControllerWorkshop}
    (hview : screen.view.getEnrollmentStatus (.ok documents) = some view) :
    ScreenBehind state ⟨view, .delivered documents⟩ := by
  obtain ⟨inscripciones, hm, rfl⟩ := screen.view.getEnrollmentStatus_ok.mp hview
  have hall : ∀ inscripcion ∈ screen.view.inscripciones ++ inscripciones,
      Founded state inscripcion := by
    intro inscripcion hi
    rcases List.mem_append.mp hi with hi | hi
    · exact h.inscripciones inscripcion hi
    · obtain ⟨document, hd, hdecode⟩ := Loop.mapM_eq_some_mem hm hi
      rcases h.read documents hfetch document hd with
        ⟨hmatricula, later, hl, hgrown⟩ | ⟨write, hw, hsame⟩
      · exact founded_of_grown hl hgrown hmatricula hdecode
      · obtain ⟨other, _, hdata, _⟩ := hwrites write hw
        exact founded_of_write hw hdata hsame hdecode
  refine ⟨by simpa using h.user, by simp, by simpa using hall, ?_, fun row hrow => ?_⟩
  · simp only [fetchCompletion_text, fetchCompletion_workshop, fetchCompletion_inscripciones]
    cases hlast : lastStatus screen.view.workshop (screen.view.inscripciones ++ inscripciones) with
    | none =>
        refine h.label.imp_right fun hshown => hshown.imp_right ?_
        rintro ⟨inscripcion, hi, hshows⟩
        exact ⟨inscripcion, List.mem_append_left _ hi, hshows⟩
    | some status => exact .inr (.inr (exists_of_lastStatus hlast))
  · rw [fetchCompletion_reqs] at hrow
    rw [fetchCompletion_inscripciones]
    obtain ⟨old, hold, rfl⟩ := List.mem_map.mp hrow
    rcases mark_cases (screen.view.inscripciones ++ inscripciones) old with
      hsame | ⟨inscripcion, hi, htitle, hstatus⟩
    · rw [hsame, mark_req]
      rcases List.mem_append.mp hold with hold | hold
      · refine (h.rows old hold).imp_right ?_
        rintro ⟨inscripcion, hi, hshows⟩
        exact ⟨inscripcion, List.mem_append_left _ hi, hshows⟩
      · obtain ⟨req, _, rfl⟩ := List.mem_map.mp hold
        exact .inl rfl
    · exact .inr ⟨inscripcion, hi, by rw [mark_req, htitle], hstatus⟩

theorem ScreenBehind.enrollBt (h : ScreenBehind state screen) :
    ScreenBehind state { screen with view := screen.view.enrollBt } :=
  ⟨h.user, h.read, h.inscripciones, h.label, h.rows⟩

theorem ScreenBehind.completion (h : ScreenBehind state screen) (err : Option String)
    (hstored : err = none → Backed state "tallerID" screen.view.workshop.wkID "En Proceso") :
    ScreenBehind state { screen with view := screen.view.enrollStudentCompletion err } := by
  cases err with
  | none => exact ⟨h.user, h.read, h.inscripciones, .inr (.inl (hstored rfl)), h.rows⟩
  | some err => exact h

end Screens

section Step

variable {state next : State} {event : Event}

theorem WriteBehind.step {write : Write} (h : WriteBehind state write)
    (hadvance : Advancing state event) (hstep : Step state event next) :
    WriteBehind next write := by
  obtain ⟨screen, hscreen, hdata, hstored⟩ := h
  obtain ⟨later, hlater, hsubject⟩ := hstep.subject write.screen screen hscreen
  refine ⟨later, hlater, hdata.trans (enrollData_of_subject hsubject).symm,
    fun documentID hstage => ?_⟩
  have hworkshop : later.view.workshop = screen.view.workshop := congrArg Prod.fst hsubject
  rw [hworkshop]
  exact (hstored documentID hstage).mono (by decide) (hstep.later hadvance)

-- What has just been stored is there.
theorem backed_enrollData {screen : Screen} (huser : screen.view.user = state.student)
    {documentID : String} (hd : ⟨documentID, screen.view.enrollData⟩ ∈ state.collection) :
    Backed state "tallerID" screen.view.workshop.wkID "En Proceso" := by
  have hkey := (hasKey_enrollData state.student.matricula screen.view.workshop.wkID documentID
    screen.view).mpr ⟨by rw [huser], rfl⟩
  rw [hasKey, Bool.and_eq_true] at hkey
  obtain ⟨_, _, _, _, hstatus, _⟩ :=
    inscripcionOf_eq_some_iff.mp (screen.view.inscripcionOf_enrollData documentID)
  exact ⟨_, hd, hkey.1, hkey.2, "En Proceso", hstatus, .refl⟩

theorem Behind.screens_step (h : Behind state) (hadvance : Advancing state event)
    (hstep : Step state event next) : ∀ screen ∈ next.screens, ScreenBehind next screen := by
  intro screen hscreen
  refine ScreenBehind.mono ?_ (hstep.later hadvance)
  refine hstep.forall_screens_guarded h.screens ?_ ?_ ?_ ?_ ?_ ?_ screen hscreen
  · intro workshop _
    exact ScreenBehind.viewDidLoad workshop
  · intro screen own documents hs _ hdocuments
    refine ⟨hs.user, fun found hf document hd => ?_, hs.inscripciones, hs.label, hs.rows⟩
    cases hf
    rcases mem_view (hdocuments.mem_iff.mp hd) with hstored | ⟨write, hw, _, hdata⟩
    · obtain ⟨hmem, hmatricula⟩ := List.mem_filter.mp hstored
      exact .inl ⟨hmatricula, document, hmem, Std.Refl.refl document⟩
    · exact .inr ⟨write, hw, hdata⟩
  · intro screen documents view hs hfetch hview
    exact hs.deliver h.writes hfetch hview
  · intro screen hs _
    exact ⟨hs.user, by simp, hs.inscripciones, hs.label, hs.rows⟩
  · intro screen hs _
    exact hs.enrollBt
  · intro write hw screen err hstored hfound hs
    obtain ⟨other, hother, _, hbacked⟩ := h.writes write hw
    cases Option.some.inj (hfound.symm.trans hother)
    refine hs.completion err fun hnone => ?_
    obtain ⟨documentID, hstage⟩ := hstored hnone
    exact hbacked documentID hstage

theorem Behind.writes_step (h : Behind state) (hadvance : Advancing state event)
    (hstep : Step state event next) : ∀ write ∈ next.writes, WriteBehind next write := by
  have hold : ∀ write ∈ state.writes, WriteBehind next write :=
    fun write hw => (h.writes write hw).step hadvance hstep
  cases hstep with
  | openScreen _ | read _ _ _ _ | deliver _ _ _ | deliverError _ _ | setStatus _ _ => exact hold
  | @tap index screen hscreen hbutton =>
      refine Positions.forall_mem_concat hold ?_
      have hlt := (List.getElem?_eq_some_iff.mp hscreen).1
      exact ⟨_, List.getElem?_set_self hlt, rfl, by simp⟩
  | @store index write documentID hwrite hstage hfresh =>
      have hmem := List.mem_of_getElem? hwrite
      refine Positions.forall_mem_set hold ?_
      obtain ⟨screen, hscreen, hdata, _⟩ := h.writes write hmem
      have huser := (h.screens screen (List.mem_of_getElem? hscreen)).user
      refine ⟨screen, hscreen, hdata, fun _ _ => ?_⟩
      have hd : ⟨documentID, screen.view.enrollData⟩ ∈
          state.collection ++ [⟨documentID, write.data⟩] := by
        rw [hdata]
        exact List.mem_append_right _ (List.mem_singleton_self _)
      exact backed_enrollData huser hd
  | @completed index write _ hwrite hstage | @failed index write _ hwrite hstage =>
      rw [callback_writes]
      refine Positions.forall_mem_set hold ?_
      obtain ⟨screen, hscreen, hdata, _⟩ := hold write (List.mem_of_getElem? hwrite)
      exact ⟨screen, hscreen, hdata, by simp⟩

theorem Behind.step (h : Behind state) (hadvance : Advancing state event)
    (hstep : Step state event next) : Behind next :=
  ⟨h.screens_step hadvance hstep, h.writes_step hadvance hstep⟩

theorem behind_run {student : User} {collection : List Document} {events : List Event}
    {final : State}
    (hadvance : Transition.Along step Advancing (start student collection) events)
    (hrun : Transition.run step (start student collection) events = some final) :
    Behind final :=
  Transition.run_invariant_along
    (fun _ _ _ h hadvance hstep => Behind.step h hadvance (Step.of_step hstep))
    ⟨by simp [start], by simp [start]⟩ hadvance hrun

end Step

section Shown

variable {state : State} {screen : Screen}

theorem ScreenBehind.label_cases (h : ScreenBehind state screen) :
    let workshop := screen.view.workshop
    let label := screen.view.lbDescEstado.text
    label = "No Inscrito" ∨ Backed state "tallerID" workshop.wkID label ∨
      (label = "En Proceso" ∧ HandedOver state "tallerID" workshop.wkID ∧
        ∃ inscripcion ∈ screen.view.inscripciones, inscripcion.wkID = workshop.wkID ∧
          inscripcion.status = "En Proceso") := by
  refine h.label.imp_right fun hshown => ?_
  rcases hshown with hbacked | ⟨inscripcion, hi, hid, hstatus⟩
  · exact .inl hbacked
  · rcases h.inscripciones inscripcion hi with ⟨hbacked, _⟩ | ⟨hproceso, hhanded, _⟩
    · exact .inl (hid ▸ hstatus ▸ hbacked)
    · exact .inr ⟨hstatus ▸ hproceso, hid ▸ hhanded, inscripcion, hi, hid, hproceso⟩

theorem ScreenBehind.row_cases (h : ScreenBehind state screen) :
    ∀ row ∈ screen.view.reqs, row.status = "" ∨ Backed state "tallerTitle" row.req row.status ∨
      (row.status = "En Proceso" ∧ HandedOver state "tallerTitle" row.req ∧
        ∃ inscripcion ∈ screen.view.inscripciones, inscripcion.wkTitle = row.req ∧
          inscripcion.status = "En Proceso") := by
  intro row hrow
  refine (h.rows row hrow).imp_right ?_
  rintro ⟨inscripcion, hi, htitle, hstatus⟩
  rcases h.inscripciones inscripcion hi with ⟨_, hbacked⟩ | ⟨hproceso, _, hhanded⟩
  · exact .inl (htitle ▸ hstatus ▸ hbacked)
  · exact .inr ⟨hstatus ▸ hproceso, htitle ▸ hhanded, inscripcion, hi, htitle, hproceso⟩

end Shown

-- As long as coordinators only advance, a detail screen is ahead of the collection by nothing
-- but the student's own enrolments. Whatever status its label or one of its requirements shows,
-- the student has a stored document with that status or one that comes after it, or the status
-- is the 'En Proceso' of an enrolment that the student has made and the screen has read.
theorem never_ahead (student : User) (collection : List Document) (events : List Event)
    (final : State)
    (hadvance : Transition.Along step Advancing (start student collection) events)
    (hrun : Transition.run step (start student collection) events = some final)
    (screen : Screen) (hscreen : screen ∈ final.screens) :
    let workshop := screen.view.workshop
    let label := screen.view.lbDescEstado.text
    (label = "No Inscrito" ∨ Backed final "tallerID" workshop.wkID label ∨
      (label = "En Proceso" ∧ HandedOver final "tallerID" workshop.wkID ∧
        ∃ inscripcion ∈ screen.view.inscripciones, inscripcion.wkID = workshop.wkID ∧
          inscripcion.status = "En Proceso")) ∧
    ∀ row ∈ screen.view.reqs, row.status = "" ∨ Backed final "tallerTitle" row.req row.status ∨
      (row.status = "En Proceso" ∧ HandedOver final "tallerTitle" row.req ∧
        ∃ inscripcion ∈ screen.view.inscripciones, inscripcion.wkTitle = row.req ∧
          inscripcion.status = "En Proceso") := by
  have hbehind := (behind_run hadvance hrun).screens screen hscreen
  exact ⟨hbehind.label_cases, hbehind.row_cases⟩

private def olga : User :=
  { nombre := "Olga", email := "olga@tec.mx", matricula := "A14", campus := "MTY",
    rol := "Alumno" }

private def habitos : Workshop :=
  { wkID := "1", title := "Habitos", descr := "", req := [], startDate := 0, endDate := 5 }

private def pendiente : Document :=
  ⟨"", [("tallerTitle", .string "Habitos"), ("Date", .timestamp ⟨0⟩),
    ("tallerID", .string "1"), ("campusID", .string "MTY"), ("matricula", .string "A14"),
    ("status", .string "En Proceso")]⟩

private def readPending : List Event :=
  [.openScreen habitos, .tap 0, .openScreen habitos, .read 1 [0] [pendiente], .deliver 1,
    .failed 0 "offline"]

-- A second screen shows an enrolment that is on its way and then fails.
theorem never_ahead_readPending :
    ∃ final screen, Transition.run step (start olga []) readPending = some final ∧
      final.collection = [] ∧ final.screens[1]? = some screen ∧
      screen.view.lbDescEstado.text = "En Proceso" ∧
      (screen.view.lbDescEstado.text = "No Inscrito" ∨
        Backed final "tallerID" screen.view.workshop.wkID screen.view.lbDescEstado.text ∨
        (screen.view.lbDescEstado.text = "En Proceso" ∧
          HandedOver final "tallerID" screen.view.workshop.wkID ∧
          ∃ inscripcion ∈ screen.view.inscripciones,
            inscripcion.wkID = screen.view.workshop.wkID ∧ inscripcion.status = "En Proceso")) :=
  ⟨_, _, rfl, rfl, rfl, by decide,
    (never_ahead olga [] readPending _ (by decide) rfl _ (List.mem_of_getElem? (i := 1) rfl)).1⟩

end AppPrepanet.Inscripciones
