import AppPrepanet.Inscripciones.Failed
import AppPrepanet.Inscripciones.Prerequisites

namespace AppPrepanet.Inscripciones

open Firestore ViewControllerWorkshop

def State.inFlight (state : State) : ℕ := (state.writes.map (·.stage.left)).sum

-- The student and the coordinators stay within the rules.
def Ruled (catalogue : List Workshop) (state : State) (event : Event) : Prop :=
  Allowed catalogue state event ∧ Gated state event

instance (catalogue : List Workshop) (state : State) : DecidablePred (Ruled catalogue state) :=
  fun event => inferInstanceAs (Decidable (Allowed catalogue state event ∧ Gated state event))

-- What a run within the rules keeps, for a student who started with nothing.
structure Climbing (catalogue : List Workshop) (student : User) (state : State) : Prop where
  sound : Sound catalogue state
  shown : Shown student state
  handled : ∀ document ∈ state.collection,
    document.fieldIs "matricula" student.matricula = true →
      ∃ status, document.string "status" = some status ∧ Handled status
  nodup : (state.collection.map (·.documentID)).Nodup

section Invariant

variable {catalogue : List Workshop} {student : User} {state next : State} {event : Event}

theorem Step.nodup (hstep : Step state event next)
    (h : (state.collection.map (·.documentID)).Nodup) :
    (next.collection.map (·.documentID)).Nodup := by
  rcases hstep.collection_cases with hsame | ⟨_, _, _, _, _, _, hfresh, hadd⟩ | ⟨_, _, _, hset⟩
  · rw [hsame]
    exact h
  · rw [hadd, List.map_append, List.map_singleton]
    refine List.nodup_append.mpr ⟨h, List.nodup_singleton _, fun id hid last hl => ?_⟩
    rw [List.mem_singleton.mp hl]
    exact ne_of_mem_of_not_mem hid hfresh
  · rw [hset, map_documentID_updateStatus]
    exact h

-- A document begins 'En Proceso', and coordinators move it to the two other statuses.
theorem Climbing.handled_step (h : Climbing catalogue student state)
    (hruled : Ruled catalogue state event) (hstep : Step state event next) :
    ∀ document ∈ next.collection, document.fieldIs "matricula" student.matricula = true →
      ∃ status, document.string "status" = some status ∧ Handled status := by
  intro document hd hstudent
  rcases hstep.collection_cases with hsame | ⟨index, documentID, write, _, hwrite, _, _, hadd⟩ |
    ⟨documentID, status, rfl, hset⟩
  · exact h.handled document (hsame ▸ hd) hstudent
  · rw [hadd] at hd
    rcases List.mem_append.mp hd with hd | hd
    · exact h.handled document hd hstudent
    · obtain ⟨view, _, _, hdata⟩ := h.sound.writes write (List.mem_of_getElem? hwrite)
      obtain ⟨_, _, _, _, hstatus, _⟩ :=
        inscripcionOf_eq_some_iff.mp (inscripcionOf_enrollData view documentID)
      rw [List.mem_singleton.mp hd, hdata]
      exact ⟨"En Proceso", hstatus, .inl rfl⟩
  · rw [hset] at hd
    obtain ⟨old, hold, rfl⟩ := List.mem_map.mp hd
    unfold updateStatus at hstudent ⊢
    split_ifs at hstudent ⊢ with hid
    · refine ⟨status, old.string_setField_same "status" status, ?_⟩
      rcases hruled.1 old hold hid with ⟨_, rfl⟩ | ⟨_, rfl⟩
      · exact .inr (.inl rfl)
      · exact .inr (.inr rfl)
    · exact h.handled old hold hstudent

theorem Climbing.step (hcatalogue : Sequential catalogue) (hrol : student.rol ≠ "Coord")
    (h : Climbing catalogue student state) (hruled : Ruled catalogue state event)
    (hstep : Step state event next) : Climbing catalogue student next :=
  ⟨h.sound.step hcatalogue hruled.1 hruled.2 hstep, h.shown.step hrol hstep,
    h.handled_step hruled hstep, hstep.nodup h.nodup⟩

theorem climbing_run (hcatalogue : Sequential catalogue) (hrol : student.rol ≠ "Coord")
    {collection : List Document} {events : List Event} {final : State}
    (hnodup : (collection.map (·.documentID)).Nodup)
    (hnone : ∀ document ∈ collection, document.fieldIs "matricula" student.matricula = false)
    (hruled : Transition.Along step (Ruled catalogue) (start student collection) events)
    (hrun : Transition.run step (start student collection) events = some final) :
    Climbing catalogue student final := by
  have hstart : Climbing catalogue student (start student collection) := by
    refine ⟨start_sound hnone, ⟨rfl, by simp [start]⟩, fun document hd hstudent => ?_, hnodup⟩
    rw [hnone document hd] at hstudent
    cases hstudent
  exact Transition.run_invariant_along
    (fun _ _ _ h hruled hstep => Climbing.step hcatalogue hrol h hruled (Step.of_step hstep))
    hstart hruled hrun

end Invariant

section Advance

variable {catalogue : List Workshop} {student : User} {state : State} {document : Document}
  {tallerID : String}

-- A coordinator can make the next move on any document of the student.
theorem Climbing.advance (h : Climbing catalogue student state) (hd : document ∈ state.collection)
    (hkey : hasKey student.matricula tallerID document = true) {status : String}
    (hadvance : Advance document status) :
    ∃ next, Transition.CanReach Inscripciones.step (Ruled catalogue) state next ∧
      ∃ later ∈ next.collection, hasKey student.matricula tallerID later = true ∧
        later.string "status" = some status := by
  have hallowed : Allowed catalogue state (.setStatus document.documentID status) := by
    intro other ho hid
    rw [List.inj_on_of_nodup_map h.nodup ho hd hid]
    exact hadvance
  refine ⟨_, .single ⟨hallowed, trivial⟩ (Step.setStatus document.documentID status).to_step,
    updateStatus document.documentID status document, List.mem_map_of_mem hd, ?_, ?_⟩
  · rw [hasKey_updateStatus, hkey]
  · rw [updateStatus, if_pos rfl, document.string_setField_same]

-- Two moves at most bring it to the top.
theorem Climbing.approve (hcatalogue : Sequential catalogue) (hrol : student.rol ≠ "Coord")
    (h : Climbing catalogue student state) (hd : document ∈ state.collection)
    (hkey : hasKey student.matricula tallerID document = true) :
    ∃ next, Transition.CanReach Inscripciones.step (Ruled catalogue) state next ∧
      ∃ later ∈ next.collection, hasKey student.matricula tallerID later = true ∧
        later.string "status" = some "Aprobado" := by
  have hinscrito : ∀ middle, Climbing catalogue student middle → ∀ document ∈ middle.collection,
      hasKey student.matricula tallerID document = true →
        document.string "status" = some "Inscrito" →
          ∃ next, Transition.CanReach Inscripciones.step (Ruled catalogue) middle next ∧
            ∃ later ∈ next.collection, hasKey student.matricula tallerID later = true ∧
              later.string "status" = some "Aprobado" :=
    fun middle hm document hd hkey hs => hm.advance hd hkey (.inr ⟨hs, rfl⟩)
  have hmatricula : document.fieldIs "matricula" student.matricula = true := by
    rw [hasKey, Bool.and_eq_true] at hkey
    exact hkey.1
  obtain ⟨status, hstatus, rfl | rfl | rfl⟩ := h.handled document hd hmatricula
  · obtain ⟨middle, hmiddle, later, hl, hkey', hs⟩ := h.advance hd hkey (.inl ⟨hstatus, rfl⟩)
    have hm : Climbing catalogue student middle := hmiddle.invariant
      (fun _ _ _ h hruled hstep => Climbing.step hcatalogue hrol h hruled (Step.of_step hstep)) h
    obtain ⟨next, hnext, happroved⟩ := hinscrito middle hm later hl hkey' hs
    exact ⟨next, hmiddle.trans hnext, happroved⟩
  · exact hinscrito state h document hd hkey hstatus
  · exact ⟨state, .refl state, document, hd, hkey, hstatus⟩

end Advance

section Enrol

variable {catalogue : List Workshop} {student : User} {state : State} {index k : ℕ}
  {screen : Screen}

-- The answer to a fetch that is made now is read to its end.
theorem Climbing.decode (h : Climbing catalogue student state) :
    ∃ inscripciones, state.matching.mapM inscripcionOf = some inscripciones := by
  apply Loop.exists_mapM_eq_some
  intro document hd
  obtain ⟨hmem, hmatricula⟩ := List.mem_filter.mp hd
  obtain ⟨inscripcion, hi, _⟩ := h.sound.collection document hmem hmatricula
  exact ⟨inscripcion, hi⟩

-- With every workshop below it approved, the answer passes the count test.
theorem countApproved_of_below (hcatalogue : Sequential catalogue)
    (hlength : catalogue.length ≤ 0x7FFFFFFFFFFFFFFF) (hk : k < catalogue.length)
    (hbelow : ∀ j < k, Approved state j)
    {inscripciones : List Inscripcion}
    (hm : state.matching.mapM inscripcionOf = some inscripciones) :
    CountApproved catalogue[k] inscripciones := by
  have hreq : catalogue[k].req.length = k := by
    rw [hcatalogue.req k hk, List.length_map, List.length_take]
    omega
  rcases Nat.eq_zero_or_pos k with hzero | hpos
  · exact .inl (List.length_eq_zero_iff.mp (hreq.trans hzero))
  · obtain ⟨document, hd, hkey, hstatus⟩ := hbelow (k - 1) (by omega)
    rw [Nat.sub_add_cancel hpos, hasKey, Bool.and_eq_true] at hkey
    have hmatching : document ∈ state.matching := List.mem_filter.mpr ⟨hd, hkey.1⟩
    obtain ⟨inscripcion, hi, hdecode⟩ := Loop.exists_mem_of_mapM hm hmatching
    obtain ⟨hid, _, _, _, hs, _⟩ := inscripcionOf_eq_some_iff.mp hdecode
    have hwkID : inscripcion.wkID = toString k :=
      Option.some.inj (hid.symm.trans (document.fieldIs_iff.mp hkey.2))
    refine .inr ⟨inscripcion, hi, ?_, Option.some.inj (hs.symm.trans hstatus)⟩
    rw [hreq, hwkID, Swift.int_toString, Swift.inRange, if_pos]
    omega

theorem canReach_of_step (catalogue : List Workshop) {next : State} {event : Event}
    (hstep : Step state event next) (hallowed : Allowed catalogue state event)
    (hgate : Gated state event) : Transition.CanReach step (Ruled catalogue) state next :=
  .single ⟨hallowed, hgate⟩ hstep.to_step

theorem exists_fresh (collection : List Document) :
    ∃ documentID, documentID ∉ collection.map (·.documentID) := by
  obtain ⟨documentID, hid⟩ :=
    Infinite.exists_notMem_finset (collection.map (·.documentID)).toFinset
  exact ⟨documentID, by simpa using hid⟩

theorem inFlight_setWrite_lt {position : ℕ} {write later : Write}
    (hwrite : state.writes[position]? = some write) (hlt : later.stage.left < write.stage.left) :
    (state.setWrite position later).inFlight < state.inFlight := by
  have hsum := Positions.sum_map_set later (·.stage.left) hwrite
  simp only [State.inFlight, State.setWrite]
  omega

-- Whatever is on its way can come one step nearer to its callback.
theorem exists_arrival (catalogue : List Workshop) (h : 0 < state.inFlight) :
    ∃ event next, Ruled catalogue state event ∧ Step state event next ∧
      next.inFlight < state.inFlight := by
  obtain ⟨position, write, hwrite, hleft⟩ := Positions.exists_pos_of_sum_pos h
  cases hstage : write.stage with
  | pending =>
      obtain ⟨documentID, hfresh⟩ := exists_fresh state.collection
      refine ⟨.store position documentID, _, ⟨trivial, trivial⟩, .store hwrite hstage hfresh, ?_⟩
      exact inFlight_setWrite_lt hwrite (by simp [hstage, Stage.left])
  | stored documentID =>
      refine ⟨.completed position, _, ⟨trivial, trivial⟩, .completed hwrite hstage, ?_⟩
      rw [State.inFlight, callback_writes]
      exact inFlight_setWrite_lt hwrite (by simp [hstage, Stage.left])
  | finished =>
      rw [hstage] at hleft
      exact absurd hleft (by decide)

-- A detail screen for a workshop of the catalogue is opened, and its fetch is answered. With
-- nothing on its way it does not matter on which device.
theorem Climbing.openScreen (h : Climbing catalogue student state)
    (hfinished : ∀ write ∈ state.writes, write.stage = .finished) {workshop : Workshop}
    (hw : workshop ∈ catalogue) :
    ∃ next screen inscripciones,
      Transition.CanReach Inscripciones.step (Ruled catalogue) state next ∧
      state.matching.mapM inscripcionOf = some inscripciones ∧
      next.screens[state.screens.length]? = some screen ∧ screen.fetch.answered = true ∧
      screen.view = fetchCompletion { (storyboard workshop state.student).viewDidLoad with
        inscripciones := inscripciones } := by
  obtain ⟨inscripciones, hm⟩ := h.decode
  let view := (storyboard workshop state.student).viewDidLoad
  let opened := state.addScreen ⟨view, .issued⟩
  let read := opened.setScreen state.screens.length ⟨view, .read state.matching⟩
  have hissued : opened.screens[state.screens.length]? = some ⟨view, .issued⟩ :=
    List.getElem?_concat_length
  have hlt := (List.getElem?_eq_some_iff.mp hissued).1
  have hanswer : read.screens[state.screens.length]? = some ⟨view, .read state.matching⟩ :=
    List.getElem?_set_self hlt
  have hlt' := (List.getElem?_eq_some_iff.mp hanswer).1
  have hview : view.getEnrollmentStatus (.ok state.matching) = some
      (fetchCompletion { view with inscripciones := inscripciones }) := by
    refine view.getEnrollmentStatus_ok.mpr ⟨inscripciones, hm, ?_⟩
    simp [view, storyboard]
  -- all the writes may have been made on the device that reads
  let own := List.range state.writes.length
  have hsees : opened.view own = opened.matching :=
    view_of_finished fun _ _ write hw => hfinished write (List.mem_of_getElem? hw)
  have hdocuments : state.matching.Perm (opened.view own) := hsees ▸ List.Perm.refl _
  have hopen : Transition.CanReach Inscripciones.step (Ruled catalogue) state opened :=
    canReach_of_step catalogue (Step.openScreen workshop) hw trivial
  have hread := canReach_of_step catalogue
    (Step.read hissued rfl List.nodup_range hdocuments) trivial trivial
  have hdeliver := canReach_of_step catalogue
    (Step.deliver hanswer rfl hview) trivial trivial
  exact ⟨_, _, inscripciones, (hopen.trans hread).trans hdeliver, hm,
    List.getElem?_set_self hlt', rfl, rfl⟩

-- An enabled button on an answered screen leads to a stored document.
theorem exists_stored (catalogue : List Workshop) (hscreen : state.screens[index]? = some screen)
    (hfetch : screen.fetch.answered = true)
    (hbutton : screen.view.btInscripcion.sendsAction = true) :
    ∃ next documentID, Transition.CanReach step (Ruled catalogue) state next ∧
      ⟨documentID, screen.view.enrollData⟩ ∈ next.collection := by
  have hgate : Gated state (.tap index) := by
    intro found hfound
    cases Option.some.inj (hscreen.symm.trans hfound)
    exact .inl hfetch
  let write : Write := { screen := index, data := screen.view.enrollData, stage := .pending }
  let tapped :=
    (state.setScreen index { screen with view := screen.view.enrollBt }).addWrite write
  have hwrite : tapped.writes[state.writes.length]? = some write := List.getElem?_concat_length
  obtain ⟨documentID, hfresh⟩ := exists_fresh tapped.collection
  have htap : Transition.CanReach step (Ruled catalogue) state tapped :=
    canReach_of_step catalogue (Step.tap hscreen hbutton) trivial hgate
  have hstore := canReach_of_step catalogue
    (Step.store hwrite rfl hfresh) trivial trivial
  exact ⟨_, documentID, htap.trans hstore,
    List.mem_append_right _ (List.mem_singleton_self _)⟩

end Enrol

section Climb

variable {catalogue : List Workshop} {student : User} {state next : State} {k : ℕ}

theorem Climbing.reach (hcatalogue : Sequential catalogue) (hrol : student.rol ≠ "Coord")
    (h : Climbing catalogue student state)
    (hreach : Transition.CanReach Inscripciones.step (Ruled catalogue) state next) :
    Climbing catalogue student next :=
  hreach.invariant
    (fun _ _ _ h hruled hstep => Climbing.step hcatalogue hrol h hruled (Step.of_step hstep)) h

theorem Approved.reach (h : Approved state k)
    (hreach : Transition.CanReach Inscripciones.step (Ruled catalogue) state next) :
    Approved next k := by
  have hinv : ∀ state event next, Approved state k → Ruled catalogue state event →
      step state event = some next → Approved next k :=
    fun _ _ _ h hruled hstep => (Step.of_step hstep).approved hruled.1 h
  exact hreach.invariant hinv h

-- Nothing need stay on its way.
theorem Climbing.settle (hcatalogue : Sequential catalogue) (hrol : student.rol ≠ "Coord")
    (h : Climbing catalogue student state) :
    ∃ next, Transition.CanReach Inscripciones.step (Ruled catalogue) state next ∧
      ∀ write ∈ next.writes, write.stage = .finished := by
  have hdown : ∀ state, Climbing catalogue student state → 0 < state.inFlight →
      ∃ event next, Ruled catalogue state event ∧ Inscripciones.step state event = some next ∧
        Climbing catalogue student next ∧ next.inFlight < state.inFlight := by
    intro state h hpos
    obtain ⟨event, next, hruled, hstep, hlt⟩ := exists_arrival catalogue hpos
    exact ⟨event, next, hruled, hstep.to_step, h.step hcatalogue hrol hruled hstep, hlt⟩
  obtain ⟨next, hnext, _, hzero⟩ := Transition.CanReach.descend hdown h
  refine ⟨next, hnext, fun write hw => ?_⟩
  have hleft := List.sum_eq_zero_iff_forall_eq_nat.mp hzero _ (List.mem_map_of_mem hw)
  cases hstage : write.stage with
  | finished => rfl
  | pending | stored _ => simp [hstage, Stage.left] at hleft

-- The student can get a document for the next workshop, if there is none yet.
theorem Climbing.enrol (hcatalogue : Sequential catalogue) (hrol : student.rol ≠ "Coord")
    (hlength : catalogue.length ≤ 0x7FFFFFFFFFFFFFFF) (h : Climbing catalogue student state)
    (hfinished : ∀ write ∈ state.writes, write.stage = .finished)
    (hk : k < catalogue.length) (hbelow : ∀ j < k, Approved state j) :
    ∃ next, Transition.CanReach Inscripciones.step (Ruled catalogue) state next ∧
      ∃ document ∈ next.collection,
        hasKey student.matricula (toString (k + 1)) document = true := by
  by_cases hstored : ∃ document ∈ state.collection,
      hasKey student.matricula (toString (k + 1)) document = true
  · exact ⟨state, .refl state, hstored⟩
  · obtain ⟨opened, screen, inscripciones, hopen, hm, hscreen, hfetch, hview⟩ :=
      h.openScreen hfinished (List.getElem_mem hk)
    have hcount := countApproved_of_below hcatalogue hlength hk hbelow hm
    have hfree : ¬Enrolled catalogue[k] inscripciones := by
      rintro ⟨inscripcion, hi, hid, _⟩
      obtain ⟨document, hd, hdecode⟩ := Loop.mapM_eq_some_mem hm hi
      obtain ⟨hmem, hmatricula⟩ := List.mem_filter.mp hd
      have htaller := (inscripcionOf_eq_some_iff.mp hdecode).1
      rw [hid, hcatalogue.wkID k hk] at htaller
      rw [h.shown.student] at hmatricula
      refine hstored ⟨document, hmem, ?_⟩
      rw [hasKey, hmatricula, document.fieldIs_iff.mpr htaller, Bool.and_self]
    have hvisible := ((h.reach hcatalogue hrol hopen).shown.button screen
      (List.mem_of_getElem? hscreen))
    have henabled : screen.view.btInscripcion.isEnabled = true := by
      rw [hview, fetchCompletion_isEnabled_iff]
      simpa [storyboard] using And.intro hcount hfree
    obtain ⟨next, documentID, hnext, hd⟩ := exists_stored catalogue hscreen hfetch
      (UIButton.sendsAction_iff.mpr ⟨henabled, hvisible⟩)
    refine ⟨next, hopen.trans hnext, _, hd, (hasKey_enrollData _ _ _ _).mpr ?_⟩
    rw [hview]
    simp [storyboard, h.shown.student, hcatalogue.wkID k hk]

-- One rung: with all workshops below it approved, the next one can be.
theorem Climbing.rung (hcatalogue : Sequential catalogue) (hrol : student.rol ≠ "Coord")
    (hlength : catalogue.length ≤ 0x7FFFFFFFFFFFFFFF) (h : Climbing catalogue student state)
    (hk : k < catalogue.length) (hbelow : ∀ j < k, Approved state j) :
    ∃ final, Transition.CanReach Inscripciones.step (Ruled catalogue) state final ∧
      Climbing catalogue student final ∧ ∀ j ≤ k, Approved final j := by
  obtain ⟨settled, hsettled, hfinished⟩ := h.settle hcatalogue hrol
  have hbelow' : ∀ j < k, Approved settled j := fun j hj => (hbelow j hj).reach hsettled
  obtain ⟨middle, hmore, document, hd, hkey⟩ :=
    (h.reach hcatalogue hrol hsettled).enrol hcatalogue hrol hlength hfinished hk hbelow'
  have hmiddle := hsettled.trans hmore
  have hclimbing := h.reach hcatalogue hrol hmiddle
  obtain ⟨final, hfinal, later, hl, hkey', hstatus⟩ :=
    hclimbing.approve hcatalogue hrol hd hkey
  have hend := hclimbing.reach hcatalogue hrol hfinal
  refine ⟨final, hmiddle.trans hfinal, hend, fun j hj => ?_⟩
  rcases hj.lt_or_eq with hlt | rfl
  · exact (hbelow j hlt).reach (hmiddle.trans hfinal)
  · exact ⟨later, hl, by rw [hend.shown.student, hkey'], hstatus⟩

end Climb

-- There is no dead end: from every state of every run within the rules, whatever has failed,
-- been left open or is still on its way, the rules allow a continuation after which every
-- workshop of the catalogue is approved.
theorem completable (catalogue : List Workshop) (student : User) (collection : List Document)
    (events : List Event) (state : State) (hcatalogue : Sequential catalogue)
    (hlength : catalogue.length ≤ 0x7FFFFFFFFFFFFFFF) (hrol : student.rol ≠ "Coord")
    (hnodup : (collection.map (·.documentID)).Nodup)
    (hnone : ∀ document ∈ collection, document.fieldIs "matricula" student.matricula = false)
    (hruled : Transition.Along step (Ruled catalogue) (start student collection) events)
    (hrun : Transition.run step (start student collection) events = some state) :
    ∃ more final, Transition.Along step (Ruled catalogue) state more ∧
      Transition.run step state more = some final ∧
      ∀ k < catalogue.length, Approved final k := by
  have hclimbing := climbing_run hcatalogue hrol hnodup hnone hruled hrun
  have hup : ∀ k < catalogue.length, ∀ middle, Climbing catalogue student middle →
      (∀ j < k, Approved middle j) →
        ∃ final, Transition.CanReach step (Ruled catalogue) middle final ∧
          Climbing catalogue student final ∧ ∀ j ≤ k, Approved final j :=
    fun k hk middle hm hbelow => hm.rung hcatalogue hrol hlength hk hbelow
  obtain ⟨final, ⟨more, halong, hmore⟩, _, happroved⟩ :=
    Transition.CanReach.climb hup hclimbing
  exact ⟨more, final, halong, hmore, happroved⟩

private def quim : User :=
  { nombre := "Quim", email := "quim@tec.mx", matricula := "A16", campus := "MTY",
    rol := "Alumno" }

private def programa : List Workshop :=
  [{ wkID := "1", title := "Mis Emociones", descr := "", req := [], startDate := 0, endDate := 5 },
   { wkID := "2", title := "Liderazgo", descr := "", req := ["Mis Emociones"], startDate := 6,
     endDate := 9 }]

private theorem programa_sequential : Sequential programa := ⟨by decide, by decide, by decide⟩

private def failedOnce : List Event :=
  [.openScreen programa[0], .read 0 [] [], .deliver 0, .tap 0, .failed 0 "sin conexion"]

-- The screen of the failed write is of no use any more, but the student can open another one.
theorem completable_failedOnce :
    ∃ state, Transition.run step (start quim []) failedOnce = some state ∧
      ∃ more final, Transition.Along step (Ruled programa) state more ∧
        Transition.run step state more = some final ∧
        ∀ k < programa.length, Approved final k :=
  ⟨_, rfl, completable programa quim [] failedOnce _ programa_sequential (by decide) (by decide)
    (by decide) (by simp) (by decide) rfl⟩

end AppPrepanet.Inscripciones
