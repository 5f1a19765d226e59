import AppPrepanet.TableViewControllerAWorkshop.Merge
import AppPrepanet.Talleres

namespace AppPrepanet.Talleres

open Firestore TableViewControllerAWorkshop

-- The answers to the two queries of one appearance.
structure Load where
  talleres : List Document
  inscripciones : List Document
deriving DecidableEq

def Load.events (number : ℕ) (load : Load) : List Event :=
  [.viewWillAppear, .talleres number (.ok load.talleres),
    .inscripciones number (.ok load.inscripciones)]

-- One load after the other, each of them complete.
def eventsOf (loads : List Load) : List Event :=
  loads.zipIdx.flatMap fun numbered => numbered.1.events numbered.2

def Load.answer (load : Load) : List Inscripcion :=
  (load.inscripciones.mapM inscripcionOf).getD []

theorem eventsOf_concat (loads : List Load) (load : Load) :
    eventsOf (loads ++ [load]) = eventsOf loads ++ load.events loads.length := by
  simp [eventsOf, List.zipIdx_append, List.flatMap_append]

section StatusOf

variable (first last : List Inscripcion) (wkID : String)

theorem statusOf_append_of_mem (h : ∃ inscripcion ∈ last, inscripcion.wkID = wkID) :
    statusOf (first ++ last) wkID = statusOf last wkID := by
  have hsome := (Loop.findRev?_isSome (fun i : Inscripcion => decide (i.wkID = wkID)) last).mpr
    (by simpa using h)
  obtain ⟨found, hf⟩ := Option.isSome_iff_exists.mp hsome
  rw [statusOf, statusOf, Loop.findRev?_append, hf, Option.some_or]

theorem statusOf_append_of_notMem (h : ¬∃ inscripcion ∈ last, inscripcion.wkID = wkID) :
    statusOf (first ++ last) wkID = statusOf first wkID ∧ statusOf last wkID = "" := by
  have hnone : last.findRev? (fun i : Inscripcion => decide (i.wkID = wkID)) = none := by
    simpa [List.find?_eq_none] using h
  constructor
  · rw [statusOf, statusOf, Loop.findRev?_append, hnone, Option.none_or]
  · rw [statusOf, hnone, Option.map_none, Option.getD_none]

-- What came before matters only for a workshop that the last part does not mention.
theorem statusOf_append_eq_iff :
    statusOf (first ++ last) wkID = statusOf last wkID ↔
      (∃ inscripcion ∈ last, inscripcion.wkID = wkID) ∨ statusOf first wkID = "" := by
  by_cases h : ∃ inscripcion ∈ last, inscripcion.wkID = wkID
  · simp only [statusOf_append_of_mem first last wkID h, h, true_or]
  · obtain ⟨happend, hempty⟩ := statusOf_append_of_notMem first last wkID h
    rw [happend, hempty]
    simp only [h, false_or]

end StatusOf

-- The state between two loads.
structure Settled (loads : List Load) (state : State) : Prop where
  talleres : state.talleres.length = loads.length
  inscripciones : state.inscripciones.length = loads.length
  collected : state.screen.inscripciones = loads.flatMap Load.answer

-- One load: the array is new, and the merge replays everything collected so far.
theorem run_load {state next : State} {load : Load} {number : ℕ}
    (hrun : Transition.run step state (load.events number) = some next) :
    next.talleres.length = state.talleres.length + 1 ∧
      next.inscripciones.length = state.inscripciones.length + 1 ∧
      next.screen.inscripciones = state.screen.inscripciones ++ load.answer ∧
      ∃ workshops, load.talleres.mapM workshopOf = some workshops ∧
        next.screen.workshopArr.map (·.workshop) = workshops.map fun workshop =>
          { workshop with status := statusOf next.screen.inscripciones workshop.wkID } := by
  simp only [Load.events, Transition.run_cons, Transition.run_nil, Option.bind_eq_some_iff,
    Option.some.injEq] at hrun
  obtain ⟨shown, hshown, filled, hfilled, merged, hmerged, rfl⟩ := hrun
  cases hshown
  cases Step.of_step hfilled with
  | talleres hopen hscreen =>
      obtain ⟨workshops, hworkshops, rfl⟩ := (getWorkshops_ok _).mp hscreen
      cases Step.of_step hmerged with
      | inscripciones hopen' hscreen' =>
          obtain ⟨inscripciones, hinscripciones, rfl⟩ := (getStatus_ok _).mp hscreen'
          have hanswer : load.answer = inscripciones := by
            rw [Load.answer, hinscripciones, Option.getD_some]
          refine ⟨by simp, by simp [followUp], ?_, workshops, hworkshops, ?_⟩
          · rw [hanswer]
            simp [mergeStatus, reloadTableView, viewWillAppear]
          · apply mergeStatus_workshops
            · exact foldl_appendWorkshop_loaded state.screen.viewWillAppear workshops
            · -- the objects were loaded a moment ago, without a status
              intro workshop hw
              obtain ⟨document, _, hd⟩ := Loop.mapM_eq_some_mem hworkshops hw
              exact workshopOf_status hd

theorem settled_run {user : User} {loads : List Load} {final : State}
    (hrun : Transition.run step (start user) (eventsOf loads) = some final) :
    Settled loads final := by
  induction loads using List.reverseRecOn generalizing final with
  | nil =>
      cases hrun
      exact ⟨rfl, rfl, rfl⟩
  | append_singleton loads load ih =>
      rw [eventsOf_concat, Transition.run_append, Option.bind_eq_some_iff] at hrun
      obtain ⟨middle, hbefore, hload⟩ := hrun
      have hsettled := ih hbefore
      obtain ⟨htalleres, hinscripciones, hcollected, _⟩ := run_load hload
      refine ⟨?_, ?_, ?_⟩
      · simp [htalleres, hsettled.talleres]
      · simp [hinscripciones, hsettled.inscripciones]
      · simp [hcollected, hsettled.collected]

-- After a load every workshop has the status of that load's answer, exactly when each
-- workshop the answer leaves out has no earlier status to fall back on.
theorem status_of_load_iff (user : User) (earlier : List Load) (load : Load) (final : State)
    (hrun : Transition.run step (start user) (eventsOf (earlier ++ [load])) = some final) :
    (∀ object ∈ final.screen.workshopArr,
        object.workshop.status = statusOf load.answer object.workshop.wkID) ↔
      ∀ document ∈ load.talleres,
        (∃ inscripcion ∈ load.answer, inscripcion.wkID = document.documentID) ∨
          statusOf (earlier.flatMap Load.answer) document.documentID = "" := by
  rw [eventsOf_concat, Transition.run_append, Option.bind_eq_some_iff] at hrun
  obtain ⟨middle, hbefore, hload⟩ := hrun
  obtain ⟨_, _, hcollected, workshops, hworkshops, harr⟩ := run_load hload
  rw [hcollected, (settled_run hbefore).collected] at harr
  have hids : workshops.map (·.wkID) = load.talleres.map (·.documentID) :=
    Loop.mapM_eq_some_map (fun _ _ h => (workshopOf_eq_some h).1) hworkshops
  have hobjects : (∀ object ∈ final.screen.workshopArr,
      object.workshop.status = statusOf load.answer object.workshop.wkID) ↔
        ∀ workshop ∈ final.screen.workshopArr.map (·.workshop),
          workshop.status = statusOf load.answer workshop.wkID := by
    rw [List.forall_mem_map]
  have hdocuments : ∀ P : String → Prop,
      (∀ workshop ∈ workshops, P workshop.wkID) ↔
        ∀ document ∈ load.talleres, P document.documentID := by
    intro P
    have hmap : (∀ id ∈ workshops.map (·.wkID), P id) ↔
        ∀ id ∈ load.talleres.map (·.documentID), P id := by rw [hids]
    rwa [List.forall_mem_map, List.forall_mem_map] at hmap
  rw [hobjects, harr, List.forall_mem_map]
  simp only [statusOf_append_eq_iff]
  exact hdocuments fun id => (∃ inscripcion ∈ load.answer, inscripcion.wkID = id) ∨
    statusOf (earlier.flatMap Load.answer) id = ""

private def elena : User :=
  { nombre := "Elena", email := "elena@tec.mx", matricula := "A05", campus := "MTY",
    rol := "Alumno" }

private def emocionesDocument : Document :=
  ⟨"1", [("titulo", .string "Mis Emociones"), ("descripcion", .string ""),
    ("requerimientos", .array []), ("wkDate", .array [.timestamp ⟨0⟩, .timestamp ⟨5⟩])]⟩

private def inscrita (status : String) : Document :=
  ⟨"d1", [("tallerTitle", .string "Mis Emociones"), ("Date", .timestamp ⟨0⟩),
    ("tallerID", .string "1"), ("campusID", .string "MTY"), ("matricula", .string "A05"),
    ("status", .string status)]⟩

theorem status_of_load_iff_changed :
    ∃ final, Transition.run step (start elena) (eventsOf
        ([⟨[emocionesDocument], [inscrita "En Proceso"]⟩] ++
          [⟨[emocionesDocument], [inscrita "Aprobado"]⟩])) = some final ∧
      ((∀ object ∈ final.screen.workshopArr, object.workshop.status =
          statusOf (Load.answer ⟨[emocionesDocument], [inscrita "Aprobado"]⟩)
            object.workshop.wkID) ↔
        ∀ document ∈ [emocionesDocument],
          (∃ inscripcion ∈ Load.answer ⟨[emocionesDocument], [inscrita "Aprobado"]⟩,
            inscripcion.wkID = document.documentID) ∨
          statusOf (List.flatMap Load.answer
            [⟨[emocionesDocument], [inscrita "En Proceso"]⟩]) document.documentID = "") :=
  ⟨_, rfl, status_of_load_iff elena [⟨[emocionesDocument], [inscrita "En Proceso"]⟩]
    ⟨[emocionesDocument], [inscrita "Aprobado"]⟩ _ rfl⟩

-- The document is deleted between two loads, and its status stays.
theorem status_of_load_ne_deleted :
    ¬∀ (user : User) (earlier : List Load) (load : Load) (final : State),
      Transition.run step (start user) (eventsOf (earlier ++ [load])) = some final →
      ∀ object ∈ final.screen.workshopArr,
        object.workshop.status = statusOf load.answer object.workshop.wkID := by
  intro h
  have hstatus := h elena [⟨[emocionesDocument], [inscrita "En Proceso"]⟩]
    ⟨[emocionesDocument], []⟩ _ rfl
  exact absurd hstatus (by decide)

end AppPrepanet.Talleres
