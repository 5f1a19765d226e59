import AppPrepanet.TableViewControllerAWorkshop

namespace AppPrepanet

-- The object as it was loaded, before any status.
def WorkshopObject.loaded (object : WorkshopObject) : Workshop :=
  { object.workshop with status := "" }

-- What no merge changes: which object it is, and everything but its status.
def WorkshopObject.identity (object : WorkshopObject) : ℕ × Workshop := (object.ref, object.loaded)

namespace TableViewControllerAWorkshop

open Firestore

variable (screen : TableViewControllerAWorkshop)

section Merge

@[simp] theorem applyStatus_identity (workshopArr : List WorkshopObject)
    (inscripcion : Inscripcion) :
    (applyStatus workshopArr inscripcion).map (·.identity) = workshopArr.map (·.identity) := by
  simp only [applyStatus, List.map_map]
  apply List.map_congr_left
  intro object _
  simp only [Function.comp_apply]
  split_ifs <;> rfl

@[simp] theorem mergeStatus_identity :
    screen.mergeStatus.workshopArr.map (·.identity) = screen.workshopArr.map (·.identity) :=
  Loop.foldl_frame applyStatus (List.map (·.identity)) applyStatus_identity _ _

def setStatus (object : WorkshopObject) (status : String) : WorkshopObject :=
  { object with workshop.status := status }

-- Each workshop ends with the status of the last inscripcion that has its identifier.
theorem mergeStatus_workshopArr :
    screen.mergeStatus.workshopArr = screen.workshopArr.map fun object =>
      setStatus object (((screen.inscripciones.findRev? fun inscripcion =>
        inscripcion.wkID = object.workshop.wkID).map (·.status)).getD object.workshop.status) := by
  unfold mergeStatus applyStatus
  rw [Loop.foldl_map_comm (fun (inscripcion : Inscripcion) (object : WorkshopObject) =>
    if inscripcion.wkID = object.workshop.wkID then
      { object with workshop.status := inscripcion.status } else object)]
  apply List.map_congr_left
  intro object _
  -- The merge seen from one object: its identifier stays, its status is overwritten.
  have hloop := Loop.foldl_overwrite_field (·.workshop.status) setStatus
    (fun (object : WorkshopObject) (inscripcion : Inscripcion) =>
      decide (inscripcion.wkID = object.workshop.wkID))
    (·.status) (fun _ => rfl) (fun _ _ _ => rfl) (fun _ _ _ => rfl) object screen.inscripciones
  simp only [decide_eq_true_eq] at hloop
  exact hloop

-- Where nothing had a status yet, that is `statusOf`.
theorem mergeStatus_fresh (h : ∀ object ∈ screen.workshopArr, object.workshop.status = "") :
    screen.mergeStatus.workshopArr = screen.workshopArr.map fun object =>
      setStatus object (statusOf screen.inscripciones object.workshop.wkID) := by
  rw [mergeStatus_workshopArr]
  apply List.map_congr_left
  intro object ho
  rw [h object ho, statusOf]

-- The same, seen from the workshops.
theorem mergeStatus_workshops {workshops : List Workshop}
    (harr : screen.workshopArr.map (·.workshop) = workshops)
    (hstatus : ∀ workshop ∈ workshops, workshop.status = "") :
    screen.mergeStatus.workshopArr.map (·.workshop) = workshops.map fun workshop =>
      { workshop with status := statusOf screen.inscripciones workshop.wkID } := by
  have hfresh : ∀ object ∈ screen.workshopArr, object.workshop.status = "" :=
    fun object ho => hstatus object.workshop (harr ▸ List.mem_map_of_mem ho)
  rw [mergeStatus_fresh screen hfresh, ← harr, List.map_map, List.map_map]
  rfl

end Merge

section Callbacks

theorem foldl_appendWorkshop_loaded (workshops : List Workshop) :
    (workshops.foldl appendWorkshop screen).workshopArr.map (·.workshop) =
      screen.workshopArr.map (·.workshop) ++ workshops := by
  induction workshops generalizing screen with
  | nil => simp
  | cons workshop rest ih => simp [ih, appendWorkshop]

@[simp] theorem foldl_appendWorkshop_user (workshops : List Workshop) :
    (workshops.foldl appendWorkshop screen).user = screen.user :=
  Loop.foldl_frame appendWorkshop (·.user) (fun _ _ => rfl) _ _

@[simp] theorem foldl_appendWorkshop_inscripciones (workshops : List Workshop) :
    (workshops.foldl appendWorkshop screen).inscripciones = screen.inscripciones :=
  Loop.foldl_frame appendWorkshop (·.inscripciones) (fun _ _ => rfl) _ _

theorem getWorkshops_ok {documents : List Document} {next : TableViewControllerAWorkshop} :
    screen.getWorkshops (.ok documents) = some next ↔
      ∃ workshops, documents.mapM workshopOf = some workshops ∧
        next = (workshops.foldl appendWorkshop screen).reloadTableView := by
  simp only [getWorkshops, Loop.foldlM_decode, Option.bind_eq_bind, Option.bind_eq_some_iff,
    Option.map_eq_some_iff, Option.pure_def, Option.some.injEq]
  constructor
  · rintro ⟨_, ⟨workshops, h, rfl⟩, rfl⟩
    exact ⟨workshops, h, rfl⟩
  · rintro ⟨workshops, h, rfl⟩
    exact ⟨_, ⟨workshops, h, rfl⟩, rfl⟩

theorem getStatus_ok {documents : List Document} {next : TableViewControllerAWorkshop} :
    screen.getStatus (.ok documents) = some next ↔
      ∃ inscripciones, documents.mapM inscripcionOf = some inscripciones ∧
        next = mergeStatus (reloadTableView
          { screen with inscripciones := screen.inscripciones ++ inscripciones }) := by
  simp only [getStatus, Loop.foldlM_append, Option.bind_eq_bind, Option.bind_eq_some_iff,
    Option.map_eq_some_iff, Option.pure_def, Option.some.injEq]
  constructor
  · rintro ⟨_, ⟨inscripciones, h, rfl⟩, rfl⟩
    exact ⟨inscripciones, h, rfl⟩
  · rintro ⟨inscripciones, h, rfl⟩
    exact ⟨_, ⟨inscripciones, h, rfl⟩, rfl⟩

theorem workshopOf_eq_some {document : Document} {workshop : Workshop}
    (h : workshopOf document = some workshop) :
    workshop.wkID = document.documentID ∧ workshop.status = "" ∧
      document.string "titulo" = some workshop.title ∧
      ∃ dates, document.timestamps "wkDate" = some dates ∧
        dates[0]? = some ⟨workshop.startDate⟩ := by
  simp only [workshopOf, Option.bind_eq_bind, Option.bind_eq_some_iff, Option.pure_def,
    Option.some.injEq] at h
  obtain ⟨_, htitulo, _, _, _, _, dates, hdates, start, hstart, _, _, rfl⟩ := h
  exact ⟨rfl, rfl, htitulo, dates, hdates, hstart⟩

theorem workshopOf_status {document : Document} {workshop : Workshop}
    (h : workshopOf document = some workshop) : workshop.status = "" :=
  (workshopOf_eq_some h).2.1

end Callbacks

end TableViewControllerAWorkshop

end AppPrepanet
