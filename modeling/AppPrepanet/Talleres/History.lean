import AppPrepanet.TableViewControllerAWorkshop.Merge
import AppPrepanet.Talleres

namespace AppPrepanet.Talleres

open Firestore TableViewControllerAWorkshop

-- What the answers have told the list: every inscripcion there ever was, the workshops that
-- the last of these answers found in the list, and those that came later.
structure Known where
  read : List Inscripcion := []
  merged : List Workshop := []
  fresh : List Workshop := []

-- A screen has nothing but `""` for a workshop until it hears of it.
def Known.shown (known : Known) : List Workshop :=
  known.merged.map (fun workshop =>
    { workshop with status := statusOf known.read workshop.wkID }) ++ known.fresh

def readWorkshops (documents : List Document) : List Workshop :=
  (documents.mapM workshopOf).getD []

def readInscripciones (documents : List Document) : List Inscripcion :=
  (documents.mapM inscripcionOf).getD []

-- Only appearances and answers matter. An appearance forgets the workshops, not the
-- inscripciones.
def record (known : Known) : Event → Known
  | .viewWillAppear => { known with merged := [], fresh := [] }
  | .talleres _ (.ok documents) => { known with fresh := known.fresh ++ readWorkshops documents }
  | .inscripciones _ (.ok documents) =>
      { read := known.read ++ readInscripciones documents
        merged := known.merged ++ known.fresh
        fresh := [] }
  | .talleres _ (.error _) | .inscripciones _ (.error _) => known
  | .cellForRowAt _ _ | .select _ => known

def history (events : List Event) : Known := events.foldl record {}

-- The screen and what it has been told.
structure Follows (state : State) (known : Known) : Prop where
  read : state.screen.inscripciones = known.read
  shown : state.screen.workshopArr.map (·.workshop) = known.shown
  merged : ∀ workshop ∈ known.merged, workshop.status = ""
  fresh : ∀ workshop ∈ known.fresh, workshop.status = ""

-- Going through all inscripciones again gives what going through them once does: a status that
-- is not overwritten was none.
theorem getD_statusOf (first last : List Inscripcion) (wkID : String) :
    (((first ++ last).findRev? fun inscripcion => inscripcion.wkID = wkID).map
      (·.status)).getD (statusOf first wkID) = statusOf (first ++ last) wkID := by
  cases hfound : (first ++ last).findRev? fun inscripcion => inscripcion.wkID = wkID with
  | some inscripcion =>
      have hlast : statusOf (first ++ last) wkID = inscripcion.status := by
        rw [statusOf, hfound]
        rfl
      rw [hlast, Option.map_some, Option.getD_some]
  | none =>
      rw [Loop.findRev?_append, Option.or_eq_none_iff] at hfound
      rw [statusOf, statusOf, Loop.findRev?_append, hfound.1, hfound.2]
      rfl

section Follows

variable {state : State} {known : Known}

theorem Follows.talleres (h : Follows state known) {result : QueryResult}
    {screen : TableViewControllerAWorkshop}
    (hscreen : state.screen.getWorkshops result = some screen) (query : ℕ) (next : State)
    (hnext : next.screen = screen) : Follows next (record known (.talleres query result)) := by
  cases result with
  | error err =>
      cases hscreen
      exact ⟨hnext ▸ h.read, hnext ▸ h.shown, h.merged, h.fresh⟩
  | ok documents =>
      obtain ⟨workshops, hm, rfl⟩ := (getWorkshops_ok _).mp hscreen
      have hread : readWorkshops documents = workshops := by
        rw [readWorkshops, hm, Option.getD_some]
      refine ⟨?_, ?_, h.merged, fun workshop hw => ?_⟩
      · rw [hnext]
        exact (foldl_appendWorkshop_inscripciones state.screen workshops).trans h.read
      · have hloaded := foldl_appendWorkshop_loaded state.screen workshops
        rw [hnext]
        simp only [record, Known.shown, hread, ← List.append_assoc]
        rw [← Known.shown, ← h.shown]
        exact hloaded
      · rcases List.mem_append.mp hw with hw | hw
        · exact h.fresh workshop hw
        · rw [hread] at hw
          obtain ⟨document, _, hd⟩ := Loop.mapM_eq_some_mem hm hw
          exact workshopOf_status hd

-- After the merge all workshops have been heard of.
theorem Follows.inscripciones (h : Follows state known) {result : QueryResult}
    {screen : TableViewControllerAWorkshop}
    (hscreen : state.screen.getStatus result = some screen) (query : ℕ) (next : State)
    (hnext : next.screen = screen) :
    Follows next (record known (.inscripciones query result)) := by
  cases result with
  | error err =>
      cases hscreen
      exact ⟨hnext ▸ h.read, hnext ▸ h.shown, h.merged, h.fresh⟩
  | ok documents =>
      obtain ⟨inscripciones, hm, rfl⟩ := (getStatus_ok _).mp hscreen
      have hread : readInscripciones documents = inscripciones := by
        rw [readInscripciones, hm, Option.getD_some]
      have hmerged : ∀ workshop ∈ known.merged ++ known.fresh, workshop.status = "" := by
        intro workshop hw
        rcases List.mem_append.mp hw with hw | hw
        · exact h.merged workshop hw
        · exact h.fresh workshop hw
      refine ⟨?_, ?_, hmerged, by simp [record]⟩
      · rw [hnext]
        show state.screen.inscripciones ++ inscripciones = known.read ++ readInscripciones documents
        rw [h.read, hread]
      · -- seen from the workshops, the merge is one pass over those that were shown
        let update : Workshop → Workshop := fun workshop =>
          { workshop with
            status := (((known.read ++ inscripciones).findRev? fun inscripcion =>
              inscripcion.wkID = workshop.wkID).map (·.status)).getD workshop.status }
        have hupdate : next.screen.workshopArr.map (·.workshop) = known.shown.map update := by
          rw [hnext, mergeStatus_workshopArr, List.map_map, ← h.shown, List.map_map]
          apply List.map_congr_left
          intro object _
          show (setStatus object _).workshop = update object.workshop
          simp only [update, ← h.read]
          rfl
        rw [hupdate, Known.shown, List.map_append, List.map_map]
        simp only [record, Known.shown, hread, List.map_append, List.append_nil]
        congr 1
        · apply List.map_congr_left
          intro workshop _
          simp only [Function.comp_apply, update, getD_statusOf]
        · apply List.map_congr_left
          intro workshop hw
          simp only [update, h.fresh workshop hw]
          rfl

theorem Follows.step (h : Follows state known) {event : Event} {next : State}
    (hstep : Step state event next) : Follows next (record known event) := by
  cases hstep with
  | viewWillAppear => exact ⟨h.read, rfl, by simp [record], by simp [record]⟩
  | talleres hopen hscreen => exact h.talleres hscreen _ _ rfl
  | inscripciones hopen hscreen => exact h.inscripciones hscreen _ _ rfl
  | cellForRowAt _ _ | select _ _ => exact h

end Follows

-- Through overlapping loads, errors and answers out of order, the list is what the answers have
-- told: the loop that writes statuses into the workshops over and over comes to looking each
-- workshop up once among all inscripciones, those of earlier appearances included; workshops
-- that came after the last of them have no status.
theorem list_refines (user : User) (events : List Event) (final : State)
    (hrun : Transition.run step (start user) events = some final) :
    final.screen.inscripciones = (history events).read ∧
      final.screen.workshopArr.map (·.workshop) = (history events).shown := by
  have hstep : ∀ state known event next, Follows state known → step state event = some next →
      Follows next (record known event) := fun _ _ _ _ h hnext => h.step (Step.of_step hnext)
  have hstart : Follows (start user) {} := ⟨rfl, rfl, by simp, by simp⟩
  have hfollows : Follows final (history events) := Transition.run_refines hstep hstart hrun
  exact ⟨hfollows.read, hfollows.shown⟩

private def erika : User :=
  { nombre := "Erika", email := "erika@tec.mx", matricula := "A44", campus := "MTY",
    rol := "Alumno" }

private def oferta (documentID : String) : Document :=
  ⟨documentID, [("titulo", .string ("Taller " ++ documentID)), ("descripcion", .string ""),
    ("requerimientos", .array []), ("wkDate", .array [.timestamp ⟨0⟩, .timestamp ⟨5⟩])]⟩

private def aprobada : Document :=
  ⟨"d1", [("tallerTitle", .string "Taller 1"), ("tallerID", .string "1"),
    ("campusID", .string "MTY"), ("matricula", .string "A44"), ("status", .string "Aprobado"),
    ("Date", .timestamp ⟨0⟩)]⟩

-- The second load comes after the only statuses.
private def sinEstados : List Event :=
  [.viewWillAppear, .viewWillAppear, .talleres 1 (.ok [oferta "1"]),
    .inscripciones 0 (.ok [aprobada]), .talleres 0 (.ok [oferta "1", oferta "2"])]

theorem list_refines_sinEstados :
    ∃ final, Transition.run step (start erika) sinEstados = some final ∧
      (history sinEstados).shown.map (·.status) = ["Aprobado", "", ""] ∧
      final.screen.inscripciones = (history sinEstados).read ∧
      final.screen.workshopArr.map (·.workshop) = (history sinEstados).shown :=
  ⟨_, rfl, by decide, list_refines erika sinEstados _ rfl⟩

end AppPrepanet.Talleres
