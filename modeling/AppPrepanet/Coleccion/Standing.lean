import AppPrepanet.Coleccion.Screens
import AppPrepanet.Inscripciones.Unique
import AppPrepanet.ViewControllerWorkshop.Estado

namespace AppPrepanet.Coleccion

open Firestore Inscripciones ViewControllerWorkshop

-- The statuses that are stored for a workshop, in the order of the documents.
def statuses (documents : List Document) (tallerID : String) : List String :=
  (documents.filter (·.fieldIs "tallerID" tallerID)).filterMap (·.string "status")

-- How the student stands in a workshop, as far as the collection knows.
def standing (state : State) (tallerID : String) : Option String :=
  (statuses state.matching tallerID).head?

section Statuses

variable {documents answer : List Document} {tallerID : String}

theorem statuses_cons (document : Document) :
    statuses (document :: documents) tallerID =
      statuses [document] tallerID ++ statuses documents tallerID := by
  by_cases hid : document.fieldIs "tallerID" tallerID = true
  · simp [statuses, hid, List.filterMap_cons]
    cases document.string "status" <;> rfl
  · simp [statuses, hid]

-- A reader that takes the identifier and the status from the document finds these statuses.
theorem statuses_of_mapM {read : Document → Option Inscripcion}
    (hread : ∀ document inscripcion, read document = some inscripcion →
      document.string "tallerID" = some inscripcion.wkID ∧
        document.string "status" = some inscripcion.status)
    {inscripciones : List Inscripcion} (hm : documents.mapM read = some inscripciones) :
    (inscripciones.filter fun inscripcion => inscripcion.wkID = tallerID).map (·.status) =
      statuses documents tallerID := by
  induction documents generalizing inscripciones with
  | nil =>
      cases hm
      rfl
  | cons document rest ih =>
      simp only [List.mapM_cons, Option.bind_eq_bind, Option.bind_eq_some_iff, Option.pure_def,
        Option.some.injEq] at hm
      obtain ⟨inscripcion, hd, tail, ht, rfl⟩ := hm
      obtain ⟨hid, hstatus⟩ := hread document inscripcion hd
      have hfield :
          document.fieldIs "tallerID" tallerID = decide (inscripcion.wkID = tallerID) := by
        rw [Bool.eq_iff_iff, document.fieldIs_iff, hid]
        simp
      rw [statuses_cons, ← ih ht]
      by_cases hmatch : inscripcion.wkID = tallerID
      · simp [statuses, hfield, hmatch, hstatus]
      · simp [statuses, hfield, hmatch]

-- Where at most one status is stored, the order of an answer does not matter.
theorem statuses_eq_of_perm (hanswer : answer.Perm documents)
    (hone : (statuses documents tallerID).length ≤ 1) :
    statuses answer tallerID = (statuses documents tallerID).head?.toList := by
  have hperm : (statuses answer tallerID).Perm (statuses documents tallerID) :=
    (hanswer.filter _).filterMap _
  match hstored : statuses documents tallerID with
  | [] =>
      rw [hstored] at hperm
      exact hperm.eq_nil
  | [status] =>
      rw [hstored] at hperm
      exact hperm.eq_singleton
  | _ :: _ :: _ =>
      rw [hstored] at hone
      simp at hone

theorem length_statuses_le (matricula : String) (hunique : Unique documents) :
    (statuses (documents.filter (·.fieldIs "matricula" matricula)) tallerID).length ≤ 1 := by
  have hcount := hunique matricula tallerID
  have hfilter : (documents.filter (·.fieldIs "matricula" matricula)).filter
      (·.fieldIs "tallerID" tallerID) = documents.filter (hasKey matricula tallerID) := by
    rw [List.filter_filter]
    apply List.filter_congr
    intro document _
    rw [hasKey, Bool.and_comm]
  rw [statuses, hfilter]
  rw [List.countP_eq_length_filter] at hcount
  exact Nat.le_trans (List.length_filterMap_le _ _) hcount

end Statuses

section Readers

variable {documents : List Document} {inscripciones : List Inscripcion} {tallerID : String}

-- The last status that a loop finds is the last of those statuses.
theorem findRev?_eq_getLast? (inscripciones : List Inscripcion) (tallerID : String) :
    (inscripciones.findRev? fun inscripcion => inscripcion.wkID = tallerID).map (·.status) =
      ((inscripciones.filter fun inscripcion =>
        inscripcion.wkID = tallerID).map (·.status)).getLast? := by
  rw [List.findRev?_eq_find?_reverse, List.getLast?_map, List.getLast?_filter]

theorem detail_statuses (hm : documents.mapM ViewControllerWorkshop.inscripcionOf =
      some inscripciones) :
    (inscripciones.filter fun inscripcion => inscripcion.wkID = tallerID).map (·.status) =
      statuses documents tallerID := by
  refine statuses_of_mapM (fun document inscripcion h => ?_) hm
  obtain ⟨hid, _, _, _, hstatus, _⟩ := inscripcionOf_eq_some_iff.mp h
  exact ⟨hid, hstatus⟩

theorem perfil_statuses (hm : documents.mapM ViewControllerPerfil.inscripcionOf =
      some inscripciones) :
    (inscripciones.filter fun inscripcion => inscripcion.wkID = tallerID).map (·.status) =
      statuses documents tallerID := by
  refine statuses_of_mapM (fun document inscripcion h => ?_) hm
  simp only [ViewControllerPerfil.inscripcionOf, Option.bind_eq_bind, Option.bind_eq_some_iff,
    Option.pure_def, Option.some.injEq] at h
  obtain ⟨_, _, _, hid, _, _, _, _, _, hstatus, _, _, rfl⟩ := h
  exact ⟨hid, hstatus⟩

theorem list_statuses (hm : documents.mapM TableViewControllerAWorkshop.inscripcionOf =
      some inscripciones) :
    (inscripciones.filter fun inscripcion => inscripcion.wkID = tallerID).map (·.status) =
      statuses documents tallerID := by
  refine statuses_of_mapM (fun document inscripcion h => ?_) hm
  simp only [TableViewControllerAWorkshop.inscripcionOf, Option.bind_eq_bind,
    Option.bind_eq_some_iff, Option.pure_def, Option.some.injEq] at h
  obtain ⟨_, hid, _, _, _, _, _, hstatus, _, _, rfl⟩ := h
  exact ⟨hid, hstatus⟩

end Readers

section Views

variable {final : State} {answer : List Document}

-- What the callbacks find in an answer, when every key is stored once only.
theorem statuses_answer (hunique : Unique final.collection) (hanswer : answer.Perm final.matching)
    (tallerID : String) : statuses answer tallerID = (standing final tallerID).toList :=
  statuses_eq_of_perm hanswer (length_statuses_le final.student.matricula hunique)

theorem getLast?_answer (hunique : Unique final.collection)
    (hanswer : answer.Perm final.matching) (tallerID : String) :
    (statuses answer tallerID).getLast? = standing final tallerID := by
  rw [statuses_answer hunique hanswer]
  cases standing final tallerID <;> rfl

theorem list_standing (hunique : Unique final.collection) (hanswer : answer.Perm final.matching)
    {inscripciones : List Inscripcion}
    (hm : answer.mapM TableViewControllerAWorkshop.inscripcionOf = some inscripciones)
    (screen : TableViewControllerAWorkshop) (hnone : screen.inscripciones = [])
    (hfresh : ∀ object ∈ screen.workshopArr, object.workshop.status = "") :
    ∃ next, screen.getStatus (.ok answer) = some next ∧
      next.workshopArr.map (·.workshop) = screen.workshopArr.map fun object =>
        { object.workshop with
          status := (standing final object.workshop.wkID).getD "" } := by
  let asked := TableViewControllerAWorkshop.reloadTableView
    { screen with inscripciones := screen.inscripciones ++ inscripciones }
  refine ⟨asked.mergeStatus, screen.getStatus_ok.mpr ⟨inscripciones, hm, rfl⟩, ?_⟩
  rw [asked.mergeStatus_fresh hfresh, List.map_map]
  apply List.map_congr_left
  intro object _
  have hlast := findRev?_eq_getLast? inscripciones object.workshop.wkID
  rw [list_statuses hm, getLast?_answer hunique hanswer] at hlast
  simp only [Function.comp_apply, TableViewControllerAWorkshop.setStatus, statusOf, asked,
    TableViewControllerAWorkshop.reloadTableView, hnone, List.nil_append, hlast]

theorem detail_standing (hunique : Unique final.collection)
    (hanswer : answer.Perm final.matching) {inscripciones : List Inscripcion}
    (hm : answer.mapM ViewControllerWorkshop.inscripcionOf = some inscripciones)
    (workshop : Workshop) (user : User) :
    ∃ next, (storyboard workshop user).viewDidLoad.getEnrollmentStatus (.ok answer) = some next ∧
      next.lbDescEstado.text = (standing final workshop.wkID).getD "No Inscrito" := by
  let opened := (storyboard workshop user).viewDidLoad
  have hopened : opened.workshop = workshop ∧ opened.inscripciones = [] ∧
      opened.lbDescEstado.text = "No Inscrito" := by
    by_cases hrol : user.rol = "Coord" <;>
      simp [opened, ViewControllerWorkshop.viewDidLoad, reloadTableView, storyboard, hrol]
  obtain ⟨hworkshop, hnone, htext⟩ := hopened
  refine ⟨_, opened.getEnrollmentStatus_ok.mpr ⟨inscripciones, hm, rfl⟩, ?_⟩
  have hlast := findRev?_eq_getLast? inscripciones workshop.wkID
  rw [detail_statuses hm, getLast?_answer hunique hanswer] at hlast
  simp only [fetchCompletion_text, lastStatus, hworkshop, hnone, htext, List.nil_append, hlast]

theorem perfil_standing (hunique : Unique final.collection)
    (hanswer : answer.Perm final.matching) {inscripciones : List Inscripcion}
    (hm : answer.mapM ViewControllerPerfil.inscripcionOf = some inscripciones)
    (screen : ViewControllerPerfil) (hnone : screen.inscripciones = []) :
    ∃ next, screen.getEnrollmentStatus (.ok answer) = some next ∧
      ∀ tallerID, (next.inscripciones.filter fun inscripcion =>
        inscripcion.wkID = tallerID).map (·.status) = (standing final tallerID).toList := by
  refine ⟨_, screen.getEnrollmentStatus_ok.mpr ⟨inscripciones, hm, rfl⟩, fun tallerID => ?_⟩
  rw [hnone, List.nil_append, perfil_statuses hm, statuses_answer hunique hanswer]

end Views

private def rita : User :=
  { nombre := "Rita", email := "rita@tec.mx", matricula := "A17", campus := "MTY",
    rol := "Alumno" }

private def taller (wkID : String) : Workshop :=
  { wkID := wkID, title := "Taller " ++ wkID, descr := "", req := [], startDate := 0,
    endDate := 5 }

private def dosInscripciones : List Inscripciones.Event :=
  [.openScreen (taller "1"), .openScreen (taller "2"), .read 0 [] [], .deliver 0,
    .read 1 [] [], .deliver 1, .tap 1, .tap 0, .store 0 "d1", .store 1 "d2", .completed 1,
    .setStatus "d1" "Inscrito"]

end AppPrepanet.Coleccion
