import AppPrepanet.Coleccion
import AppPrepanet.TableViewControllerAWorkshop.Merge
import AppPrepanet.ViewControllerPerfil
import Mathlib.Data.List.Perm.Basic

namespace AppPrepanet.Coleccion

open Firestore Inscripciones

-- The document stands for the enrolment.
structure Represents (document : Document) (enrolment : Enrolment) : Prop where
  documentID : document.documentID = enrolment.documentID
  reads : ViewControllerWorkshop.inscripcionOf document = some enrolment.inscripcion

section Represents

variable {document : Document} {enrolment : Enrolment}

theorem represents_enrollData (documentID : String) (screen : ViewControllerWorkshop) :
    Represents ⟨documentID, screen.enrollData⟩
      ⟨documentID, screen.workshop, screen.user, "En Proceso"⟩ :=
  ⟨rfl, screen.inscripcionOf_enrollData documentID⟩

theorem Represents.updateStatus (h : Represents document enrolment) (documentID status : String) :
    Represents (updateStatus documentID status document)
      (if enrolment.documentID = documentID then { enrolment with status := status }
        else enrolment) := by
  unfold Inscripciones.updateStatus
  rw [h.documentID]
  split_ifs
  · exact ⟨h.documentID, ViewControllerWorkshop.inscripcionOf_setStatus h.reads status⟩
  · exact h

theorem Represents.fieldIs (h : Represents document enrolment) (matricula : String) :
    document.fieldIs "matricula" matricula = true ↔ enrolment.isOf matricula = true := by
  obtain ⟨_, _, _, hmatricula, _⟩ := ViewControllerWorkshop.inscripcionOf_eq_some_iff.mp h.reads
  rw [document.fieldIs_iff, hmatricula]
  simp [Enrolment.isOf, Enrolment.inscripcion]

-- The three readers agree on such a document, but for the title that the list leaves out.
theorem Represents.perfil (h : Represents document enrolment) :
    ViewControllerPerfil.inscripcionOf document = some enrolment.inscripcion := by
  obtain ⟨hid, htitle, hcampus, hmatricula, hstatus, hdate⟩ :=
    ViewControllerWorkshop.inscripcionOf_eq_some_iff.mp h.reads
  simp [ViewControllerPerfil.inscripcionOf, hid, htitle, hcampus, hmatricula, hstatus, hdate]

theorem Represents.list (h : Represents document enrolment) :
    TableViewControllerAWorkshop.inscripcionOf document = some enrolment.untitled := by
  obtain ⟨hid, _, hcampus, hmatricula, hstatus, hdate⟩ :=
    ViewControllerWorkshop.inscripcionOf_eq_some_iff.mp h.reads
  simp [TableViewControllerAWorkshop.inscripcionOf, hid, hcampus, hmatricula, hstatus, hdate,
    Enrolment.untitled, Enrolment.inscripcion]

end Represents

-- The collection follows the enrolments, event by event.
theorem step_refines (collection : List Document) (enrolments : List Enrolment) (event : Event)
    (next : List Document) (h : List.Forall₂ Represents collection enrolments)
    (hstep : step collection event = some next) :
    List.Forall₂ Represents next (record enrolments event) := by
  cases event with
  | enrollStudent documentID screen =>
      simp only [step] at hstep
      split_ifs at hstep
      cases hstep
      exact List.rel_append h (.cons (represents_enrollData documentID screen) .nil)
  | setStatus documentID status =>
      cases hstep
      rw [record, List.forall₂_map_left_iff, List.forall₂_map_right_iff]
      exact h.imp fun document enrolment hrep => hrep.updateStatus documentID status

theorem run_represents {events : List Event} {collection : List Document}
    (hrun : Transition.run step [] events = some collection) :
    List.Forall₂ Represents collection (history events) :=
  Transition.run_refines step_refines .nil hrun

-- An answer to the query `matricula = m`, in whatever order it comes.
theorem exists_origins {collection : List Document} {enrolments : List Enrolment}
    (h : List.Forall₂ Represents collection enrolments) {matricula : String}
    {answer : List Document}
    (hanswer : answer.Perm (collection.filter (·.fieldIs "matricula" matricula))) :
    ∃ origins, List.Forall₂ Represents answer origins ∧
      origins.Perm (enrolments.filter (·.isOf matricula)) := by
  have hfilter : List.Forall₂ Represents (collection.filter (·.fieldIs "matricula" matricula))
      (enrolments.filter (·.isOf matricula)) :=
    List.rel_filter (fun _ _ hrep => hrep.fieldIs matricula) h
  exact List.perm_comp_forall₂ hanswer hfilter

section Readers

variable {answer : List Document} {origins : List Enrolment}

theorem list_reads (h : List.Forall₂ Represents answer origins)
    (screen : TableViewControllerAWorkshop) :
    ∃ next, screen.getStatus (.ok answer) = some next ∧
      next.inscripciones = screen.inscripciones ++ origins.map (·.untitled) := by
  have hm := Loop.mapM_of_forall₂ (h.imp fun _ _ hrep => hrep.list)
  exact ⟨_, screen.getStatus_ok.mpr ⟨_, hm, rfl⟩, rfl⟩

theorem perfil_reads (h : List.Forall₂ Represents answer origins)
    (screen : ViewControllerPerfil) :
    ∃ next, screen.getEnrollmentStatus (.ok answer) = some next ∧
      next.inscripciones = screen.inscripciones ++ origins.map (·.inscripcion) := by
  have hm := Loop.mapM_of_forall₂ (h.imp fun _ _ hrep => hrep.perfil)
  simp [ViewControllerPerfil.getEnrollmentStatus, Loop.foldlM_append, hm]

theorem detail_reads (h : List.Forall₂ Represents answer origins)
    (screen : ViewControllerWorkshop) :
    ∃ next, screen.getEnrollmentStatus (.ok answer) = some next ∧
      next.inscripciones = screen.inscripciones ++ origins.map (·.inscripcion) := by
  have hm := Loop.mapM_of_forall₂ (h.imp fun _ _ hrep => hrep.reads)
  exact ⟨_, screen.getEnrollmentStatus_ok.mpr ⟨_, hm, rfl⟩,
    ViewControllerWorkshop.fetchCompletion_inscripciones _⟩

end Readers

-- Every answer is read to its end by all three readers: one inscripcion for each document,
-- in the order of the answer, as it was written and with its present status.
theorem readers_decode (events : List Event) (collection : List Document) (matricula : String)
    (answer : List Document) (hrun : Transition.run step [] events = some collection)
    (hanswer : answer.Perm (collection.filter (·.fieldIs "matricula" matricula))) :
    ∃ origins : List Enrolment,
      origins.Perm ((history events).filter (·.isOf matricula)) ∧
      origins.map (·.documentID) = answer.map (·.documentID) ∧
      (∀ screen : TableViewControllerAWorkshop,
        ∃ next, screen.getStatus (.ok answer) = some next ∧
          next.inscripciones = screen.inscripciones ++ origins.map (·.untitled)) ∧
      (∀ screen : ViewControllerPerfil,
        ∃ next, screen.getEnrollmentStatus (.ok answer) = some next ∧
          next.inscripciones = screen.inscripciones ++ origins.map (·.inscripcion)) ∧
      ∀ screen : ViewControllerWorkshop,
        ∃ next, screen.getEnrollmentStatus (.ok answer) = some next ∧
          next.inscripciones = screen.inscripciones ++ origins.map (·.inscripcion) := by
  obtain ⟨origins, hrep, hperm⟩ := exists_origins (run_represents hrun) hanswer
  refine ⟨origins, hperm, ?_, list_reads hrep, perfil_reads hrep, detail_reads hrep⟩
  have hids : List.Forall₂ (· = ·) (origins.map (·.documentID)) (answer.map (·.documentID)) := by
    rw [List.forall₂_map_left_iff, List.forall₂_map_right_iff]
    exact hrep.flip.imp fun _ _ hr => hr.documentID.symm
  rwa [List.forall₂_eq_eq_eq] at hids

private def detalle (matricula campus : String) : ViewControllerWorkshop :=
  .storyboard
    { wkID := "1", title := "Mis Emociones", descr := "", req := [], startDate := 3, endDate := 5 }
    { nombre := "", email := "", matricula := matricula, campus := campus, rol := "Alumno" }

private def dosAlumnos : List Event :=
  [.enrollStudent "d1" (detalle "A01" "MTY"), .enrollStudent "d2" (detalle "A02" "CEM"),
    .setStatus "d1" "Aprobado"]

theorem readers_decode_dosAlumnos :
    ∃ collection answer, Transition.run step [] dosAlumnos = some collection ∧
      answer = collection.filter (·.fieldIs "matricula" "A01") ∧ answer.length = 1 ∧
      ∃ origins : List Enrolment,
        origins.Perm ((history dosAlumnos).filter (·.isOf "A01")) ∧
        origins.map (·.documentID) = answer.map (·.documentID) ∧
        (∀ screen : TableViewControllerAWorkshop,
          ∃ next, screen.getStatus (.ok answer) = some next ∧
            next.inscripciones = screen.inscripciones ++ origins.map (·.untitled)) ∧
        (∀ screen : ViewControllerPerfil,
          ∃ next, screen.getEnrollmentStatus (.ok answer) = some next ∧
            next.inscripciones = screen.inscripciones ++ origins.map (·.inscripcion)) ∧
        ∀ screen : ViewControllerWorkshop,
          ∃ next, screen.getEnrollmentStatus (.ok answer) = some next ∧
            next.inscripciones = screen.inscripciones ++ origins.map (·.inscripcion) :=
  ⟨_, _, rfl, rfl, by decide, readers_decode dosAlumnos _ "A01" _ rfl (List.Perm.refl _)⟩

end AppPrepanet.Coleccion
