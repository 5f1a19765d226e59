import AppPrepanet.ViewControllerWorkshop

namespace AppPrepanet.ViewControllerWorkshop

open Firestore

-- The casts of the reader, field by field.
theorem inscripcionOf_eq_some_iff {document : Document} {inscripcion : Inscripcion} :
    inscripcionOf document = some inscripcion ↔
      document.string "tallerID" = some inscripcion.wkID ∧
      document.string "tallerTitle" = some inscripcion.wkTitle ∧
      document.string "campusID" = some inscripcion.campusID ∧
      document.string "matricula" = some inscripcion.matriculaAlum ∧
      document.string "status" = some inscripcion.status ∧
      document.timestamp "Date" = some ⟨inscripcion.date⟩ := by
  simp only [inscripcionOf, Option.bind_eq_bind, Option.bind_eq_some_iff, Option.pure_def,
    Option.some.injEq]
  constructor
  · rintro ⟨_, h₁, _, h₂, _, h₃, _, h₄, _, h₅, _, h₆, rfl⟩
    exact ⟨h₁, h₂, h₃, h₄, h₅, h₆⟩
  · rintro ⟨h₁, h₂, h₃, h₄, h₅, h₆⟩
    exact ⟨_, h₁, _, h₂, _, h₃, _, h₄, _, h₅, _, h₆, rfl⟩

-- The enrolment that `enrollStudent` writes, as the readers see it.
def enrolment (screen : ViewControllerWorkshop) (status : String) : Inscripcion where
  wkTitle := screen.workshop.title
  wkID := screen.workshop.wkID
  campusID := screen.user.campus
  matriculaAlum := screen.user.matricula
  status := status
  date := screen.workshop.startDate

theorem inscripcionOf_enrollData (screen : ViewControllerWorkshop) (documentID : String) :
    inscripcionOf ⟨documentID, screen.enrollData⟩ = some (screen.enrolment "En Proceso") := by
  rw [inscripcionOf_eq_some_iff]
  simp [enrollData, enrolment, Document.string, Document.timestamp, Document.get, List.lookup_cons,
    FieldValue.string, FieldValue.timestamp, Scalar.asString, Scalar.asTimestamp]

theorem inscripcionOf_setStatus {document : Document} {inscripcion : Inscripcion}
    (h : inscripcionOf document = some inscripcion) (status : String) :
    inscripcionOf (document.setField "status" (.string status)) =
      some { inscripcion with status := status } := by
  rw [inscripcionOf_eq_some_iff] at h ⊢
  simp only [Document.string_setField_same, document.string_setField_other, ne_eq,
    document.timestamp_setField_other, String.reduceEq, not_false_eq_true]
  exact ⟨h.1, h.2.1, h.2.2.1, h.2.2.2.1, trivial, h.2.2.2.2.2⟩

end AppPrepanet.ViewControllerWorkshop
