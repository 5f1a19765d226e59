import AppPrepanet.Coleccion
import AppPrepanet.Inscripciones.Steps

namespace AppPrepanet.Coleccion

open Firestore Inscripciones

-- The documents of one student.
def ofStudent (matricula : String) (collection : List Document) : List Document :=
  collection.filter (·.fieldIs "matricula" matricula)

-- The events that are about one student, `documentIDs` being the names of the student's
-- documents.
def concerns (matricula : String) (documentIDs : List String) : Event → Bool
  | .enrollStudent _ screen => screen.user.matricula = matricula
  | .setStatus documentID _ => documentID ∈ documentIDs

section Documents

variable {matricula : String} {collection : List Document}

theorem fieldIs_updateStatus (documentID status : String) (document : Document) :
    (updateStatus documentID status document).fieldIs "matricula" matricula =
      document.fieldIs "matricula" matricula := by
  unfold updateStatus
  split_ifs
  · have hget := document.get_setField_other (.string status)
      (show ("matricula" : String) ≠ "status" by decide)
    simp only [Document.fieldIs, hget]
  · rfl

theorem fieldIs_enrollData (matricula documentID : String) (screen : ViewControllerWorkshop) :
    (⟨documentID, screen.enrollData⟩ : Document).fieldIs "matricula" matricula =
      decide (screen.user.matricula = matricula) := by
  have hget : (⟨documentID, screen.enrollData⟩ : Document).get "matricula" =
      some (.string screen.user.matricula) := by
    rfl
  simp [Document.fieldIs, hget, FieldValue.string]

theorem ofStudent_append_enrollData (documentID : String) (screen : ViewControllerWorkshop) :
    ofStudent matricula (collection ++ [⟨documentID, screen.enrollData⟩]) =
      if screen.user.matricula = matricula then
        ofStudent matricula collection ++ [⟨documentID, screen.enrollData⟩]
      else ofStudent matricula collection := by
  have hfield := fieldIs_enrollData matricula documentID screen
  unfold ofStudent
  split_ifs with hown
  · simp [List.filter_append, hfield, hown]
  · simp [List.filter_append, hfield, hown]

theorem ofStudent_map_updateStatus (documentID status : String) :
    ofStudent matricula (collection.map (updateStatus documentID status)) =
      (ofStudent matricula collection).map (updateStatus documentID status) := by
  unfold ofStudent
  rw [List.filter_map]
  congr 1
  apply List.filter_congr
  intro document _
  exact fieldIs_updateStatus documentID status document

theorem map_updateStatus_of_notMem {documentID : String} (status : String)
    (h : documentID ∉ collection.map (·.documentID)) :
    collection.map (updateStatus documentID status) = collection := by
  rw [List.map_congr_left, List.map_id]
  intro document hd
  have hne : document.documentID ≠ documentID := by
    rintro rfl
    exact h (List.mem_map_of_mem hd)
  exact if_neg hne

end Documents

section Step

variable {matricula : String} {collection next : List Document} {event : Event}

-- Documents stay, under their names and with their students.
theorem documentIDs_step (hstep : step collection event = some next) {documentID : String}
    (hd : documentID ∈ (ofStudent matricula collection).map (·.documentID)) :
    documentID ∈ (ofStudent matricula next).map (·.documentID) := by
  cases event with
  | enrollStudent new screen =>
      simp only [step] at hstep
      split_ifs at hstep with hfresh
      cases hstep
      rw [ofStudent_append_enrollData]
      split_ifs
      · rw [List.map_append]
        exact List.mem_append_left _ hd
      · exact hd
  | setStatus changed status =>
      cases hstep
      rw [ofStudent_map_updateStatus, map_documentID_updateStatus]
      exact hd

theorem documentIDs_run {events : List Event} {final : List Document}
    (hrun : Transition.run step collection events = some final) {documentID : String}
    (hd : documentID ∈ (ofStudent matricula collection).map (·.documentID)) :
    documentID ∈ (ofStudent matricula final).map (·.documentID) :=
  Transition.run_invariant (fun _ _ _ h hstep => documentIDs_step hstep h) hd hrun

-- An event about the student happens to the student's documents alone in the same way.
theorem step_own {documentIDs : List String}
    (hevent : concerns matricula documentIDs event = true)
    (hstep : step collection event = some next) :
    step (ofStudent matricula collection) event = some (ofStudent matricula next) := by
  cases event with
  | enrollStudent new screen =>
      simp only [step] at hstep
      split_ifs at hstep with hfresh
      cases hstep
      have hown : screen.user.matricula = matricula := of_decide_eq_true hevent
      have hfresh' : new ∉ (ofStudent matricula collection).map (·.documentID) := by
        intro hmem
        obtain ⟨document, hd, hname⟩ := List.mem_map.mp hmem
        apply hfresh
        exact List.mem_map.mpr ⟨document, (List.mem_filter.mp hd).1, hname⟩
      rw [ofStudent_append_enrollData, if_pos hown]
      exact if_pos hfresh'
  | setStatus changed status =>
      cases hstep
      rw [ofStudent_map_updateStatus]
      rfl

-- Any other event leaves them alone.
theorem step_other {documentIDs : List String}
    (hevent : concerns matricula documentIDs event = false)
    (hnames : ∀ documentID ∈ (ofStudent matricula collection).map (·.documentID),
      documentID ∈ documentIDs)
    (hstep : step collection event = some next) :
    ofStudent matricula next = ofStudent matricula collection := by
  cases event with
  | enrollStudent new screen =>
      simp only [step] at hstep
      split_ifs at hstep with hfresh
      cases hstep
      have hother : ¬screen.user.matricula = matricula := of_decide_eq_false hevent
      rw [ofStudent_append_enrollData, if_neg hother]
  | setStatus changed status =>
      cases hstep
      have hother : ¬changed ∈ documentIDs := of_decide_eq_false hevent
      rw [ofStudent_map_updateStatus]
      apply map_updateStatus_of_notMem
      intro hmem
      exact hother (hnames changed hmem)

end Step

theorem run_ofStudent {matricula : String} {documentIDs : List String} {events : List Event}
    {collection final : List Document}
    (hrun : Transition.run step collection events = some final)
    (hnames : ∀ documentID ∈ (ofStudent matricula final).map (·.documentID),
      documentID ∈ documentIDs) :
    Transition.run step (ofStudent matricula collection)
      (events.filter (concerns matricula documentIDs)) = some (ofStudent matricula final) := by
  induction events generalizing collection with
  | nil =>
      cases hrun
      rfl
  | cons event rest ih =>
      obtain ⟨next, hstep, hrest⟩ := Option.bind_eq_some_iff.mp hrun
      have hlater := ih hrest
      cases hevent : concerns matricula documentIDs event with
      | true =>
          rw [List.filter_cons_of_pos hevent, Transition.run_cons, step_own hevent hstep]
          exact hlater
      | false =>
          -- What the student has now is still there at the end, so `documentIDs` names it.
          have hbefore : ∀ documentID ∈ (ofStudent matricula collection).map (·.documentID),
              documentID ∈ documentIDs :=
            fun documentID hd => hnames documentID (documentIDs_run hrun hd)
          rw [List.filter_cons_of_neg (by simp [hevent]), ← step_other hevent hbefore hstep]
          exact hlater

-- A student's documents are the work of the student's own enrolments and of what was done to
-- the documents they created: without everything else the same documents would be stored.
theorem isolated (matricula : String) (events : List Event) (final : List Document)
    (hrun : Transition.run step [] events = some final) :
    Transition.run step []
        (events.filter (concerns matricula ((ofStudent matricula final).map (·.documentID)))) =
      some (ofStudent matricula final) :=
  run_ofStudent hrun fun _ hd => hd

private def inscripcionDe (matricula wkID : String) : ViewControllerWorkshop :=
  .storyboard
    { wkID := wkID, title := "Taller " ++ wkID, descr := "", req := [], startDate := 0,
      endDate := 5 }
    { nombre := "", email := "", matricula := matricula, campus := "MTY", rol := "Alumno" }

private def entrelazados : List Event :=
  [.enrollStudent "d1" (inscripcionDe "A22" "1"), .enrollStudent "d2" (inscripcionDe "A23" "1"),
    .setStatus "d2" "Aprobado", .enrollStudent "d3" (inscripcionDe "A23" "2"),
    .setStatus "d1" "Inscrito", .setStatus "d3" "Inscrito"]

theorem isolated_entrelazados :
    ∃ final, Transition.run step [] entrelazados = some final ∧
      (ofStudent "A22" final).map (·.string "status") = [some "Inscrito"] ∧
      Transition.run step [] (entrelazados.filter
          (concerns "A22" ((ofStudent "A22" final).map (·.documentID)))) =
        some (ofStudent "A22" final) :=
  ⟨_, rfl, by decide, isolated "A22" entrelazados _ rfl⟩

end AppPrepanet.Coleccion
