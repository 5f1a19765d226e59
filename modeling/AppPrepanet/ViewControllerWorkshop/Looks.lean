import AppPrepanet.ViewControllerWorkshop.Estado

namespace AppPrepanet.ViewControllerWorkshop

instance : DecidablePred Admitted := fun status => by unfold Admitted; infer_instance

-- The status of the last inscripcion that was accepted into this workshop.
def lastAdmitted (workshop : Workshop) (inscripciones : List Inscripcion) : Option String :=
  (inscripciones.findRev? fun inscripcion =>
    inscripcion.wkID = workshop.wkID ∧ Admitted inscripcion.status).map (·.status)

-- How the button is dressed: in green with that status, or as in the storyboard.
def Dressed (screen : ViewControllerWorkshop) (admitted : Option String) : Prop :=
  screen.btInscripcion.title = admitted.getD "Inscribirse" ∧
    screen.btInscripcion.backgroundColor = if admitted.isSome then .systemGreen else .systemBlue

section LastAdmitted

variable {workshop : Workshop} {inscripciones : List Inscripcion}

theorem lastAdmitted_concat (inscripcion : Inscripcion) :
    lastAdmitted workshop (inscripciones ++ [inscripcion]) =
      if inscripcion.wkID = workshop.wkID ∧ Admitted inscripcion.status then
        some inscripcion.status
      else lastAdmitted workshop inscripciones := by
  unfold lastAdmitted
  rw [Loop.findRev?_append]
  by_cases hmatch : inscripcion.wkID = workshop.wkID ∧ Admitted inscripcion.status
  · simp [hmatch]
  · simp [hmatch]

theorem exists_of_lastAdmitted {status : String}
    (h : lastAdmitted workshop inscripciones = some status) :
    ∃ inscripcion ∈ inscripciones, inscripcion.wkID = workshop.wkID ∧
      Admitted inscripcion.status ∧ inscripcion.status = status := by
  obtain ⟨inscripcion, hfound, rfl⟩ := Option.map_eq_some_iff.mp h
  rw [List.findRev?_eq_find?_reverse] at hfound
  have hmem := List.mem_of_find?_eq_some hfound
  have hmatch := List.find?_some hfound
  simp only [decide_eq_true_eq] at hmatch
  exact ⟨inscripcion, List.mem_reverse.mp hmem, hmatch.1, hmatch.2, rfl⟩

-- An accepted enrolment is an enrolment.
theorem enrolled_of_lastAdmitted (h : (lastAdmitted workshop inscripciones).isSome = true) :
    Enrolled workshop inscripciones := by
  obtain ⟨status, hstatus⟩ := Option.isSome_iff_exists.mp h
  obtain ⟨inscripcion, hi, hid, hadmitted, _⟩ := exists_of_lastAdmitted hstatus
  exact ⟨inscripcion, hi, hid, hadmitted.handled⟩

theorem lastAdmitted_isSome :
    (lastAdmitted workshop inscripciones).isSome = true ↔ ∃ inscripcion ∈ inscripciones,
      inscripcion.wkID = workshop.wkID ∧ Admitted inscripcion.status := by
  unfold lastAdmitted
  rw [Option.isSome_map, Loop.findRev?_isSome]
  simp

end LastAdmitted

section Loop

variable {screen : ViewControllerWorkshop} {admitted : Option String}

theorem Dressed.applyStatus (h : Dressed screen admitted) (inscripcion : Inscripcion) :
    Dressed (screen.applyStatus inscripcion)
      (if inscripcion.wkID = screen.workshop.wkID ∧ Admitted inscripcion.status then
        some inscripcion.status
      else admitted) := by
  by_cases hmatch : inscripcion.wkID = screen.workshop.wkID ∧ Admitted inscripcion.status
  · rw [if_pos hmatch]
    obtain ⟨hid, hstatus | hstatus⟩ := hmatch <;>
      simp [Dressed, ViewControllerWorkshop.applyStatus, hid, hstatus]
  · rw [if_neg hmatch]
    have hlook := screen.applyStatus_look fun hid hadmitted => hmatch ⟨hid, hadmitted⟩
    exact ⟨hlook.1.trans h.1, hlook.2.trans h.2⟩

theorem Dressed.foldl_applyStatus (h : Dressed screen none) (items : List Inscripcion) :
    Dressed (items.foldl ViewControllerWorkshop.applyStatus screen)
      (lastAdmitted screen.workshop items) := by
  induction items using List.reverseRecOn with
  | nil => exact h
  | append_singleton items item ih =>
      have hworkshop : (items.foldl ViewControllerWorkshop.applyStatus screen).workshop =
          screen.workshop :=
        Loop.foldl_frame _ (·.workshop) applyStatus_workshop items screen
      have hitem := ih.applyStatus item
      rw [hworkshop] at hitem
      rw [List.foldl_append, lastAdmitted_concat]
      exact hitem

theorem Dressed.initializeReqObject (h : Dressed screen admitted) :
    Dressed screen.initializeReqObject admitted := by
  simpa [Dressed] using h

-- The answer dresses the button; neither `canEnroll` nor the requirements do.
theorem Dressed.fetchCompletion (h : Dressed screen none) :
    Dressed screen.fetchCompletion (lastAdmitted screen.workshop screen.inscripciones) := by
  have hset : ∀ enabled, Dressed { screen with btInscripcion.isEnabled := enabled } none :=
    fun _ => h
  unfold ViewControllerWorkshop.fetchCompletion isEnrolled
  split_ifs
  · exact ((hset true).foldl_applyStatus screen.inscripciones).initializeReqObject
  · exact ((hset false).foldl_applyStatus screen.inscripciones).initializeReqObject

end Loop

end AppPrepanet.ViewControllerWorkshop
