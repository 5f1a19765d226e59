import AppPrepanet.ViewControllerWorkshop.Reqs

namespace AppPrepanet.ViewControllerWorkshop

-- The same screen over another list of inscripciones.
def withInscripciones (screen : ViewControllerWorkshop) (inscripciones : List Inscripcion) :
    ViewControllerWorkshop :=
  { screen with inscripciones := inscripciones }

section Passes

variable (screen : ViewControllerWorkshop) {first last : Inscripcion}

-- An entry for another workshop does nothing.
theorem applyStatus_of_ne {inscripcion : Inscripcion}
    (h : inscripcion.wkID ≠ screen.workshop.wkID) : screen.applyStatus inscripcion = screen :=
  if_neg h

theorem applyStatus_comm (h : first.wkID ≠ last.wkID) :
    (screen.applyStatus first).applyStatus last = (screen.applyStatus last).applyStatus first := by
  by_cases hfirst : first.wkID = screen.workshop.wkID
  · have hlast : last.wkID ≠ screen.workshop.wkID := fun heq => h (hfirst.trans heq.symm)
    have hlast' : last.wkID ≠ (screen.applyStatus first).workshop.wkID := by
      rwa [applyStatus_workshop]
    rw [applyStatus_of_ne _ hlast', applyStatus_of_ne _ hlast]
  · have hfirst' : first.wkID ≠ (screen.applyStatus last).workshop.wkID := by
      rwa [applyStatus_workshop]
    rw [applyStatus_of_ne _ hfirst', applyStatus_of_ne _ hfirst]

theorem applyToReqs_comm (h : first.wkTitle ≠ last.wkTitle) :
    (screen.applyToReqs first).applyToReqs last = (screen.applyToReqs last).applyToReqs first := by
  have hreqs : ((screen.applyToReqs first).applyToReqs last).reqs =
      ((screen.applyToReqs last).applyToReqs first).reqs := by
    simp only [applyToReqs, reloadTableView, List.map_map]
    apply List.map_congr_left
    intro requerimiento _
    by_cases hfirst : first.wkTitle = requerimiento.req
    · have hlast : last.wkTitle ≠ requerimiento.req := fun heq => h (hfirst.trans heq.symm)
      simp [hfirst, hlast]
    · by_cases hlast : last.wkTitle = requerimiento.req
      · simp [hfirst, hlast]
      · simp [hfirst, hlast]
  simp only [applyToReqs, reloadTableView] at hreqs ⊢
  rw [hreqs]

-- Neither pass reads the list that it is a pass over.
theorem applyStatus_withInscripciones (inscripciones : List Inscripcion)
    (inscripcion : Inscripcion) :
    (screen.withInscripciones inscripciones).applyStatus inscripcion =
      (screen.applyStatus inscripcion).withInscripciones inscripciones := by
  unfold applyStatus withInscripciones
  split_ifs <;> rfl

theorem applyToReqs_withInscripciones (inscripciones : List Inscripcion)
    (inscripcion : Inscripcion) :
    (screen.withInscripciones inscripciones).applyToReqs inscripcion =
      (screen.applyToReqs inscripcion).withInscripciones inscripciones := rfl

end Passes

section Order

variable (screen : ViewControllerWorkshop) {inscripciones inscripciones' : List Inscripcion}

-- The two loops of `fetchCompletion`, one after the other, as loops over the answer.
def completed (enabled : Bool) (inscripciones : List Inscripcion) : ViewControllerWorkshop :=
  let applied := inscripciones.foldl applyStatus
    { screen with btInscripcion.isEnabled := enabled }
  inscripciones.foldl applyToReqs
    { applied with reqs := applied.reqs ++ listed applied.workshop }

theorem isEnrolled_withInscripciones :
    (screen.withInscripciones inscripciones).isEnrolled =
      (inscripciones.foldl applyStatus screen).withInscripciones inscripciones := by
  apply List.foldl_hom (fun screen : ViewControllerWorkshop =>
    screen.withInscripciones inscripciones)
  intro screen inscripcion
  exact screen.applyStatus_withInscripciones inscripciones inscripcion

theorem initializeReqObject_withInscripciones :
    (screen.withInscripciones inscripciones).initializeReqObject =
      (inscripciones.foldl applyToReqs
        { screen with reqs := screen.reqs ++ listed screen.workshop }).withInscripciones
          inscripciones := by
  have hloop : ∀ start : ViewControllerWorkshop,
      inscripciones.foldl applyToReqs (start.withInscripciones inscripciones) =
        (inscripciones.foldl applyToReqs start).withInscripciones inscripciones := by
    intro start
    apply List.foldl_hom (fun screen : ViewControllerWorkshop =>
      screen.withInscripciones inscripciones)
    intro screen inscripcion
    exact screen.applyToReqs_withInscripciones inscripciones inscripcion
  rw [initializeReqObject_eq]
  exact hloop { screen with reqs := screen.reqs ++ listed screen.workshop }

theorem fetchCompletion_withInscripciones :
    (screen.withInscripciones inscripciones).fetchCompletion =
      (screen.completed (screen.withInscripciones inscripciones).canEnroll
        inscripciones).withInscripciones inscripciones := by
  have hbutton : (screen.withInscripciones inscripciones).fetchCompletion =
      (withInscripciones { screen with
        btInscripcion.isEnabled := (screen.withInscripciones inscripciones).canEnroll }
          inscripciones).isEnrolled.initializeReqObject := by
    unfold fetchCompletion
    split_ifs with henroll
    · rw [henroll]
      rfl
    · rw [Bool.eq_false_iff.mpr henroll]
      rfl
  rw [hbutton, isEnrolled_withInscripciones, initializeReqObject_withInscripciones, completed]

-- The loop of `canEnroll` stops nowhere and only asks whether there is an entry.
theorem canEnroll_perm (hperm : inscripciones.Perm inscripciones') :
    (screen.withInscripciones inscripciones).canEnroll =
      (screen.withInscripciones inscripciones').canEnroll := by
  rw [Bool.eq_iff_iff, canEnroll_iff, canEnroll_iff]
  simp only [CountApproved, withInscripciones, hperm.mem_iff]

-- Both answers lead to the same screen, but for the list itself.
theorem fetchCompletion_perm (hids : (inscripciones.map (·.wkID)).Nodup)
    (htitles : (inscripciones.map (·.wkTitle)).Nodup)
    (hperm : inscripciones.Perm inscripciones') :
    (screen.withInscripciones inscripciones').fetchCompletion =
      ((screen.withInscripciones inscripciones).fetchCompletion).withInscripciones
        inscripciones' := by
  have hstatus : ∀ screen : ViewControllerWorkshop,
      inscripciones.foldl applyStatus screen = inscripciones'.foldl applyStatus screen :=
    fun screen => Loop.foldl_perm (fun screen _ _ h => screen.applyStatus_comm h) hids hperm screen
  have hreqs : ∀ screen : ViewControllerWorkshop,
      inscripciones.foldl applyToReqs screen = inscripciones'.foldl applyToReqs screen :=
    fun screen =>
      Loop.foldl_perm (fun screen _ _ h => screen.applyToReqs_comm h) htitles hperm screen
  rw [fetchCompletion_withInscripciones, fetchCompletion_withInscripciones,
    screen.canEnroll_perm hperm, completed, completed, hstatus, hreqs]
  rfl

end Order

end AppPrepanet.ViewControllerWorkshop
