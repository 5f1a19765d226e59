import AppPrepanet.TableViewControllerAWorkshop.Merge
import AppPrepanet.ViewControllerWorkshop.Order

namespace AppPrepanet.Estados

open TableViewControllerAWorkshop

section List

variable {inscripciones inscripciones' : List Inscripcion}

-- Two passes of the merge for different workshops may change places.
theorem applyStatus_comm (workshopArr : List WorkshopObject) {first last : Inscripcion}
    (h : first.wkID ≠ last.wkID) :
    applyStatus (applyStatus workshopArr first) last =
      applyStatus (applyStatus workshopArr last) first := by
  simp only [applyStatus, List.map_map]
  apply List.map_congr_left
  intro object _
  by_cases hfirst : first.wkID = object.workshop.wkID
  · have hlast : last.wkID ≠ object.workshop.wkID := fun heq => h (hfirst.trans heq.symm)
    simp [hfirst, hlast]
  · by_cases hlast : last.wkID = object.workshop.wkID
    · simp [hfirst, hlast]
    · simp [hfirst, hlast]

theorem mergeStatus_perm (list : TableViewControllerAWorkshop)
    (hids : (inscripciones.map (·.wkID)).Nodup) (hperm : inscripciones.Perm inscripciones') :
    { list with inscripciones := inscripciones }.mergeStatus.workshopArr =
      { list with inscripciones := inscripciones' }.mergeStatus.workshopArr :=
  Loop.foldl_perm (fun workshopArr _ _ h => applyStatus_comm workshopArr h) hids hperm
    list.workshopArr

end List

-- Both screens show the same, in whatever order the answer comes, as long as no workshop comes
-- twice; for the detail screen, no title either: the inscripciones of the list have none.
theorem order_irrelevant (inscripciones inscripciones' : List Inscripcion)
    (hids : (inscripciones.map (·.wkID)).Nodup) (hperm : inscripciones.Perm inscripciones') :
    ((inscripciones.map (·.wkTitle)).Nodup → ∀ screen : ViewControllerWorkshop,
      let one := { screen with inscripciones := inscripciones }.fetchCompletion
      let other := { screen with inscripciones := inscripciones' }.fetchCompletion
      one.btInscripcion = other.btInscripcion ∧ one.lbDescEstado = other.lbDescEstado ∧
        one.reqs = other.reqs ∧ one.rows = other.rows) ∧
    ∀ list : TableViewControllerAWorkshop,
      { list with inscripciones := inscripciones }.mergeStatus.workshopArr =
        { list with inscripciones := inscripciones' }.mergeStatus.workshopArr := by
  refine ⟨fun htitles screen => ?_, fun list => mergeStatus_perm list hids hperm⟩
  intro one other
  have hother : other = one.withInscripciones inscripciones' :=
    screen.fetchCompletion_perm hids htitles hperm
  rw [hother]
  exact ⟨rfl, rfl, rfl, rfl⟩

private def aprobado (wkID wkTitle : String) : Inscripcion :=
  { wkTitle := wkTitle, wkID := wkID, campusID := "MTY", matriculaAlum := "A11",
    status := "Aprobado", date := 0 }

private def comunicacion : ViewControllerWorkshop :=
  .storyboard
    { wkID := "3", title := "Comunicacion", descr := "", req := ["Mis Emociones", "Liderazgo"],
      startDate := 10, endDate := 12 }
    { nombre := "Karla", email := "karla@tec.mx", matricula := "A11", campus := "MTY",
      rol := "Alumno" }

private def lista : TableViewControllerAWorkshop :=
  { user := comunicacion.user, workshopArr := [⟨0, comunicacion.workshop⟩] }

-- The list reads the same inscripciones without their titles.
theorem order_irrelevant_comunicacion :
    { comunicacion with inscripciones :=
        [aprobado "1" "Mis Emociones", aprobado "3" "Comunicacion"] }.fetchCompletion.reqs =
      { comunicacion with inscripciones :=
        [aprobado "3" "Comunicacion", aprobado "1" "Mis Emociones"] }.fetchCompletion.reqs ∧
    { lista with inscripciones := [aprobado "1" "", aprobado "3" ""] }.mergeStatus.workshopArr =
      { lista with inscripciones := [aprobado "3" "", aprobado "1" ""] }.mergeStatus.workshopArr :=
  ⟨((order_irrelevant [aprobado "1" "Mis Emociones", aprobado "3" "Comunicacion"]
      [aprobado "3" "Comunicacion", aprobado "1" "Mis Emociones"] (by decide)
      (List.Perm.swap _ _ _)).1 (by decide) comunicacion).2.2.1,
    (order_irrelevant [aprobado "1" "", aprobado "3" ""] [aprobado "3" "", aprobado "1" ""]
      (by decide) (List.Perm.swap _ _ _)).2 lista⟩

end AppPrepanet.Estados
