import AppPrepanet.TableViewControllerAWorkshop.Merge
import AppPrepanet.ViewControllerWorkshop.Estado
import AppPrepanet.ViewControllerWorkshop.Reqs

namespace AppPrepanet.Estados

open ViewControllerWorkshop

-- The list screen once the workshops and the inscripciones have come in.
def listScreen (user : User) (catalogue : List Workshop) (inscripciones : List Inscripcion) :
    TableViewControllerAWorkshop :=
  { catalogue.foldl TableViewControllerAWorkshop.appendWorkshop { user := user } with
    inscripciones := inscripciones }

-- A detail screen that has received the same inscripciones.
def detailScreen (user : User) (workshop : Workshop) (inscripciones : List Inscripcion) :
    ViewControllerWorkshop :=
  { storyboard workshop user with inscripciones := inscripciones }

-- Workshops as they are loaded.
structure Catalogue (workshops : List Workshop) : Prop where
  wkIDs : (workshops.map (·.wkID)).Nodup
  fresh : ∀ workshop ∈ workshops, workshop.status = ""

-- Each inscripcion carries the title of the workshop that has its identifier. One that
-- belongs to no workshop does not carry the title of a workshop either.
def Titled (catalogue : List Workshop) (inscripciones : List Inscripcion) : Prop :=
  ∀ inscripcion ∈ inscripciones,
    (∃ workshop ∈ catalogue, workshop.wkID = inscripcion.wkID ∧
      workshop.title = inscripcion.wkTitle) ∨
    ∀ workshop ∈ catalogue, workshop.wkID ≠ inscripcion.wkID ∧
      workshop.title ≠ inscripcion.wkTitle

instance (catalogue : List Workshop) (inscripciones : List Inscripcion) :
    Decidable (Titled catalogue inscripciones) := by unfold Titled; infer_instance

section Keys

variable {catalogue : List Workshop} {inscripciones : List Inscripcion}

-- So the title is as good a key as the identifier.
theorem Titled.title_iff (h : Titled catalogue inscripciones) (hcatalogue : Catalogue catalogue)
    (htitles : (catalogue.map (·.title)).Nodup) {inscripcion : Inscripcion}
    (hi : inscripcion ∈ inscripciones) {workshop : Workshop} (hw : workshop ∈ catalogue) :
    inscripcion.wkTitle = workshop.title ↔ inscripcion.wkID = workshop.wkID := by
  rcases h inscripcion hi with ⟨own, hown, hid, htitle⟩ | hnone
  · constructor
    · intro heq
      have hsame := List.inj_on_of_nodup_map htitles hown hw (htitle.trans heq)
      rw [← hid, hsame]
    · intro heq
      have hsame := List.inj_on_of_nodup_map hcatalogue.wkIDs hown hw (hid.trans heq)
      rw [← htitle, hsame]
  · obtain ⟨hid, htitle⟩ := hnone workshop hw
    exact iff_of_false htitle.symm hid.symm

theorem mark_status (h : Titled catalogue inscripciones) (hcatalogue : Catalogue catalogue)
    (htitles : (catalogue.map (·.title)).Nodup) {workshop : Workshop} (hw : workshop ∈ catalogue) :
    (mark inscripciones { req := workshop.title }).status =
      statusOf inscripciones workshop.wkID := by
  have hfind : inscripciones.findRev? (fun inscripcion => inscripcion.wkTitle = workshop.title) =
      inscripciones.findRev? (fun inscripcion => inscripcion.wkID = workshop.wkID) :=
    Loop.findRev?_congr fun inscripcion hi =>
      decide_eq_decide.mpr (h.title_iff hcatalogue htitles hi hw)
  simp only [mark, statusOf, hfind]

end Keys

section Loops

variable (user : User) {catalogue : List Workshop} (inscripciones : List Inscripcion)

-- The merge gives every workshop of the catalogue the last status there is for it.
theorem listScreen_merged (hcatalogue : Catalogue catalogue) :
    (listScreen user catalogue inscripciones).mergeStatus.workshopArr.map (·.workshop) =
      catalogue.map fun workshop =>
        { workshop with status := statusOf inscripciones workshop.wkID } := by
  apply TableViewControllerAWorkshop.mergeStatus_workshops
  · exact TableViewControllerAWorkshop.foldl_appendWorkshop_loaded { user := user } catalogue
  · exact hcatalogue.fresh

-- The loop of `isEnrolled`, in the same terms.
theorem isEnrolled_text (workshop : Workshop) :
    (detailScreen user workshop inscripciones).isEnrolled.lbDescEstado.text =
      if ∃ inscripcion ∈ inscripciones, inscripcion.wkID = workshop.wkID then
        statusOf inscripciones workshop.wkID
      else "No Inscrito" := by
  have htext : (detailScreen user workshop inscripciones).isEnrolled.lbDescEstado.text =
      (lastStatus workshop inscripciones).getD "No Inscrito" :=
    (detailScreen user workshop inscripciones).foldl_applyStatus_text inscripciones
  rw [htext, statusOf_eq_getD]
  cases hlast : lastStatus workshop inscripciones with
  | none =>
      have hnone := lastStatus_eq_none_iff.mp hlast
      rw [if_neg (by simpa using hnone), Option.getD_none]
  | some status =>
      obtain ⟨inscripcion, hi, hid, _⟩ := exists_of_lastStatus hlast
      rw [if_pos ⟨inscripcion, hi, hid⟩, Option.getD_some, Option.getD_some]

end Loops

-- The list, the label and the requirement rows tell the same status.
theorem statuses_agree (user : User) (catalogue : List Workshop)
    (inscripciones : List Inscripcion) (hcatalogue : Catalogue catalogue) :
    let workshops :=
      (listScreen user catalogue inscripciones).mergeStatus.workshopArr.map (·.workshop)
    workshops = catalogue.map (fun workshop =>
      { workshop with status := statusOf inscripciones workshop.wkID }) ∧
    (∀ workshop ∈ workshops,
      (detailScreen user workshop inscripciones).isEnrolled.lbDescEstado.text =
        if ∃ inscripcion ∈ inscripciones, inscripcion.wkID = workshop.wkID then workshop.status
        else "No Inscrito") ∧
    ((catalogue.map (·.title)).Nodup → Titled catalogue inscripciones →
      ∀ shown : Workshop,
        (detailScreen user shown inscripciones).initializeReqObject.reqs.map (·.req) = shown.req ∧
        ∀ row ∈ (detailScreen user shown inscripciones).initializeReqObject.reqs,
          ∀ workshop ∈ workshops, workshop.title = row.req → row.status = workshop.status) := by
  intro workshops
  have hmerged : workshops = catalogue.map (fun workshop =>
      { workshop with status := statusOf inscripciones workshop.wkID }) :=
    listScreen_merged user inscripciones hcatalogue
  refine ⟨hmerged, fun workshop hw => ?_, fun htitles htitled shown =>
    ⟨?_, fun row hrow workshop hw htitle => ?_⟩⟩
  · rw [hmerged] at hw
    obtain ⟨loaded, _, rfl⟩ := List.mem_map.mp hw
    exact isEnrolled_text user inscripciones _
  · rw [initializeReqObject_titles]
    rfl
  · rw [hmerged] at hw
    obtain ⟨loaded, hloaded, rfl⟩ := List.mem_map.mp hw
    rw [initializeReqObject_reqs] at hrow
    obtain ⟨listedRow, hlisted, rfl⟩ := List.mem_map.mp hrow
    have hlisted' : listedRow ∈ listed shown := by
      simpa [detailScreen, storyboard] using hlisted
    obtain ⟨req, _, rfl⟩ := List.mem_map.mp hlisted'
    have hreq : loaded.title = req := htitle
    rw [← hreq]
    exact mark_status htitled hcatalogue htitles hloaded

private def julia : User :=
  { nombre := "Julia", email := "julia@tec.mx", matricula := "A10", campus := "MTY",
    rol := "Alumno" }

private def dosTalleres : List Workshop :=
  [{ wkID := "1", title := "Mis Emociones", descr := "", req := [], startDate := 0, endDate := 5 },
   { wkID := "2", title := "Liderazgo", descr := "", req := ["Mis Emociones"], startDate := 6,
     endDate := 9 }]

private def inscrita (status : String) : Inscripcion :=
  { wkTitle := "Mis Emociones", wkID := "1", campusID := "MTY", matriculaAlum := "A10",
    status := status, date := 0 }

private theorem dosTalleres_catalogue : Catalogue dosTalleres := ⟨by decide, by decide⟩

-- Two entries for the first workshop, none for the second.
theorem statuses_agree_repetida :
    ∃ workshops : List Workshop,
      workshops = (listScreen julia dosTalleres
        [inscrita "Rechazado", inscrita "Aprobado"]).mergeStatus.workshopArr.map (·.workshop) ∧
      Titled dosTalleres [inscrita "Rechazado", inscrita "Aprobado"] ∧
      ∀ row ∈ (detailScreen julia dosTalleres[1]
          [inscrita "Rechazado", inscrita "Aprobado"]).initializeReqObject.reqs,
        ∀ workshop ∈ workshops, workshop.title = row.req → row.status = workshop.status :=
  ⟨_, rfl, by decide, ((statuses_agree julia dosTalleres [inscrita "Rechazado", inscrita "Aprobado"]
    dosTalleres_catalogue).2.2 (by decide) (by decide) dosTalleres[1]).2⟩

end AppPrepanet.Estados
