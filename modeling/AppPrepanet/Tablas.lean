import AppPrepanet.Reuse
import AppPrepanet.TableViewControllerAWorkshop
import AppPrepanet.ViewControllerPerfil
import AppPrepanet.ViewControllerWorkshop.Button

namespace AppPrepanet.Tablas

open ViewControllerWorkshop (Handled)

-- A call of `cellForRowAt` on the cell: the screen as it is then, and the row.
def configure {Screen Cell : Type*} (cellForRowAt : Screen → Cell → ℕ → Option Cell) (cell : Cell)
    (call : Screen × ℕ) : Option Cell :=
  cellForRowAt call.1 cell call.2

-- The row has one of the three statuses that the tables have a mark for.
def Marked (status : Option String) : Prop := ∃ value ∈ status, Handled value

instance (status : Option String) : Decidable (Marked status) := by unfold Marked; infer_instance

@[simp] theorem marked_none : ¬Marked none := by simp [Marked]

@[simp] theorem marked_some {status : String} : Marked (some status) ↔ Handled status := by
  simp [Marked]

section List

def listStatus (call : TableViewControllerAWorkshop × ℕ) : Option String :=
  call.1.workshopArr[call.2]?.map (·.workshop.status)

-- The colour that the list has for a status.
def estadoColor (status : String) : Option UIColor :=
  if status = "Aprobado" then some .systemGreen
  else if status = "Inscrito" then some .systemBlue
  else if status = "En Proceso" then some .systemTeal
  else none

theorem estadoColor_isSome (status : String) : (estadoColor status).isSome ↔ Handled status := by
  unfold estadoColor Handled
  split_ifs <;> simp_all

-- What no row of the list writes. For a student that includes whether the status is hidden.
def listKept (user : User) (cell : TableViewWorkshopCell) : TableViewWorkshopCell :=
  { cell with
    lbTitle.text := ""
    lbDescription.text := ""
    lbEstado.text := ""
    lbEstado.textColor := none
    lbEstado.isHidden := user.rol = "Alumno" && cell.lbEstado.isHidden }

-- The colour that a row writes. Only a student's rows do.
def listWrite (user : User) (call : TableViewControllerAWorkshop × ℕ) : Option (Option UIColor) :=
  if user.rol = "Alumno" then ((listStatus call).bind estadoColor).map some else none

theorem listWrite_isSome (user : User) (call : TableViewControllerAWorkshop × ℕ) :
    (listWrite user call).isSome ↔ user.rol = "Alumno" ∧ Marked (listStatus call) := by
  unfold listWrite
  split_ifs with hrol
  · cases hstatus : listStatus call with
    | none => simp
    | some status => simp [hrol, estadoColor_isSome]
  · simp [hrol]

-- A row on a cell, attribute by attribute.
def listFill (user : User) (workshop : Workshop) (cell : TableViewWorkshopCell) :
    TableViewWorkshopCell where
  lbTitle := { cell.lbTitle with text := workshop.title }
  lbDescription := { cell.lbDescription with text := workshop.descr }
  lbEstado :=
    { text := if user.rol = "Alumno" ∧ ¬Handled workshop.status then "No inscrito"
        else workshop.status
      textColor := if user.rol = "Alumno" then
          ((estadoColor workshop.status).map some).getD cell.lbEstado.textColor
        else cell.lbEstado.textColor
      isHidden := if user.rol = "Alumno" then cell.lbEstado.isHidden else true }

theorem configure_list (cell : TableViewWorkshopCell) (call : TableViewControllerAWorkshop × ℕ) :
    configure TableViewControllerAWorkshop.cellForRowAt cell call =
      call.1.workshopArr[call.2]?.map fun object =>
        listFill call.1.user object.workshop cell := by
  unfold configure TableViewControllerAWorkshop.cellForRowAt
  cases hobject : call.1.workshopArr[call.2]? with
  | none => rfl
  | some object =>
      by_cases hrol : call.1.user.rol = "Alumno"
      · by_cases ha : object.workshop.status = "Aprobado"
        · simp [listFill, estadoColor, Handled, hrol, ha]
        · by_cases hi : object.workshop.status = "Inscrito"
          · simp [listFill, estadoColor, Handled, hrol, hi]
          · by_cases hp : object.workshop.status = "En Proceso" <;>
              simp [listFill, estadoColor, Handled, hrol, ha, hi, hp]
      · simp [listFill, hrol]

theorem overwrites_list (user : User) :
    Reuse.Overwrites (configure TableViewControllerAWorkshop.cellForRowAt)
      (fun call => call.1.user = user) (listKept user) (·.lbEstado.textColor)
      (listWrite user) := by
  apply Reuse.Overwrites.of_fill configure_list
  · rintro cell call object rfl
    by_cases hrol : call.1.user.rol = "Alumno" <;> simp [listKept, listFill, hrol]
  · rintro cell call object rfl hobject
    by_cases hrol : call.1.user.rol = "Alumno" <;>
      simp [listWrite, listFill, listStatus, hobject, hrol]
  · rintro cell cell' call object rfl hkept hcolor
    by_cases hrol : call.1.user.rol = "Alumno" <;> simp_all [listKept, listFill]

end List

-- The image that both other tables have for a status.
def statusImage (status : String) : Option UIImage :=
  if status = "En Proceso" then some ⟨"checkmark", some .systemBlue⟩
  else if status = "Inscrito" then some ⟨"checkmark.circle", some .systemTeal⟩
  else if status = "Aprobado" then some ⟨"checkmark.circle", some .systemGreen⟩
  else none

theorem statusImage_isSome (status : String) : (statusImage status).isSome ↔ Handled status := by
  unfold statusImage Handled
  split_ifs <;> simp_all

section Reqs

-- The table of requirements writes the image for every status.
def reqsWrite (call : ViewControllerWorkshop × ℕ) : Option (Option UIImage) :=
  call.1.reqs[call.2]?.map fun requerimiento => statusImage requerimiento.status

def reqsKept (cell : TableViewSingleWorkshopCell) : TableViewSingleWorkshopCell :=
  { cell with
    lbWkTitle.text := ""
    imgStatus.image := none }

theorem configure_reqs (cell : TableViewSingleWorkshopCell) (call : ViewControllerWorkshop × ℕ) :
    configure ViewControllerWorkshop.cellForRowAt cell call =
      call.1.reqs[call.2]?.map fun requerimiento =>
        { cell with
          lbWkTitle.text := requerimiento.req
          imgStatus.image := statusImage requerimiento.status } := by
  unfold configure ViewControllerWorkshop.cellForRowAt
  cases hreq : call.1.reqs[call.2]? with
  | none => rfl
  | some requerimiento =>
      by_cases hp : requerimiento.status = "En Proceso"
      · simp [statusImage, UIImage.withTintColor, hp]
      · by_cases hi : requerimiento.status = "Inscrito"
        · simp [statusImage, UIImage.withTintColor, hi]
        · by_cases ha : requerimiento.status = "Aprobado" <;>
            simp [statusImage, UIImage.withTintColor, hp, hi, ha]

theorem overwrites_reqs :
    Reuse.Overwrites (configure ViewControllerWorkshop.cellForRowAt) (fun _ => True) reqsKept
      (·.imgStatus.image) reqsWrite := by
  apply Reuse.Overwrites.of_fill configure_reqs
  · intro cell call requerimiento _
    rfl
  · intro cell call requerimiento _ hreq
    simp [reqsWrite, hreq]
  · intro cell cell' call requerimiento _ hkept _
    simp_all [reqsKept]

end Reqs

section Perfil

def perfilStatus (call : ViewControllerPerfil × ℕ) : Option String :=
  call.1.inscripciones[call.2]?.map (·.status)

-- The table of the profile writes the image for some statuses only.
def perfilWrite (call : ViewControllerPerfil × ℕ) : Option (Option UIImage) :=
  ((perfilStatus call).bind statusImage).map some

def perfilKept (cell : TableViewPerfilCell) : TableViewPerfilCell :=
  { cell with
    wkTitle.text := ""
    imgStatus.image := none }

theorem perfilWrite_isSome (call : ViewControllerPerfil × ℕ) :
    (perfilWrite call).isSome ↔ Marked (perfilStatus call) := by
  unfold perfilWrite
  cases hstatus : perfilStatus call with
  | none => simp
  | some status => simp [statusImage_isSome]

theorem configure_perfil (cell : TableViewPerfilCell) (call : ViewControllerPerfil × ℕ) :
    configure ViewControllerPerfil.cellForRowAt cell call =
      call.1.inscripciones[call.2]?.map fun inscripcion =>
        { cell with
          wkTitle.text := inscripcion.wkTitle
          imgStatus.image :=
            ((statusImage inscripcion.status).map some).getD cell.imgStatus.image } := by
  unfold configure ViewControllerPerfil.cellForRowAt
  cases hinscripcion : call.1.inscripciones[call.2]? with
  | none => rfl
  | some inscripcion =>
      by_cases hp : inscripcion.status = "En Proceso"
      · simp [statusImage, UIImage.withTintColor, hp]
      · by_cases hi : inscripcion.status = "Inscrito"
        · simp [statusImage, UIImage.withTintColor, hi]
        · by_cases ha : inscripcion.status = "Aprobado" <;>
            simp [statusImage, UIImage.withTintColor, hp, hi, ha]

theorem overwrites_perfil :
    Reuse.Overwrites (configure ViewControllerPerfil.cellForRowAt) (fun _ => True) perfilKept
      (·.imgStatus.image) perfilWrite := by
  apply Reuse.Overwrites.of_fill configure_perfil
  · intro cell call inscripcion _
    rfl
  · intro cell call inscripcion _ hinscripcion
    simp [perfilWrite, perfilStatus, hinscripcion]
  · intro cell cell' call inscripcion _ hkept himage
    simp_all [perfilKept]

end Perfil

theorem list_reused_iff {user : User} {before : List (TableViewControllerAWorkshop × ℕ)}
    {last : TableViewControllerAWorkshop × ℕ} {reused fresh : TableViewWorkshopCell}
    (huser : ∀ call ∈ before ++ [last], call.1.user = user)
    (hreused : Transition.run (configure TableViewControllerAWorkshop.cellForRowAt)
      .storyboard (before ++ [last]) = some reused)
    (hfresh : configure TableViewControllerAWorkshop.cellForRowAt .storyboard last = some fresh) :
    reused = fresh ↔ user.rol ≠ "Alumno" ∨ Marked (listStatus last) ∨
      ∀ call ∈ before, ¬Marked (listStatus call) := by
  have hnew : ∀ call value, listWrite user call = some value →
      value ≠ TableViewWorkshopCell.storyboard.lbEstado.textColor := by
    intro call value hwrite hvalue
    rw [hvalue, listWrite] at hwrite
    split_ifs at hwrite
    obtain ⟨_, _, hcolor⟩ := Option.map_eq_some_iff.mp hwrite
    cases hcolor
  rw [(overwrites_list user).reused_eq_iff hnew huser hreused hfresh]
  simp only [← Option.not_isSome_iff_eq_none, listWrite_isSome]
  by_cases hrol : user.rol = "Alumno"
  · simp [hrol]
  · simp [hrol]

-- An image is written for every row that there is.
theorem reqs_reused {before : List (ViewControllerWorkshop × ℕ)}
    {last : ViewControllerWorkshop × ℕ} {reused fresh : TableViewSingleWorkshopCell}
    (hreused : Transition.run (configure ViewControllerWorkshop.cellForRowAt)
      .storyboard (before ++ [last]) = some reused)
    (hfresh : configure ViewControllerWorkshop.cellForRowAt .storyboard last = some fresh) :
    reused = fresh := by
  have hwrite : (reqsWrite last).isSome := by
    have hconfigure := hfresh
    rw [configure_reqs] at hconfigure
    obtain ⟨requerimiento, hreq, _⟩ := Option.map_eq_some_iff.mp hconfigure
    simp [reqsWrite, hreq]
  exact overwrites_reqs.reused_eq_of_write (fun _ _ => trivial) hreused hfresh hwrite

theorem perfil_reused_iff {before : List (ViewControllerPerfil × ℕ)}
    {last : ViewControllerPerfil × ℕ} {reused fresh : TableViewPerfilCell}
    (hreused : Transition.run (configure ViewControllerPerfil.cellForRowAt)
      .storyboard (before ++ [last]) = some reused)
    (hfresh : configure ViewControllerPerfil.cellForRowAt .storyboard last = some fresh) :
    reused = fresh ↔ Marked (perfilStatus last) ∨
      ∀ call ∈ before, ¬Marked (perfilStatus call) := by
  have hnew : ∀ call value, perfilWrite call = some value →
      value ≠ TableViewPerfilCell.storyboard.imgStatus.image := by
    intro call value hwrite hvalue
    rw [hvalue] at hwrite
    obtain ⟨_, _, himage⟩ := Option.map_eq_some_iff.mp hwrite
    cases himage
  rw [overwrites_perfil.reused_eq_iff hnew (fun _ _ => trivial) hreused hfresh]
  simp only [← Option.not_isSome_iff_eq_none, perfilWrite_isSome]

-- The colour of the list and the image of the profile stay on a cell until a row with a mark of
-- its own comes; the table of requirements takes the image away.
theorem shows_own_row_iff (user : User) :
    (∀ (before : List (TableViewControllerAWorkshop × ℕ))
      (last : TableViewControllerAWorkshop × ℕ) (reused fresh : TableViewWorkshopCell),
      (∀ call ∈ before ++ [last], call.1.user = user) →
      Transition.run (configure TableViewControllerAWorkshop.cellForRowAt) .storyboard
        (before ++ [last]) = some reused →
      configure TableViewControllerAWorkshop.cellForRowAt .storyboard last = some fresh →
      (reused = fresh ↔ user.rol ≠ "Alumno" ∨ Marked (listStatus last) ∨
        ∀ call ∈ before, ¬Marked (listStatus call))) ∧
    (∀ (before : List (ViewControllerWorkshop × ℕ)) (last : ViewControllerWorkshop × ℕ)
      (reused fresh : TableViewSingleWorkshopCell),
      Transition.run (configure ViewControllerWorkshop.cellForRowAt) .storyboard
        (before ++ [last]) = some reused →
      configure ViewControllerWorkshop.cellForRowAt .storyboard last = some fresh →
      reused = fresh) ∧
    ∀ (before : List (ViewControllerPerfil × ℕ)) (last : ViewControllerPerfil × ℕ)
      (reused fresh : TableViewPerfilCell),
      Transition.run (configure ViewControllerPerfil.cellForRowAt) .storyboard
        (before ++ [last]) = some reused →
      configure ViewControllerPerfil.cellForRowAt .storyboard last = some fresh →
      (reused = fresh ↔ Marked (perfilStatus last) ∨
        ∀ call ∈ before, ¬Marked (perfilStatus call)) := by
  refine ⟨?_, ?_, ?_⟩
  · intro before last reused fresh huser hreused hfresh
    exact list_reused_iff huser hreused hfresh
  · intro before last reused fresh hreused hfresh
    exact reqs_reused hreused hfresh
  · intro before last reused fresh hreused hfresh
    exact perfil_reused_iff hreused hfresh

private def renata : User :=
  { nombre := "Renata", email := "renata@tec.mx", matricula := "A12", campus := "MTY",
    rol := "Alumno" }

-- One workshop is approved, the other one was never taken.
private def lista : TableViewControllerAWorkshop where
  user := renata
  workshopArr :=
    [⟨0, { wkID := "1", title := "Autonomia", descr := "", req := [], startDate := 0,
           endDate := 3, status := "Aprobado" }⟩,
     ⟨1, { wkID := "2", title := "Empatia", descr := "", req := [], startDate := 3,
           endDate := 6 }⟩]

private def requisitos : ViewControllerWorkshop :=
  { ViewControllerWorkshop.storyboard
      { wkID := "2", title := "Empatia", descr := "", req := ["Autonomia"], startDate := 3,
        endDate := 6 } renata with
    reqs := [⟨"Autonomia", "Aprobado"⟩, ⟨"Autonomia", ""⟩] }

private def perfil : ViewControllerPerfil where
  user := renata
  inscripciones :=
    [{ wkTitle := "Autonomia", wkID := "1", campusID := "MTY", matriculaAlum := "A12",
       status := "Aprobado", date := 0 },
     { wkTitle := "Empatia", wkID := "2", campusID := "MTY", matriculaAlum := "A12",
       status := "Rechazado", date := 3 }]

theorem shows_own_row_iff_aprobado :
    (∃ reused fresh,
      Transition.run (configure TableViewControllerAWorkshop.cellForRowAt) .storyboard
        ([(lista, 1)] ++ [(lista, 0)]) = some reused ∧
      configure TableViewControllerAWorkshop.cellForRowAt .storyboard (lista, 0) = some fresh ∧
      (reused = fresh ↔ renata.rol ≠ "Alumno" ∨ Marked (listStatus (lista, 0)) ∨
        ∀ call ∈ [(lista, 1)], ¬Marked (listStatus call))) ∧
    (∃ reused fresh,
      Transition.run (configure ViewControllerWorkshop.cellForRowAt) .storyboard
        ([(requisitos, 0)] ++ [(requisitos, 1)]) = some reused ∧
      configure ViewControllerWorkshop.cellForRowAt .storyboard (requisitos, 1) = some fresh ∧
      reused = fresh) ∧
    ∃ reused fresh,
      Transition.run (configure ViewControllerPerfil.cellForRowAt) .storyboard
        ([(perfil, 1)] ++ [(perfil, 0)]) = some reused ∧
      configure ViewControllerPerfil.cellForRowAt .storyboard (perfil, 0) = some fresh ∧
      (reused = fresh ↔ Marked (perfilStatus (perfil, 0)) ∨
        ∀ call ∈ [(perfil, 1)], ¬Marked (perfilStatus call)) :=
  ⟨⟨_, _, rfl, rfl,
      (shows_own_row_iff renata).1 [(lista, 1)] (lista, 0) _ _ (by simp [lista]) rfl rfl⟩,
    ⟨_, _, rfl, rfl,
      (shows_own_row_iff renata).2.1 [(requisitos, 0)] (requisitos, 1) _ _ rfl rfl⟩,
    ⟨_, _, rfl, rfl, (shows_own_row_iff renata).2.2 [(perfil, 1)] (perfil, 0) _ _ rfl rfl⟩⟩

-- "No inscrito" is shown in the green of the approved workshop.
theorem not_shows_own_row_noInscrito :
    ¬((∀ (user : User) (before : List (TableViewControllerAWorkshop × ℕ))
        (last : TableViewControllerAWorkshop × ℕ) (reused fresh : TableViewWorkshopCell),
        (∀ call ∈ before ++ [last], call.1.user = user) →
        Transition.run (configure TableViewControllerAWorkshop.cellForRowAt) .storyboard
          (before ++ [last]) = some reused →
        configure TableViewControllerAWorkshop.cellForRowAt .storyboard last = some fresh →
        reused = fresh) ∧
      (∀ (before : List (ViewControllerWorkshop × ℕ)) (last : ViewControllerWorkshop × ℕ)
        (reused fresh : TableViewSingleWorkshopCell),
        Transition.run (configure ViewControllerWorkshop.cellForRowAt) .storyboard
          (before ++ [last]) = some reused →
        configure ViewControllerWorkshop.cellForRowAt .storyboard last = some fresh →
        reused = fresh) ∧
      ∀ (before : List (ViewControllerPerfil × ℕ)) (last : ViewControllerPerfil × ℕ)
        (reused fresh : TableViewPerfilCell),
        Transition.run (configure ViewControllerPerfil.cellForRowAt) .storyboard
          (before ++ [last]) = some reused →
        configure ViewControllerPerfil.cellForRowAt .storyboard last = some fresh →
        reused = fresh) := by
  intro h
  have hsame := h.1 renata [(lista, 0)] (lista, 1) _ _ (by simp [lista]) rfl rfl
  exact absurd hsame (by decide)

end AppPrepanet.Tablas
