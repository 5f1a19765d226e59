import AppPrepanet.ViewControllerWorkshop.Button
import AppPrepanet.ViewControllerWorkshop.Documents

namespace AppPrepanet.ViewControllerWorkshop

open Firestore

-- What the screen shows of the student's enrolment in its workshop.
structure EnrolmentState where
  isEnabled : Bool
  title : String
  backgroundColor : UIColor
  lbDescEstado : String
deriving DecidableEq

def enrolmentState (screen : ViewControllerWorkshop) : EnrolmentState where
  isEnabled := screen.btInscripcion.isEnabled
  title := screen.btInscripcion.title
  backgroundColor := screen.btInscripcion.backgroundColor
  lbDescEstado := screen.lbDescEstado.text

-- The status of the last inscripcion for this workshop.
def lastStatus (workshop : Workshop) (inscripciones : List Inscripcion) : Option String :=
  (inscripciones.findRev? fun inscripcion => inscripcion.wkID = workshop.wkID).map (·.status)

section LastStatus

variable {workshop : Workshop} {inscripciones : List Inscripcion}

theorem lastStatus_eq_none_iff :
    lastStatus workshop inscripciones = none ↔
      ∀ inscripcion ∈ inscripciones, inscripcion.wkID ≠ workshop.wkID := by
  simp [lastStatus, List.find?_eq_none]

theorem exists_of_lastStatus {status : String}
    (h : lastStatus workshop inscripciones = some status) :
    ∃ inscripcion ∈ inscripciones,
      inscripcion.wkID = workshop.wkID ∧ inscripcion.status = status := by
  obtain ⟨inscripcion, hfound, rfl⟩ := Option.map_eq_some_iff.mp h
  rw [List.findRev?_eq_find?_reverse] at hfound
  have hmem := List.mem_of_find?_eq_some hfound
  have hmatch := List.find?_some hfound
  exact ⟨inscripcion, List.mem_reverse.mp hmem, by simpa using hmatch, rfl⟩

theorem statusOf_eq_getD :
    statusOf inscripciones workshop.wkID = (lastStatus workshop inscripciones).getD "" := rfl

end LastStatus

section Loop

variable (screen : ViewControllerWorkshop)

theorem applyStatus_text (inscripcion : Inscripcion) :
    (screen.applyStatus inscripcion).lbDescEstado.text =
      if inscripcion.wkID = screen.workshop.wkID then inscripcion.status
      else screen.lbDescEstado.text := by
  unfold applyStatus
  split_ifs <;> rfl

theorem foldl_applyStatus_text (items : List Inscripcion) :
    (items.foldl applyStatus screen).lbDescEstado.text =
      (lastStatus screen.workshop items).getD screen.lbDescEstado.text := by
  have hloop := Loop.foldl_overwrite
    (fun inscripcion : Inscripcion => decide (inscripcion.wkID = screen.workshop.wkID))
    (·.status) screen.lbDescEstado.text items
  simp only [decide_eq_true_eq] at hloop
  rw [lastStatus, ← hloop]
  apply Loop.foldl_project (fun screen : ViewControllerWorkshop => screen.lbDescEstado.text)
    (fun state => state.workshop = screen.workshop)
  · intro state inscripcion hworkshop
    rw [applyStatus_workshop, hworkshop]
  · intro state inscripcion hworkshop
    rw [applyStatus_text, hworkshop]
  · rfl

-- The two statuses that also change how the button looks.
def Admitted (status : String) : Prop := status = "Inscrito" ∨ status = "Aprobado"

theorem Admitted.handled {status : String} (h : Admitted status) : Handled status := .inr h

theorem applyStatus_look {inscripcion : Inscripcion}
    (h : inscripcion.wkID = screen.workshop.wkID → ¬Admitted inscripcion.status) :
    (screen.applyStatus inscripcion).btInscripcion.title = screen.btInscripcion.title ∧
      (screen.applyStatus inscripcion).btInscripcion.backgroundColor =
        screen.btInscripcion.backgroundColor := by
  unfold applyStatus
  by_cases hid : inscripcion.wkID = screen.workshop.wkID
  · have hinscrito : inscripcion.status ≠ "Inscrito" := fun hi => h hid (.inl hi)
    have haprobado : inscripcion.status ≠ "Aprobado" := fun ha => h hid (.inr ha)
    simp only [hid, hinscrito, haprobado, if_true, if_false]
    split_ifs <;> exact ⟨rfl, rfl⟩
  · simp only [hid, if_false, and_self]

theorem foldl_applyStatus_look {items : List Inscripcion}
    (h : ∀ inscripcion ∈ items, inscripcion.wkID = screen.workshop.wkID →
      ¬Admitted inscripcion.status) :
    (items.foldl applyStatus screen).btInscripcion.title = screen.btInscripcion.title ∧
      (items.foldl applyStatus screen).btInscripcion.backgroundColor =
        screen.btInscripcion.backgroundColor := by
  induction items generalizing screen with
  | nil => exact ⟨rfl, rfl⟩
  | cons item rest ih =>
      have hitem := screen.applyStatus_look (h item List.mem_cons_self)
      have hrest := ih (screen.applyStatus item) fun inscripcion hi hid => by
        rw [applyStatus_workshop] at hid
        exact h inscripcion (List.mem_cons_of_mem _ hi) hid
      exact ⟨hrest.1.trans hitem.1, hrest.2.trans hitem.2⟩

end Loop

section FetchCompletion

variable (screen : ViewControllerWorkshop)

@[simp] theorem initializeReqObject_lbDescEstado :
    screen.initializeReqObject.lbDescEstado = screen.lbDescEstado :=
  screen.initializeReqObject_frame (·.lbDescEstado) fun _ _ _ => rfl

-- After the answer the label shows the last status, whatever it is.
theorem fetchCompletion_text :
    screen.fetchCompletion.lbDescEstado.text =
      (lastStatus screen.workshop screen.inscripciones).getD screen.lbDescEstado.text := by
  unfold fetchCompletion isEnrolled
  split_ifs <;> simp [foldl_applyStatus_text]

theorem fetchCompletion_look
    (h : ∀ inscripcion ∈ screen.inscripciones, inscripcion.wkID = screen.workshop.wkID →
      ¬Admitted inscripcion.status) :
    screen.fetchCompletion.btInscripcion.title = screen.btInscripcion.title ∧
      screen.fetchCompletion.btInscripcion.backgroundColor =
        screen.btInscripcion.backgroundColor := by
  unfold fetchCompletion isEnrolled
  split_ifs <;> rw [initializeReqObject_btInscripcion] <;>
    exact foldl_applyStatus_look _ h

-- An answer without an enrolment that was accepted changes the label and enables or
-- disables the button, and that is all that can be seen.
theorem fetchCompletion_enrolmentState
    (h : ∀ inscripcion ∈ screen.inscripciones, inscripcion.wkID = screen.workshop.wkID →
      ¬Admitted inscripcion.status) :
    screen.fetchCompletion.enrolmentState =
      { isEnabled := screen.fetchCompletion.btInscripcion.isEnabled
        title := screen.btInscripcion.title
        backgroundColor := screen.btInscripcion.backgroundColor
        lbDescEstado :=
          (lastStatus screen.workshop screen.inscripciones).getD screen.lbDescEstado.text } := by
  obtain ⟨htitle, hcolor⟩ := screen.fetchCompletion_look h
  rw [enrolmentState, htitle, hcolor, fetchCompletion_text]

end FetchCompletion

section ViewDidLoad

variable (screen : ViewControllerWorkshop)

@[simp] theorem viewDidLoad_text :
    screen.viewDidLoad.lbDescEstado.text = screen.lbDescEstado.text := by
  by_cases hrol : screen.user.rol = "Coord" <;> simp [viewDidLoad, reloadTableView, hrol]

@[simp] theorem viewDidLoad_title :
    screen.viewDidLoad.btInscripcion.title = screen.btInscripcion.title := by
  by_cases hrol : screen.user.rol = "Coord" <;> simp [viewDidLoad, reloadTableView, hrol]

@[simp] theorem viewDidLoad_backgroundColor :
    screen.viewDidLoad.btInscripcion.backgroundColor = screen.btInscripcion.backgroundColor := by
  by_cases hrol : screen.user.rol = "Coord" <;> simp [viewDidLoad, reloadTableView, hrol]

end ViewDidLoad

end AppPrepanet.ViewControllerWorkshop
