import AppPrepanet.Inscripciones.Steps
import AppPrepanet.ViewControllerWorkshop.Looks

namespace AppPrepanet.Inscripciones

open Firestore ViewControllerWorkshop

-- What the button of a screen tells, in terms of the inscripciones that it has read. Taps and
-- callbacks may come at any time.
structure Looks (screen : Screen) : Prop where
  waiting : screen.fetch.answered = false → screen.view.inscripciones = []
  button : Dressed screen.view (lastAdmitted screen.view.workshop screen.view.inscripciones)
  enabled : screen.view.btInscripcion.isEnabled = true →
    ¬Enrolled screen.view.workshop screen.view.inscripciones ∧
      (screen.fetch.answered = true →
        CountApproved screen.view.workshop screen.view.inscripciones)

-- An enrolment of this screen has been stored, and its callback has run.
def Acknowledged (events : List Event) (writes : List Write) (index : ℕ) : Prop :=
  ∃ position write, Event.completed position ∈ events ∧ writes[position]? = some write ∧
    write.screen = index

-- The label says what the screen has read, or 'En Proceso' since such a callback.
def Labelled (events : List Event) (writes : List Write) (index : ℕ)
    (view : ViewControllerWorkshop) : Prop :=
  view.lbDescEstado.text =
      (lastStatus view.workshop view.inscripciones).getD "No Inscrito" ∨
    view.lbDescEstado.text = "En Proceso" ∧ Acknowledged events writes index

section Screens

variable {screen : Screen}

theorem looks_viewDidLoad (workshop : Workshop) (student : User) :
    Looks ⟨(storyboard workshop student).viewDidLoad, .issued⟩ where
  waiting := by simp [storyboard]
  button := by
    by_cases hrol : student.rol = "Coord" <;>
      simp [Dressed, lastAdmitted, ViewControllerWorkshop.viewDidLoad, reloadTableView, storyboard,
        hrol]
  enabled := by simp [Enrolled, storyboard, Fetch.answered]

-- Until the answer comes the button wears what the storyboard gave it.
theorem Looks.undressed (h : Looks screen) (hfetch : screen.fetch.answered = false) :
    Dressed screen.view none := by
  have hbutton := h.button
  rw [h.waiting hfetch] at hbutton
  exact hbutton

theorem Looks.deliver (h : Looks screen) (hfetch : screen.fetch.answered = false)
    {documents : List Document} {view : ViewControllerWorkshop}
    (hview : screen.view.getEnrollmentStatus (.ok documents) = some view) :
    Looks ⟨view, .delivered documents⟩ := by
  obtain ⟨inscripciones, _, rfl⟩ := screen.view.getEnrollmentStatus_ok.mp hview
  have hnone := h.undressed hfetch
  rw [h.waiting hfetch]
  constructor
  · simp [Fetch.answered]
  · have hread : Dressed { screen.view with inscripciones := inscripciones } none := hnone
    simp only [fetchCompletion_workshop, fetchCompletion_inscripciones]
    exact hread.fetchCompletion
  · intro henabled
    have hguards := (fetchCompletion_isEnabled_iff _).mp henabled
    simp only [fetchCompletion_workshop, fetchCompletion_inscripciones]
    exact ⟨hguards.2, fun _ => hguards.1⟩

-- As long as nothing has been delivered, nothing new may have been read.
theorem Looks.fetching (h : Looks screen) {fetch : Fetch}
    (hfetch : screen.fetch.answered = false) (hnext : fetch.answered = false) :
    Looks { screen with fetch := fetch } :=
  ⟨fun _ => h.waiting hfetch, h.button,
    fun he => ⟨(h.enabled he).1, fun hanswered => by simp [hnext] at hanswered⟩⟩

theorem Looks.enrollBt (h : Looks screen) :
    Looks { screen with view := screen.view.enrollBt } :=
  ⟨h.waiting, h.button, by simp [ViewControllerWorkshop.enrollBt, enrollStudent]⟩

theorem Looks.completion (h : Looks screen) (err : Option String) :
    Looks { screen with view := screen.view.enrollStudentCompletion err } := by
  cases err with
  | none => exact ⟨h.waiting, h.button, h.enabled⟩
  | some err => exact h

end Screens

theorem Fetch.answered_of_outstanding {fetch : Fetch} (h : fetch.outstanding = true) :
    fetch.answered = false := by
  cases fetch <;> simp_all [Fetch.outstanding, Fetch.answered]

theorem looks_step {state next : State} {event : Event}
    (h : ∀ screen ∈ state.screens, Looks screen) (hstep : Step state event next) :
    ∀ screen ∈ next.screens, Looks screen := by
  refine hstep.forall_screens_guarded h ?_ ?_ ?_ ?_ ?_ ?_
  · intro workshop _
    exact looks_viewDidLoad workshop state.student
  · intro screen own documents hs hfetch _
    exact hs.fetching (by rw [hfetch]; rfl) rfl
  · intro screen documents view hs hfetch hview
    exact hs.deliver (by rw [hfetch]; rfl) hview
  · intro screen hs houtstanding
    exact hs.fetching (Fetch.answered_of_outstanding houtstanding) rfl
  · intro screen hs _
    exact hs.enrollBt
  · intro write _ screen err _ _ hs
    exact hs.completion err

section Label

variable {state next : State} {event : Event} {events : List Event} {index : ℕ}
  {view : ViewControllerWorkshop}

theorem Acknowledged.step (h : Acknowledged events state.writes index)
    (hstep : Step state event next) : Acknowledged (events ++ [event]) next.writes index := by
  obtain ⟨position, write, hcompleted, hwrite, hscreen⟩ := h
  obtain ⟨later, hlater, hadvances⟩ := hstep.extends_writes position write hwrite
  exact ⟨position, later, List.mem_append_left _ hcompleted, hlater,
    hadvances.1.trans hscreen⟩

-- The answer replaces a label that it has a status for.
theorem Labelled.deliver {writes : List Write} (h : Labelled events writes index view)
    (hnone : view.inscripciones = []) {documents : List Document} {after : ViewControllerWorkshop}
    (hview : view.getEnrollmentStatus (.ok documents) = some after) :
    Labelled events writes index after := by
  obtain ⟨inscripciones, _, rfl⟩ := view.getEnrollmentStatus_ok.mp hview
  unfold Labelled at h ⊢
  rw [hnone] at h ⊢
  simp only [fetchCompletion_text, fetchCompletion_workshop, fetchCompletion_inscripciones]
  cases hlast : lastStatus view.workshop ([] ++ inscripciones) with
  | none => exact h
  | some status => exact .inl rfl

theorem labelled_step (hlooks : ∀ screen ∈ state.screens, Looks screen)
    (h : ∀ (index : ℕ) (screen : Screen), state.screens[index]? = some screen →
      Labelled events state.writes index screen.view)
    (hstep : Step state event next) :
    ∀ (index : ℕ) (screen : Screen), next.screens[index]? = some screen →
      Labelled (events ++ [event]) next.writes index screen.view := by
  refine hstep.forall_screens_at
    (Q := fun index screen => Labelled (events ++ [event]) next.writes index screen.view)
    ?_ ?_ ?_ ?_ ?_ ?_ ?_
  · intro index screen hscreen
    exact (h index screen hscreen).imp_right fun hown => ⟨hown.1, hown.2.step hstep⟩
  · intro workshop _
    by_cases hrol : state.student.rol = "Coord" <;>
      simp [Labelled, lastStatus, ViewControllerWorkshop.viewDidLoad, reloadTableView, storyboard,
        hrol]
  · intro index screen own documents hs _ _
    exact hs
  · intro index screen documents view hscreen hs hfetch hview
    have hwaiting := (hlooks screen (List.mem_of_getElem? hscreen)).waiting (by rw [hfetch]; rfl)
    exact hs.deliver hwaiting hview
  · intro index screen hs _
    exact hs
  · intro index screen _ _ hs _
    exact hs
  · intro position write screen err hwrite hstored _ hs
    cases err with
    | none =>
        obtain ⟨rfl, _⟩ := hstored rfl
        obtain ⟨later, hlater, hadvances⟩ := hstep.extends_writes position write hwrite
        exact .inr ⟨rfl, position, later, by simp, hlater, hadvances.1⟩
    | some err => exact hs

-- What all screens tell after these events.
structure Shows (events : List Event) (state : State) : Prop where
  looks : ∀ screen ∈ state.screens, Looks screen
  labels : ∀ (index : ℕ) (screen : Screen), state.screens[index]? = some screen →
    Labelled events state.writes index screen.view

theorem Shows.step (h : Shows events state) (hstep : Step state event next) :
    Shows (events ++ [event]) next :=
  ⟨looks_step h.looks hstep, labelled_step h.looks h.labels hstep⟩

theorem shows_run {student : User} {collection : List Document} {final : State}
    (hrun : Transition.run step (start student collection) events = some final) :
    Shows events final :=
  Transition.run_history ⟨by simp [start], by simp [start]⟩
    (fun _ _ _ _ h hstep => Shows.step h (Step.of_step hstep)) hrun

end Label

private def marcos : User :=
  { nombre := "Marcos", email := "marcos@tec.mx", matricula := "A12", campus := "MTY",
    rol := "Alumno" }

private def comunicacion : Workshop :=
  { wkID := "1", title := "Comunicacion", descr := "", req := [], startDate := 0, endDate := 5 }

private def inscrito : Document :=
  ⟨"d1", [("tallerTitle", .string "Comunicacion"), ("Date", .timestamp ⟨0⟩),
    ("tallerID", .string "1"), ("campusID", .string "MTY"), ("matricula", .string "A12"),
    ("status", .string "Inscrito")]⟩

private def tappedEarly : List Event :=
  [.openScreen comunicacion, .tap 0, .read 0 [] [inscrito], .deliver 0, .store 0 "d2", .completed 0]

end AppPrepanet.Inscripciones
