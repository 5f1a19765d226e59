import AppPrepanet.Coleccion.Isolation
import AppPrepanet.Servidor.Effects

namespace AppPrepanet.Servidor

open Coleccion Firestore Function Inscripciones Named ViewControllerWorkshop

def Sent.write (screens : List (ℕ × ℕ)) (sent : Sent) : Write where
  screen := screens.idxOf sent.screen
  data := sent.data
  stage := sent.stage

def Sent.isOf (matricula : String) (sent : Sent) : Prop :=
  (⟨"", sent.data⟩ : Document).fieldIs "matricula" matricula = true

-- One student's share of it all: the documents of the student, and of all devices the screens
-- that show the student and what they have sent. `screens` and `writes` are their names.
structure Follows (student : User) (screens writes : List (ℕ × ℕ)) (sent : List Sent)
    (state : State) (image : Inscripciones.State) : Prop where
  user : image.student = student
  collection : image.collection = ofStudent student.matricula state.collection
  shows : Selected (fun screen : Screen => screen.view.user.matricula = student.matricula) screens
    state.screenAt image.screens
  sends : Selected (Sent.isOf student.matricula) writes state.sentAt sent
  writes : image.writes = sent.map (Sent.write screens)

-- The student is the only user with this matricula.
def Only (student : User) (state : State) : Prop :=
  ∀ device ∈ state.devices, ∀ screen ∈ device.screens,
    screen.view.user.matricula = student.matricula → screen.view.user = student

instance (student : User) (state : State) : Decidable (Only student state) := by
  unfold Only; infer_instance

-- No two users that detail screens show have one matricula.
def OneUserEach (state : State) : Prop :=
  ∀ device ∈ state.devices, ∀ screen ∈ device.screens, Only screen.view.user state

instance (state : State) : Decidable (OneUserEach state) := by
  unfold OneUserEach; infer_instance

-- The event as the student's share of it shows it.
inductive Renders (screens writes : List (ℕ × ℕ)) (state : State) :
    Event → Inscripciones.Event → Prop
  | openDetail (index row : ℕ) (workshop : Workshop) :
      Renders screens writes state (.app index (.nav (.openDetail row))) (.openScreen workshop)
  | read (index detail : ℕ) (own : List ℕ) (documents : List Document) :
      Renders screens writes state (.read index detail documents)
        (.read (screens.idxOf (index, detail)) own documents)
  | deliver (index detail : ℕ) : Renders screens writes state (.deliver index detail)
      (.deliver (screens.idxOf (index, detail)))
  | deliverError (index detail : ℕ) (err : String) :
      Renders screens writes state (.deliverError index detail err)
        (.deliverError (screens.idxOf (index, detail)) err)
  | enrollBt {index detail : ℕ} {device : Device} (hdevice : state.devices[index]? = some device)
      (hopen : device.app.nav.openDetail = some detail) (hname : (index, detail) ∈ screens) :
      Renders screens writes state (.app index (.nav .enrollBt))
        (.tap (screens.idxOf (index, detail)))
  | store (index write : ℕ) (documentID : String) :
      Renders screens writes state (.store index write documentID)
        (.store (writes.idxOf (index, write)) documentID)
  | completed (index write : ℕ) : Renders screens writes state (.completed index write)
      (.completed (writes.idxOf (index, write)))
  | failed (index write : ℕ) (err : String) : Renders screens writes state (.failed index write err)
      (.failed (writes.idxOf (index, write)) err)
  | setStatus (documentID status : String) :
      Renders screens writes state (.setStatus documentID status) (.setStatus documentID status)

section Screens

variable {state next : State} {event : Event}

theorem only_iff {student : User} : Only student state ↔ ∀ name screen,
    state.screenAt name = some screen → screen.view.user.matricula = student.matricula →
      screen.view.user = student := by
  constructor
  · rintro h ⟨index, detail⟩ screen hscreen
    obtain ⟨device, hdevice, hscreen⟩ := find_eq_some_iff.mp hscreen
    exact h device (List.mem_of_getElem? hdevice) screen (List.mem_of_getElem? hscreen)
  · intro h device hdevice screen hscreen
    obtain ⟨index, hindex⟩ := List.getElem?_of_mem hdevice
    obtain ⟨detail, hdetail⟩ := List.getElem?_of_mem hscreen
    exact h (index, detail) screen (find_eq_some_iff.mpr ⟨device, hindex, hdetail⟩)

-- What has been sent was filled in on its screen.
theorem sent_enrollData (hlinked : ∀ device ∈ state.devices, Linked device) {name : ℕ × ℕ}
    {sent : Sent} (hsent : state.sentAt name = some sent) :
    ∃ screen, state.screenAt sent.screen = some screen ∧ sent.data = screen.view.enrollData := by
  obtain ⟨index, write⟩ := name
  obtain ⟨device, hdevice, hwrite⟩ := find_eq_some_iff.mp hsent
  obtain ⟨added, hadded, _, hscreen, hdata⟩ := sent_eq_some_iff.mp hwrite
  have hdev := hlinked device (List.mem_of_getElem? hdevice)
  obtain ⟨shown, hshown, henroll⟩ := hdev.added_enrollData hadded
  obtain ⟨fetch, hfetch⟩ := hdev.exists_screen hshown
  refine ⟨⟨shown.view, fetch⟩, ?_, hdata.trans henroll⟩
  rw [hscreen]
  exact find_eq_some_iff.mpr
    ⟨device, hdevice, screens_eq_some_iff.mpr ⟨shown, hshown, rfl, hfetch⟩⟩

theorem isOf_iff {screen : Screen} {sent : Sent} (hdata : sent.data = screen.view.enrollData)
    (matricula : String) : sent.isOf matricula ↔ screen.view.user.matricula = matricula := by
  rw [Sent.isOf, hdata, fieldIs_enrollData, decide_eq_true_iff]

-- Screens stay, and their users.
theorem Effect.user (heffect : Effect state next event) {name : ℕ × ℕ} {screen : Screen}
    (hscreen : state.screenAt name = some screen) :
    ∃ later, next.screenAt name = some later ∧ later.view.user = screen.view.user := by
  have hset : ∀ {other : ℕ × ℕ} {old new : Screen}, state.screenAt other = some old →
      next.screenAt = update state.screenAt other (some new) →
        new.view.user = old.view.user →
          ∃ later, next.screenAt name = some later ∧ later.view.user = screen.view.user := by
    intro other old new hold hnext huser
    by_cases heq : name = other
    · subst heq
      cases Option.some.inj (hold.symm.trans hscreen)
      exact ⟨new, by rw [hnext, update_self], huser⟩
    · exact ⟨screen, by rw [hnext, update_of_ne heq, hscreen], rfl⟩
  cases heffect with
  | quiet _ hscreens _ _ | store _ _ _ hscreens _ _ | setStatus _ _ hscreens _ _ =>
      exact ⟨screen, by rw [hscreens, hscreen], rfl⟩
  | @openDetail _ _ other workshop user hnone hscreens _ _ =>
      have hne : name ≠ other := by
        rintro rfl
        cases hscreen.symm.trans hnone
      exact ⟨screen, by rw [hscreens, update_of_ne hne, hscreen], rfl⟩
  | read _ hold _ _ hscreens _ _ => exact hset hold hscreens rfl
  | deliver hold _ hview hscreens _ _ =>
      refine hset hold hscreens ?_
      obtain ⟨inscripciones, _, rfl⟩ := (getEnrollmentStatus_ok _).mp hview
      simp
  | deliverError hold _ hscreens _ _ => exact hset hold hscreens rfl
  | enrollBt _ _ hold _ _ hscreens _ _ => exact hset hold hscreens rfl
  | completed _ _ hold hscreens _ _ | failed _ _ hold hscreens _ _ =>
      exact hset hold hscreens rfl

theorem Only.of_next {student : User} (h : Only student next) (heffect : Effect state next event) :
    Only student state := by
  rw [only_iff] at h ⊢
  intro name screen hscreen hmatricula
  obtain ⟨later, hlater, huser⟩ := heffect.user hscreen
  rw [← huser] at hmatricula ⊢
  exact h name later hlater hmatricula

end Screens

end AppPrepanet.Servidor
