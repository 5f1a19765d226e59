import AppPrepanet.ViewControllerWorkshop.Estado

namespace AppPrepanet.ViewControllerWorkshop

open Firestore

section LastStatus

variable {workshop : Workshop} {earlier later : List Inscripcion}

-- What stands after the new entry has the last word.
theorem lastStatus_insert {new : Inscripcion} (hnew : new.wkID = workshop.wkID) :
    lastStatus workshop (earlier ++ new :: later) =
      some ((lastStatus workshop later).getD new.status) := by
  have hsplit : earlier ++ new :: later = (earlier ++ [new]) ++ later := by simp
  rw [hsplit]
  unfold lastStatus
  rw [Loop.findRev?_append]
  cases hlater : later.findRev? fun inscripcion => decide (inscripcion.wkID = workshop.wkID) with
  | none => simp [hnew]
  | some found => simp

end LastStatus

-- The documents are decoded one by one.
theorem mapM_insert {before after : List Document} {inscripciones : List Inscripcion}
    (hm : (before ++ after).mapM inscripcionOf = some inscripciones) :
    ∃ earlier later, inscripciones = earlier ++ later ∧
      after.mapM inscripcionOf = some later ∧
      ∀ document new, inscripcionOf document = some new →
        (before ++ document :: after).mapM inscripcionOf = some (earlier ++ new :: later) := by
  simp only [List.mapM_append, Option.bind_eq_bind, Option.bind_eq_some_iff, Option.pure_def,
    Option.some.injEq] at hm
  obtain ⟨earlier, hbefore, later, hafter, rfl⟩ := hm
  refine ⟨earlier, later, rfl, hafter, fun document new hnew => ?_⟩
  simp [List.mapM_append, List.mapM_cons, hbefore, hafter, hnew]

-- A document for this workshop reads as an inscripcion for this workshop.
theorem forall_tallerID_ne_iff {documents : List Document} {inscripciones : List Inscripcion}
    (hm : documents.mapM inscripcionOf = some inscripciones) (wkID : String) :
    (∀ document ∈ documents, document.string "tallerID" ≠ some wkID) ↔
      ∀ inscripcion ∈ inscripciones, inscripcion.wkID ≠ wkID := by
  have hids : inscripciones.map (fun inscripcion => some inscripcion.wkID) =
      documents.map fun document => document.string "tallerID" :=
    Loop.mapM_eq_some_map (fun _ _ h => (inscripcionOf_eq_some_iff.mp h).1.symm) hm
  have hdocuments : (∀ id ∈ documents.map (·.string "tallerID"), id ≠ some wkID) ↔
      ∀ id ∈ inscripciones.map (fun inscripcion => some inscripcion.wkID), id ≠ some wkID := by
    rw [hids]
  rw [List.forall_mem_map, List.forall_mem_map] at hdocuments
  simpa using hdocuments

-- What a screen shows after an answer in which its workshop is taken, but by no enrolment
-- that was accepted.
theorem enrolmentState_of_enrolled {screen : ViewControllerWorkshop}
    (henrolled : Enrolled screen.workshop screen.inscripciones)
    (hlook : ∀ inscripcion ∈ screen.inscripciones, inscripcion.wkID = screen.workshop.wkID →
      ¬Admitted inscripcion.status) :
    screen.fetchCompletion.enrolmentState =
      { isEnabled := false
        title := screen.btInscripcion.title
        backgroundColor := screen.btInscripcion.backgroundColor
        lbDescEstado :=
          (lastStatus screen.workshop screen.inscripciones).getD screen.lbDescEstado.text } := by
  have hdisabled : screen.fetchCompletion.btInscripcion.isEnabled = false := by
    rw [Bool.eq_false_iff]
    intro henabled
    exact (screen.fetchCompletion_enabled.mp henabled).2 henrolled
  rw [screen.fetchCompletion_enrolmentState hlook, hdisabled]

section LocalUpdate

variable {workshop : Workshop} {user : User} {inscripciones : List Inscripcion}

-- What the tap and its write leave on a screen that was free to enrol.
theorem enrolmentState_patched {screen : ViewControllerWorkshop}
    (hfree : ¬Enrolled screen.workshop screen.inscripciones) :
    (screen.fetchCompletion.enrollBt.enrollStudentCompletion none).enrolmentState =
      { isEnabled := false
        title := screen.btInscripcion.title
        backgroundColor := screen.btInscripcion.backgroundColor
        lbDescEstado := "En Proceso" } := by
  obtain ⟨htitle, hcolor⟩ := screen.fetchCompletion_look fun inscripcion hi hid hadmitted =>
    hfree ⟨inscripcion, hi, hid, hadmitted.handled⟩
  simp only [enrolmentState, enrollBt, enrollStudent, enrollStudentCompletion, htitle, hcolor]

theorem enrolmentState_of_completed
    (hfree : ¬Enrolled workshop inscripciones) :
    ({ (storyboard workshop user).viewDidLoad with
        inscripciones := inscripciones }.fetchCompletion.enrollBt.enrollStudentCompletion
          none).enrolmentState =
      { isEnabled := false
        title := "Inscribirse"
        backgroundColor := .systemBlue
        lbDescEstado := "En Proceso" } := by
  rw [enrolmentState_patched (by simpa [storyboard] using hfree)]
  simp [storyboard]

-- The same screen opened again, with the new entry between the earlier and the later ones.
theorem enrolmentState_of_reopened {earlier later : List Inscripcion} {new : Inscripcion}
    (hfree : ¬Enrolled workshop (earlier ++ later)) (hid : new.wkID = workshop.wkID)
    (hstatus : new.status = "En Proceso") :
    { (storyboard workshop user).viewDidLoad with
        inscripciones := earlier ++ new :: later }.fetchCompletion.enrolmentState =
      { isEnabled := false
        title := "Inscribirse"
        backgroundColor := .systemBlue
        lbDescEstado := (lastStatus workshop later).getD "En Proceso" } := by
  have henrolled : Enrolled workshop (earlier ++ new :: later) :=
    ⟨new, by simp, hid, .inl hstatus⟩
  have hlook : ∀ inscripcion ∈ earlier ++ new :: later, inscripcion.wkID = workshop.wkID →
      ¬Admitted inscripcion.status := by
    intro inscripcion hi hmatch hadmitted
    rcases List.mem_append.mp hi with hi | hi
    · exact hfree ⟨inscripcion, List.mem_append_left _ hi, hmatch, hadmitted.handled⟩
    · rcases List.mem_cons.mp hi with rfl | hi
      · rcases hadmitted with h | h
        · exact absurd (hstatus.symm.trans h) (by decide)
        · exact absurd (hstatus.symm.trans h) (by decide)
      · exact hfree ⟨inscripcion, List.mem_append_right _ hi, hmatch, hadmitted.handled⟩
  rw [enrolmentState_of_enrolled (by simpa [storyboard] using henrolled)
    (by simpa [storyboard] using hlook)]
  simp [storyboard, lastStatus_insert hid, hstatus]

-- The label of the reopened screen is right unless a later entry overwrites it, and the
-- status of such an entry is none of the three.
theorem getD_lastStatus_eq_iff {earlier later : List Inscripcion}
    (hfree : ¬Enrolled workshop (earlier ++ later)) :
    "En Proceso" = (lastStatus workshop later).getD "En Proceso" ↔
      ∀ inscripcion ∈ later, inscripcion.wkID ≠ workshop.wkID := by
  rw [← lastStatus_eq_none_iff]
  cases hlater : lastStatus workshop later with
  | none => simp
  | some status =>
      obtain ⟨inscripcion, hi, hid, rfl⟩ := exists_of_lastStatus hlater
      have hne : inscripcion.status ≠ "En Proceso" := fun hstatus =>
        hfree ⟨inscripcion, List.mem_append_right _ hi, hid, .inl hstatus⟩
      simp [hne.symm]

end LocalUpdate

-- The screen that patched itself and a new one agree exactly when the new document comes
-- after every other document for the workshop.
theorem localUpdate_eq_reload_iff (workshop : Workshop) (user : User)
    (before after : List Document) (documentID : String) (opened : ViewControllerWorkshop)
    (hfetch : (storyboard workshop user).viewDidLoad.getEnrollmentStatus (.ok (before ++ after)) =
      some opened)
    (henabled : opened.btInscripcion.isEnabled = true) :
    ∃ reopened, (storyboard workshop user).viewDidLoad.getEnrollmentStatus
        (.ok (before ++ ⟨documentID, opened.enrollData⟩ :: after)) = some reopened ∧
      ((opened.enrollBt.enrollStudentCompletion none).enrolmentState = reopened.enrolmentState ↔
        ∀ document ∈ after, document.string "tallerID" ≠ some workshop.wkID) := by
  obtain ⟨inscripciones, hm, hopened⟩ := (getEnrollmentStatus_ok _).mp hfetch
  obtain ⟨earlier, later, rfl, hlater, hinsert⟩ := mapM_insert hm
  have hlist : ∀ items, (storyboard workshop user).viewDidLoad.inscripciones ++ items = items := by
    simp [storyboard]
  rw [hlist] at hopened
  -- the button was enabled, so no entry for this workshop has one of the three statuses
  have hfree : ¬Enrolled workshop (earlier ++ later) := by
    rw [hopened] at henabled
    have hnot := ((fetchCompletion_enabled _).mp henabled).2
    simpa [storyboard] using hnot
  have hworkshop : opened.workshop = workshop := by simp [hopened, storyboard]
  have hnew := opened.inscripcionOf_enrollData documentID
  refine ⟨_, (getEnrollmentStatus_ok _).mpr ⟨_, hinsert _ _ hnew, rfl⟩, ?_⟩
  rw [hlist, enrolmentState_of_reopened hfree (by rw [enrolment, hworkshop]) rfl, hopened,
    enrolmentState_of_completed hfree]
  simp only [EnrolmentState.mk.injEq, true_and]
  rw [getD_lastStatus_eq_iff hfree]
  exact (forall_tallerID_ne_iff hlater workshop.wkID).symm

private def mindfulness : Workshop :=
  { wkID := "1", title := "Mindfulness", descr := "", req := [], startDate := 0, endDate := 5 }

private def hector : User :=
  { nombre := "Hector", email := "hector@tec.mx", matricula := "A08", campus := "MTY",
    rol := "Alumno" }

private def rechazada : Document :=
  ⟨"d1", [("tallerTitle", .string "Mindfulness"), ("Date", .timestamp ⟨0⟩),
    ("tallerID", .string "1"), ("campusID", .string "MTY"), ("matricula", .string "A08"),
    ("status", .string "Rechazado")]⟩

theorem localUpdate_eq_reload_iff_rechazada :
    ∃ opened, (storyboard mindfulness hector).viewDidLoad.getEnrollmentStatus
        (.ok ([rechazada] ++ [])) = some opened ∧
      ∃ reopened, (storyboard mindfulness hector).viewDidLoad.getEnrollmentStatus
          (.ok ([rechazada] ++ ⟨"d2", opened.enrollData⟩ :: [])) = some reopened ∧
        ((opened.enrollBt.enrollStudentCompletion none).enrolmentState =
            reopened.enrolmentState ↔
          ∀ document ∈ ([] : List Document),
            document.string "tallerID" ≠ some mindfulness.wkID) :=
  ⟨_, rfl, localUpdate_eq_reload_iff mindfulness hector [rechazada] [] "d2" _ rfl (by decide)⟩

-- The new document sorts before the rejected one.
theorem not_localUpdate_eq_reload_before :
    ¬∀ (workshop : Workshop) (user : User) (before after : List Document) (documentID : String)
      (opened reopened : ViewControllerWorkshop),
      (storyboard workshop user).viewDidLoad.getEnrollmentStatus (.ok (before ++ after)) =
        some opened →
      opened.btInscripcion.sendsAction = true →
      (storyboard workshop user).viewDidLoad.getEnrollmentStatus
        (.ok (before ++ ⟨documentID, opened.enrollData⟩ :: after)) = some reopened →
      (opened.enrollBt.enrollStudentCompletion none).enrolmentState =
        reopened.enrolmentState := by
  intro h
  have hsame := h mindfulness hector [] [rechazada] "d0" _ _ rfl (by decide) rfl
  exact absurd hsame (by decide)

end AppPrepanet.ViewControllerWorkshop
