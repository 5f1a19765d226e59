import AppPrepanet.Inscripciones.Steps
import AppPrepanet.Servidor.Student

namespace AppPrepanet.Servidor

open Coleccion Firestore Function Inscripciones Named ViewControllerWorkshop

section Step

variable {student : User} {screens writes : List (ℕ × ℕ)} {sent : List Sent}
  {state next : State} {image : Inscripciones.State} {event : Event}

theorem Follows.find (h : Follows student screens writes sent state image) {name : ℕ × ℕ}
    {screen : Screen} (hscreen : state.screenAt name = some screen)
    (hown : screen.view.user.matricula = student.matricula) :
    image.screens[screens.idxOf name]? = some screen :=
  h.shows.getElem?_idxOf hscreen hown

theorem Follows.mem_collection (h : Follows student screens writes sent state image)
    {document : Document} (hd : document ∈ image.collection) : document ∈ state.collection := by
  rw [h.collection] at hd
  exact (List.mem_filter.mp hd).1

-- What the student's screens have sent came from one of them.
theorem Follows.known (h : Follows student screens writes sent state image)
    (hlinked : ∀ device ∈ state.devices, Linked device) :
    ∀ item ∈ sent, item.screen ∈ screens := by
  intro item hitem
  obtain ⟨name, hname, hlookup⟩ := h.sends.exists_name hitem
  obtain ⟨screen, hscreen, hdata⟩ := sent_enrollData hlinked hlookup
  have hown := (h.sends.mem_iff name item hlookup).mp hname
  exact (h.shows.mem_iff item.screen screen hscreen).mpr ((isOf_iff hdata _).mp hown)

-- The share of a student goes one step on, or stays as it is.
inductive Advances (student : User) (screens writes : List (ℕ × ℕ)) (sent : List Sent)
    (state next : State) (image : Inscripciones.State) (event : Event) : Prop
  | stays (h : Follows student screens writes sent next image)
  | moves {own : Inscripciones.Event} {after : Inscripciones.State}
      {screens' writes' : List (ℕ × ℕ)} {sent' : List Sent}
      (hrenders : Renders screens writes state event own)
      (hstep : Inscripciones.Step image own after)
      (h : Follows student screens' writes' sent' next after)

-- One of the screens turns into another one with the same user.
theorem Follows.setScreen (h : Follows student screens writes sent state image) {name : ℕ × ℕ}
    {old new : Screen} (hold : state.screenAt name = some old)
    (hown : old.view.user.matricula = student.matricula) (huser : new.view.user = old.view.user)
    (hscreens : next.screenAt = update state.screenAt name (some new))
    (hsent : next.sentAt = state.sentAt) (hcollection : next.collection = state.collection) :
    Follows student screens writes sent next (image.setScreen (screens.idxOf name) new) := by
  refine ⟨h.user, hcollection ▸ h.collection, ?_, hsent ▸ h.sends, h.writes⟩
  rw [hscreens]
  exact h.shows.set hold hown (huser ▸ hown)

theorem Follows.otherScreen (h : Follows student screens writes sent state image) {name : ℕ × ℕ}
    {old new : Screen} (hold : state.screenAt name = some old)
    (hother : old.view.user.matricula ≠ student.matricula) (huser : new.view.user = old.view.user)
    (hscreens : next.screenAt = update state.screenAt name (some new))
    (hsent : next.sentAt = state.sentAt) (hcollection : next.collection = state.collection) :
    Follows student screens writes sent next image := by
  refine ⟨h.user, hcollection ▸ h.collection, ?_, hsent ▸ h.sends, h.writes⟩
  rw [hscreens]
  exact h.shows.keep hold hother (huser ▸ hother)

theorem advances_openDetail (h : Follows student screens writes sent state image)
    (hlinked : ∀ device ∈ state.devices, Linked device) (honly : Only student next)
    {index row : ℕ} {name : ℕ × ℕ} (workshop : Workshop) (user : User)
    (hnone : state.screenAt name = none)
    (hscreens : next.screenAt = update state.screenAt name
      (some ⟨(storyboard workshop user).viewDidLoad, .issued⟩))
    (hsent : next.sentAt = state.sentAt) (hcollection : next.collection = state.collection) :
    Advances student screens writes sent state next image
      (.app index (.nav (.openDetail row))) := by
  have huser : (storyboard workshop user).viewDidLoad.user = user := by
    rw [viewDidLoad_user]
    rfl
  by_cases hown : user.matricula = student.matricula
  · have hstudent : user = student := by
      have hnew : next.screenAt name = some ⟨(storyboard workshop user).viewDidLoad, .issued⟩ := by
        rw [hscreens, update_self]
      exact huser ▸ only_iff.mp honly name _ hnew (huser.symm ▸ hown)
    subst hstudent
    have hstep : Inscripciones.Step image (.openScreen workshop) _ := .openScreen workshop
    rw [h.user] at hstep
    have hnext : Follows user (screens ++ [name]) writes sent next
        (image.addScreen ⟨(storyboard workshop user).viewDidLoad, .issued⟩) := by
      refine ⟨h.user, hcollection ▸ h.collection, ?_, hsent ▸ h.sends, ?_⟩
      · rw [hscreens]
        exact h.shows.concat hnone (huser.symm ▸ rfl)
      · refine h.writes.trans (List.map_congr_left fun item hitem => ?_)
        rw [Sent.write, Sent.write, List.idxOf_append_of_mem (h.known hlinked item hitem)]
    exact .moves (.openDetail index row workshop) hstep hnext
  · refine .stays ⟨h.user, hcollection ▸ h.collection, ?_, hsent ▸ h.sends, h.writes⟩
    rw [hscreens]
    exact h.shows.skip hnone (huser.symm ▸ hown)

theorem matching_eq (h : Follows student screens writes sent state image) {user : User}
    (hown : user.matricula = student.matricula) : image.matching = state.matching user := by
  rw [Inscripciones.State.matching, h.user, h.collection, State.matching, hown, ofStudent,
    List.filter_filter]
  simp

-- The device of a screen of the student answers as one on which the signed-in user has made
-- these of the student's enrolments.
theorem Follows.exists_view (h : Follows student screens writes sent state image)
    {index : ℕ} {device : Device} (hdevice : state.devices[index]? = some device) {user : User}
    (hown : user.matricula = student.matricula) :
    ∃ own : List ℕ, own.Nodup ∧ image.view own = state.view device user := by
  let p : Sent → Bool := fun item => item.author = device.currentUser ∧
    (⟨"", item.data⟩ : Document).fieldIs "matricula" user.matricula = true
  let chosen := ((device.sent index).findIdxs p).map fun write => (index, write)
  have hchosen : ∀ name ∈ chosen, name ∈ writes := by
    intro name hname
    obtain ⟨write, hwrite, rfl⟩ := List.mem_map.mp hname
    obtain ⟨hlt, hp⟩ := List.mem_findIdxs_iff_exists_getElem_pos.mp hwrite
    have hfind : state.sentAt (index, write) = some (device.sent index)[write] :=
      (find_of_device hdevice).trans (List.getElem?_eq_getElem hlt)
    refine (h.sends.mem_iff _ _ hfind).mpr ?_
    rw [Sent.isOf, ← hown]
    exact (of_decide_eq_true hp).2
  have hnodup : chosen.Nodup :=
    List.nodup_findIdxs.map fun _ _ heq => (Prod.mk.inj heq).2
  refine ⟨chosen.map (writes.idxOf ·), nodup_map_idxOf hnodup hchosen, ?_⟩
  have hitems : chosen.filterMap state.sentAt = (device.sent index).filter p := by
    rw [List.filterMap_map, ← Positions.filterMap_findIdxs]
    exact List.filterMap_congr fun write _ => find_of_device hdevice
  have hwrites : (chosen.map (writes.idxOf ·)).filterMap (image.writes[·]?) =
      ((device.sent index).filter p).map (Sent.write screens) := by
    rw [← hitems, ← h.sends.filterMap_idxOf hchosen, List.map_filterMap, h.writes]
    simp only [List.getElem?_map]
  rw [Inscripciones.State.view, hwrites, List.map_map, matching_eq h hown, State.view, own_eq index]
  rfl

-- The answer to the query of a screen, or the news that there is none.
theorem advances_setScreen (h : Follows student screens writes sent state image) {name : ℕ × ℕ}
    {old new : Screen} {own : Inscripciones.Event} (hold : state.screenAt name = some old)
    (hscreens : next.screenAt = update state.screenAt name (some new))
    (huser : new.view.user = old.view.user)
    (hsent : next.sentAt = state.sentAt) (hcollection : next.collection = state.collection)
    (hrenders : Renders screens writes state event own)
    (hstep : old.view.user.matricula = student.matricula →
      image.screens[screens.idxOf name]? = some old →
        Inscripciones.Step image own (image.setScreen (screens.idxOf name) new)) :
    Advances student screens writes sent state next image event := by
  by_cases hown : old.view.user.matricula = student.matricula
  · exact .moves hrenders (hstep hown (h.find hold hown))
      (h.setScreen hold hown huser hscreens hsent hcollection)
  · exact .stays (h.otherScreen hold hown huser hscreens hsent hcollection)

theorem advances_enrollBt (h : Follows student screens writes sent state image)
    {index detail : ℕ} {name : ℕ × ℕ} {device : Device} {screen : Screen}
    (hdevice : state.devices[index]? = some device)
    (hopen : device.app.nav.openDetail = some detail)
    (hscreen : state.screenAt (index, detail) = some screen)
    (hbutton : screen.view.btInscripcion.sendsAction = true)
    (hnone : state.sentAt name = none)
    (hscreens : next.screenAt = update state.screenAt (index, detail)
      (some { screen with view := screen.view.enrollBt }))
    (hsent : next.sentAt = update state.sentAt name
      (some ⟨(index, detail), screen.view.enrollData, device.currentUser, .pending⟩))
    (hcollection : next.collection = state.collection) :
    Advances student screens writes sent state next image (.app index (.nav .enrollBt)) := by
  let item : Sent := ⟨(index, detail), screen.view.enrollData, device.currentUser, .pending⟩
  have hitem : item.isOf student.matricula ↔ screen.view.user.matricula = student.matricula :=
    isOf_iff rfl student.matricula
  by_cases hown : screen.view.user.matricula = student.matricula
  · have hname := (h.shows.mem_iff (index, detail) screen hscreen).mpr hown
    have hstep := Inscripciones.Step.tap (h.find hscreen hown) hbutton
    have hnext : Follows student screens (writes ++ [name]) (sent ++ [item]) next
        ((image.setScreen (screens.idxOf (index, detail))
          { screen with view := screen.view.enrollBt }).addWrite (item.write screens)) := by
      refine ⟨h.user, hcollection ▸ h.collection, ?_, ?_, ?_⟩
      · rw [hscreens]
        exact h.shows.set hscreen hown hown
      · rw [hsent]
        exact h.sends.concat hnone (hitem.mpr hown)
      · rw [List.map_append, ← h.writes]
        rfl
    exact .moves (.enrollBt hdevice hopen hname) hstep hnext
  · refine .stays ⟨h.user, hcollection ▸ h.collection, ?_, ?_, h.writes⟩
    · rw [hscreens]
      exact h.shows.keep hscreen hown hown
    · rw [hsent]
      exact h.sends.skip hnone fun hother => hown (hitem.mp hother)

-- Where a write of the student stands.
theorem Follows.findWrite (h : Follows student screens writes sent state image) {name : ℕ × ℕ}
    {item : Sent} (hwrite : state.sentAt name = some item)
    (hown : item.isOf student.matricula) :
    image.writes[writes.idxOf name]? = some (item.write screens) := by
  rw [h.writes, List.getElem?_map, h.sends.getElem?_idxOf hwrite hown, Option.map_some]

theorem Follows.writes_set (h : Follows student screens writes sent state image) (position : ℕ)
    (item : Sent) :
    image.writes.set position (item.write screens) =
      (sent.set position item).map (Sent.write screens) := by
  rw [h.writes, List.map_set]

theorem advances_store (h : Follows student screens writes sent state image)
    (hlinked : ∀ device ∈ state.devices, Linked device) {index write : ℕ} {documentID : String}
    {item : Sent} (hwrite : state.sentAt (index, write) = some item)
    (hstage : item.stage = .pending)
    (hfresh : documentID ∉ state.collection.map (·.documentID))
    (hscreens : next.screenAt = state.screenAt)
    (hsent : next.sentAt = update state.sentAt (index, write)
      (some { item with stage := .stored documentID }))
    (hcollection : next.collection = state.collection ++ [⟨documentID, item.data⟩]) :
    Advances student screens writes sent state next image (.store index write documentID) := by
  obtain ⟨screen, _, hdata⟩ := sent_enrollData hlinked hwrite
  have hitem := isOf_iff hdata student.matricula
  have hstored : next.collection = state.collection ++ [⟨documentID, screen.view.enrollData⟩] :=
    hdata ▸ hcollection
  by_cases hown : item.isOf student.matricula
  · have hfresh' : documentID ∉ image.collection.map (·.documentID) := by
      rw [h.collection]
      exact fun hmem => hfresh (List.map_subset _ (List.filter_subset_self _) hmem)
    let position := writes.idxOf (index, write)
    have hstep := Inscripciones.Step.store (h.findWrite hwrite hown) hstage hfresh'
    let later : Sent := { item with stage := .stored documentID }
    have hnext : Follows student screens writes (sent.set position later) next
        ((image.setWrite position (later.write screens)).addDocument
          ⟨documentID, item.data⟩) := by
      refine ⟨h.user, ?_, hscreens ▸ h.shows, ?_, h.writes_set _ later⟩
      · rw [hstored, ofStudent_append_enrollData, if_pos (hitem.mp hown), ← h.collection, ← hdata]
        rfl
      · rw [hsent]
        exact h.sends.set hwrite hown hown
    exact .moves (.store index write documentID) hstep hnext
  · refine .stays ⟨h.user, ?_, hscreens ▸ h.shows, ?_, h.writes⟩
    · rw [hstored, ofStudent_append_enrollData, if_neg fun hother => hown (hitem.mpr hother)]
      exact h.collection
    · rw [hsent]
      exact h.sends.keep hwrite hown hown

-- The callback changes the screen and takes the document off the list of those on their way.
theorem advances_callback (h : Follows student screens writes sent state image)
    (hlinked : ∀ device ∈ state.devices, Linked device) {name : ℕ × ℕ} {item : Sent}
    {screen : Screen} {own : Inscripciones.Event} {err : Option String}
    (hwrite : state.sentAt name = some item)
    (hscreen : state.screenAt item.screen = some screen)
    (hscreens : next.screenAt = update state.screenAt item.screen
      (some { screen with view := screen.view.enrollStudentCompletion err }))
    (hsent : next.sentAt = update state.sentAt name (some { item with stage := .finished }))
    (hcollection : next.collection = state.collection)
    (hrenders : Renders screens writes state event own)
    (hstep : image.writes[writes.idxOf name]? = some (item.write screens) →
      Inscripciones.Step image own ((image.setWrite (writes.idxOf name)
        { item.write screens with stage := .finished }).callback (item.write screens).screen err)) :
    Advances student screens writes sent state next image event := by
  obtain ⟨found, hfound, hdata⟩ := sent_enrollData hlinked hwrite
  cases Option.some.inj (hscreen.symm.trans hfound)
  have hitem := isOf_iff hdata student.matricula
  have huser : (screen.view.enrollStudentCompletion err).user = screen.view.user := by
    cases err <;> rfl
  by_cases hown : item.isOf student.matricula
  · have hmatricula := hitem.mp hown
    let position := writes.idxOf name
    have hposition : image.screens[(item.write screens).screen]? = some screen :=
      h.find hscreen hmatricula
    have hnext : Follows student screens writes (sent.set position { item with stage := .finished })
        next ((image.setWrite position { item.write screens with stage := .finished }).callback
          (item.write screens).screen err) := by
      rw [Inscripciones.State.callback, Inscripciones.State.setWrite, hposition]
      refine ⟨h.user, hcollection ▸ h.collection, ?_, ?_,
        h.writes_set _ { item with stage := .finished }⟩
      · rw [hscreens]
        exact h.shows.set hscreen hmatricula (huser ▸ hmatricula)
      · rw [hsent]
        exact h.sends.set hwrite hown hown
    exact .moves hrenders (hstep (h.findWrite hwrite hown)) hnext
  · have hmatricula : screen.view.user.matricula ≠ student.matricula :=
      fun hother => hown (hitem.mpr hother)
    refine .stays ⟨h.user, hcollection ▸ h.collection, ?_, ?_, h.writes⟩
    · rw [hscreens]
      exact h.shows.keep hscreen hmatricula (huser ▸ hmatricula)
    · rw [hsent]
      exact h.sends.keep hwrite hown hown

theorem Follows.step (h : Follows student screens writes sent state image)
    (hlinked : ∀ device ∈ state.devices, Linked device) (honly : Only student next)
    (heffect : Effect state next event) :
    Advances student screens writes sent state next image event := by
  cases heffect with
  | quiet _ hscreens hsent hcollection =>
      exact .stays ⟨h.user, hcollection ▸ h.collection, hscreens ▸ h.shows, hsent ▸ h.sends,
        h.writes⟩
  | openDetail workshop user hnone hscreens hsent hcollection =>
      exact advances_openDetail h hlinked honly workshop user hnone hscreens hsent hcollection
  | @read index detail documents device screen hdevice hscreen hfetch hdocuments hscreens hsent
      hcollection =>
      let later : Screen := { screen with fetch := .read documents }
      have huser : later.view.user = screen.view.user := rfl
      by_cases hown : screen.view.user.matricula = student.matricula
      · obtain ⟨own, hnodup, hview⟩ := h.exists_view hdevice hown
        exact .moves (.read index detail own documents)
          (.read (h.find hscreen hown) hfetch hnodup (hview ▸ hdocuments))
          (h.setScreen hscreen hown huser hscreens hsent hcollection)
      · exact .stays (h.otherScreen hscreen hown huser hscreens hsent hcollection)
  | @deliver index detail documents screen view hscreen hfetch hview hscreens hsent hcollection =>
      have huser : view.user = screen.view.user := by
        obtain ⟨inscripciones, _, rfl⟩ := (getEnrollmentStatus_ok _).mp hview
        simp
      exact advances_setScreen h hscreen hscreens huser hsent hcollection (.deliver index detail)
        fun _ hfind => .deliver hfind hfetch hview
  | @deliverError index detail err screen hscreen houtstanding hscreens hsent hcollection =>
      exact advances_setScreen h hscreen hscreens rfl hsent hcollection
        (.deliverError index detail err) fun _ hfind => .deliverError hfind houtstanding
  | enrollBt hdevice hopen hscreen hbutton hnone hscreens hsent hcollection =>
      exact advances_enrollBt h hdevice hopen hscreen hbutton hnone hscreens hsent hcollection
  | store hwrite hstage hfresh hscreens hsent hcollection =>
      exact advances_store h hlinked hwrite hstage hfresh hscreens hsent hcollection
  | @completed index write documentID item screen hwrite hstage hscreen hscreens hsent hcollection =>
      exact advances_callback h hlinked hwrite hscreen hscreens hsent hcollection
        (.completed index write) fun hfind => .completed hfind hstage
  | @failed index write err item screen hwrite hstage hscreen hscreens hsent hcollection =>
      exact advances_callback h hlinked hwrite hscreen hscreens hsent hcollection
        (.failed index write err) fun hfind => .failed hfind hstage
  | setStatus documentID status hscreens hsent hcollection =>
      have hnext : Follows student screens writes sent next
          { image with
            collection := image.collection.map (updateStatus documentID status) } := by
        refine ⟨h.user, ?_, hscreens ▸ h.shows, hsent ▸ h.sends, h.writes⟩
        rw [hcollection, ofStudent_map_updateStatus, ← h.collection]
      exact .moves (.setStatus documentID status) (.setStatus documentID status) hnext

end Step

section Run

variable {student : User} {count : ℕ} {collection : List Document} {events : List Event}
  {final : State}

-- A student's share of the server and of all devices.
def Share (student : User) (state : State) (image : Inscripciones.State) : Prop :=
  ∃ screens writes sent, Follows student screens writes sent state image

theorem share_start (student : User) (count : ℕ) (collection : List Document) :
    Share student (start count collection)
      (Inscripciones.start student (ofStudent student.matricula collection)) :=
  ⟨[], [], [], rfl, rfl, .empty (find_start fun _ => rfl), .empty (find_start fun _ => rfl), rfl⟩

-- Whatever the conditions are under which the devices run, the share of a student runs under
-- what they come to.
theorem share_run {cond : State → Event → Prop}
    {own : Inscripciones.State → Inscripciones.Event → Prop}
    (hown : ∀ screens writes sent state image event inner,
      Follows student screens writes sent state image → cond state event →
        Renders screens writes state event inner → own image inner)
    (honly : Only student final)
    (hcond : Transition.Along step cond (start count collection) events)
    (hrun : Transition.run step (start count collection) events = some final) :
    ∃ image, Transition.CanReach Inscripciones.step own
      (Inscripciones.start student (ofStudent student.matricula collection)) image ∧
        Share student final image := by
  have hinv : ∀ state event next, (∀ device ∈ state.devices, Linked device) →
      step state event = some next → ∀ device ∈ next.devices, Linked device :=
    fun _ _ _ hlinked hstep => linked_step hlinked (Step.of_step hstep)
  have hback : ∀ state event next, (∀ device ∈ state.devices, Linked device) →
      Only student next → step state event = some next → Only student state :=
    fun _ _ _ hlinked h hstep => h.of_next (effect_of_step hlinked (Step.of_step hstep))
  refine Transition.run_simulates hinv hback ?_ (linked_start count collection) honly
    (share_start student count collection) hcond hrun
  rintro state image event next hlinked h ⟨screens, writes, sent, hfollows⟩ hevent hstep
  cases hfollows.step hlinked h (effect_of_step hlinked (Step.of_step hstep)) with
  | stays hstays => exact ⟨image, .refl image, screens, writes, sent, hstays⟩
  | @moves inner after screens' writes' sent' hrenders hmoves hafter =>
      have hinner := hown screens writes sent state image event inner hfollows hevent hrenders
      exact ⟨after, .single hinner hmoves.to_step, screens', writes', sent', hafter⟩

end Run

-- Any number of devices run the whole app over one collection. What one student has to do with
-- it, on all of them, is a run of that student's detail screens over that student's documents:
-- the others cannot be told apart from nobody.
theorem each_student_alone (student : User) (count : ℕ) (collection : List Document)
    (events : List Event) (final : State) (honly : Only student final)
    (hrun : Transition.run step (start count collection) events = some final) :
    ∃ own image, Transition.run Inscripciones.step
      (Inscripciones.start student (ofStudent student.matricula collection)) own = some image ∧
        Share student final image := by
  obtain ⟨image, ⟨own, _, hown⟩, hshare⟩ := share_run
    (fun _ _ _ _ _ _ _ _ _ _ => trivial) honly (Transition.along_true _ events) hrun
  exact ⟨own, image, hown, hshare⟩

-- Two students and a workshop to try it on.
def sara : Document :=
  ⟨"A51", [("UID", .string "u51"), ("nombre", .string "Sara"), ("rol", .string "Alumno")]⟩

def tomas : Document :=
  ⟨"A52", [("UID", .string "u52"), ("nombre", .string "Tomas"), ("rol", .string "Alumno")]⟩

def vocacion : Document :=
  ⟨"1", [("titulo", .string "Vocacion"), ("descripcion", .string ""),
    ("requerimientos", .array []), ("wkDate", .array [.timestamp ⟨3⟩, .timestamp ⟨5⟩])]⟩

-- What a student hands over to enrol in it.
def enrollDataDe (usuario : Document) : Fields :=
  (storyboard
    { wkID := "1", title := "Vocacion", descr := "", req := [], startDate := 3, endDate := 5 }
    (userOf usuario)).enrollData

-- A student logs in on a device and opens the first workshop of the list.
def abrir (device : ℕ) (uid : String) (usuario : Document) : List Event :=
  [.login .btEntrar, .login (.signedIn 0 uid), .login (.signInCallback 0),
    .login (.rolAnswer 0 (.ok [usuario])), .openTalleres, .list 0 .viewWillAppear,
    .list 0 (.talleres 0 (.ok [vocacion])), .openDetail 0].map fun event => .app device (.nav event)

private def tresDispositivos : List Event :=
  abrir 0 "u51" sara ++ abrir 2 "u52" tomas ++ [.read 0 0 [], .deliver 0 0] ++
    abrir 1 "u51" sara ++ [.app 2 (.nav .enrollBt), .app 0 (.nav .enrollBt), .store 2 0 "d2",
      .store 0 0 "d1", .completed 2 0, .setStatus "d1" "Inscrito", .completed 0 0]

-- Two devices of one student, and between them one of another student.
theorem each_student_alone_tresDispositivos :
    ∃ final, Transition.run step (start 3 []) tresDispositivos = some final ∧
      final.collection.length = 2 ∧
      ∃ own image, Transition.run Inscripciones.step
        (Inscripciones.start (userOf sara) (ofStudent (userOf sara).matricula [])) own =
          some image ∧
          Share (userOf sara) final image :=
  ⟨_, rfl, rfl, each_student_alone (userOf sara) 3 [] tresDispositivos _ (by decide) rfl⟩

end AppPrepanet.Servidor
