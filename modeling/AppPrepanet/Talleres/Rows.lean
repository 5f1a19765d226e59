import AppPrepanet.Positions
import AppPrepanet.TableViewControllerAWorkshop.Merge
import AppPrepanet.Talleres

namespace AppPrepanet.Talleres

open Firestore TableViewControllerAWorkshop

-- The rows of the table are the objects of `workshopArr`, in the same places.
def Agrees (screen : TableViewControllerAWorkshop) : Prop :=
  screen.rows.map (·.identity) = screen.workshopArr.map (·.identity)

theorem agrees_reload (screen : TableViewControllerAWorkshop) :
    Agrees screen.reloadTableView := rfl

theorem agrees_getWorkshops {screen next : TableViewControllerAWorkshop} {result : QueryResult}
    (h : Agrees screen) (hnext : screen.getWorkshops result = some next) : Agrees next := by
  cases result with
  | error err =>
      cases hnext
      exact h
  | ok documents =>
      obtain ⟨workshops, _, rfl⟩ := (getWorkshops_ok screen).mp hnext
      exact agrees_reload _

-- The reload comes before the merge, but the merge keeps every object in its place.
theorem agrees_getStatus {screen next : TableViewControllerAWorkshop} {result : QueryResult}
    (h : Agrees screen) (hnext : screen.getStatus result = some next) : Agrees next := by
  cases result with
  | error err =>
      cases hnext
      exact h
  | ok documents =>
      obtain ⟨inscripciones, _, rfl⟩ := (getStatus_ok screen).mp hnext
      have hmerge := mergeStatus_identity (reloadTableView
        { screen with inscripciones := screen.inscripciones ++ inscripciones })
      exact (agrees_reload _).trans hmerge.symm

theorem agrees_step {state next : State} {event : Event} (h : Agrees state.screen)
    (hstep : Step state event next) : Agrees next.screen := by
  cases hstep with
  | viewWillAppear => exact agrees_reload _
  | talleres hopen hscreen => exact agrees_getWorkshops h hscreen
  | inscripciones hopen hscreen => exact agrees_getStatus h hscreen
  | cellForRowAt _ _ | select _ _ => exact h

theorem agrees_run {user : User} {events : List Event} {final : State}
    (hrun : Transition.run step (start user) events = some final) : Agrees final.screen := by
  have hinv : ∀ state event next, Agrees state.screen → step state event = some next →
      Agrees next.screen := fun _ _ _ h hstep => agrees_step h (Step.of_step hstep)
  have hstart : Agrees (start user).screen := rfl
  exact Transition.run_invariant hinv hstart hrun

-- No two places of `workshopArr` hold the same object.
structure Distinct (screen : TableViewControllerAWorkshop) : Prop where
  refs : (screen.workshopArr.map (·.ref)).Nodup
  allocated : ∀ object ∈ screen.workshopArr, object.ref < screen.allocated

theorem distinct_appendWorkshop {screen : TableViewControllerAWorkshop} (h : Distinct screen)
    (workshop : Workshop) : Distinct (screen.appendWorkshop workshop) := by
  constructor
  · simp only [appendWorkshop, List.map_append, List.map_singleton]
    refine List.nodup_append.mpr ⟨h.refs, List.nodup_singleton _, fun ref href other hother => ?_⟩
    obtain ⟨object, ho, rfl⟩ := List.mem_map.mp href
    rw [List.mem_singleton.mp hother]
    exact Nat.ne_of_lt (h.allocated object ho)
  · refine Positions.forall_mem_concat (fun object ho => ?_) (Nat.lt_succ_self _)
    exact Nat.lt_succ_of_lt (h.allocated object ho)

theorem distinct_foldl {workshops : List Workshop} {screen : TableViewControllerAWorkshop}
    (h : Distinct screen) : Distinct (workshops.foldl appendWorkshop screen) := by
  induction workshops generalizing screen with
  | nil => exact h
  | cons workshop rest ih => exact ih (distinct_appendWorkshop h workshop)

theorem distinct_mergeStatus {screen : TableViewControllerAWorkshop} (h : Distinct screen) :
    Distinct screen.mergeStatus := by
  have hrefs : screen.mergeStatus.workshopArr.map (·.ref) = screen.workshopArr.map (·.ref) := by
    have hfst := congrArg (List.map Prod.fst) (mergeStatus_identity screen)
    rw [List.map_map, List.map_map] at hfst
    exact hfst
  refine ⟨hrefs ▸ h.refs, fun object ho => ?_⟩
  have hmem : object.ref ∈ screen.workshopArr.map (·.ref) := hrefs ▸ List.mem_map_of_mem ho
  obtain ⟨old, hold, heq⟩ := List.mem_map.mp hmem
  exact heq ▸ h.allocated old hold

theorem distinct_step {state next : State} {event : Event} (h : Distinct state.screen)
    (hstep : Step state event next) : Distinct next.screen := by
  cases hstep with
  | viewWillAppear => exact ⟨List.nodup_nil, by simp [viewWillAppear, reloadTableView]⟩
  | @talleres query result screen hopen hscreen =>
      cases result with
      | error err =>
          cases hscreen
          exact h
      | ok documents =>
          obtain ⟨workshops, _, rfl⟩ := (getWorkshops_ok _).mp hscreen
          have hfilled : Distinct (workshops.foldl appendWorkshop state.screen) := distinct_foldl h
          exact ⟨hfilled.refs, hfilled.allocated⟩
  | @inscripciones query result screen hopen hscreen =>
      cases result with
      | error err =>
          cases hscreen
          exact h
      | ok documents =>
          obtain ⟨inscripciones, _, rfl⟩ := (getStatus_ok _).mp hscreen
          exact distinct_mergeStatus ⟨h.refs, h.allocated⟩
  | cellForRowAt _ _ | select _ _ => exact h

theorem distinct_run {user : User} {events : List Event} {final : State}
    (hrun : Transition.run step (start user) events = some final) : Distinct final.screen := by
  have hinv : ∀ state event next, Distinct state.screen → step state event = some next →
      Distinct next.screen := fun _ _ _ h hstep => distinct_step h (Step.of_step hstep)
  have hstart : Distinct (start user).screen := ⟨List.nodup_nil, by simp [start]⟩
  exact Transition.run_invariant hinv hstart hrun

theorem getWorkshops_user {screen next : TableViewControllerAWorkshop} {result : QueryResult}
    (hnext : screen.getWorkshops result = some next) : next.user = screen.user := by
  cases result with
  | error err => cases hnext; rfl
  | ok documents =>
      obtain ⟨workshops, _, rfl⟩ := (getWorkshops_ok screen).mp hnext
      simp [reloadTableView]

theorem getStatus_user {screen next : TableViewControllerAWorkshop} {result : QueryResult}
    (hnext : screen.getStatus result = some next) : next.user = screen.user := by
  cases result with
  | error err => cases hnext; rfl
  | ok documents =>
      obtain ⟨inscripciones, _, rfl⟩ := (getStatus_ok screen).mp hnext
      rfl

theorem Step.user_eq {state next : State} {event : Event} (hstep : Step state event next) :
    next.screen.user = state.screen.user := by
  cases hstep with
  | viewWillAppear | cellForRowAt _ _ | select _ _ => rfl
  | talleres hopen hscreen => exact getWorkshops_user hscreen
  | inscripciones hopen hscreen => exact getStatus_user hscreen

theorem user_run {user : User} {events : List Event} {final : State}
    (hrun : Transition.run step (start user) events = some final) : final.screen.user = user := by
  have hinv : ∀ state event next, state.screen.user = user → step state event = some next →
      next.screen.user = user :=
    fun _ _ _ h hstep => (Step.of_step hstep).user_eq.trans h
  exact Transition.run_invariant hinv rfl hrun

section Rows

variable {screen : TableViewControllerAWorkshop}

theorem Agrees.length (h : Agrees screen) : screen.rows.length = screen.numberOfRowsInSection := by
  simpa [numberOfRowsInSection] using congrArg List.length h

theorem Agrees.get (h : Agrees screen) {row : ℕ} (hrow : row < screen.rows.length) :
    ∃ object, screen.workshopArr[row]? = some object ∧
      object.identity = screen.rows[row].identity := by
  have hlt : row < screen.workshopArr.length := by
    rw [h.length] at hrow
    exact hrow
  have hmap := congrArg (·[row]?) h
  simp only [List.getElem?_map, List.getElem?_eq_getElem hrow, List.getElem?_eq_getElem hlt,
    Option.map_some, Option.some.injEq] at hmap
  exact ⟨screen.workshopArr[row], List.getElem?_eq_getElem hlt, hmap.symm⟩

-- Whatever the dequeued cell has shown before, it shows the title and the description of the
-- object in this place.
theorem exists_cellForRowAt {row : ℕ} {object : WorkshopObject}
    (h : screen.workshopArr[row]? = some object) (cell : TableViewWorkshopCell) :
    ∃ shown, screen.cellForRowAt cell row = some shown ∧
      shown.lbTitle.text = object.workshop.title ∧
      shown.lbDescription.text = object.workshop.descr := by
  simp only [cellForRowAt, h, Option.bind_eq_bind, Option.bind_some, Option.pure_def]
  split_ifs <;> exact ⟨_, rfl, rfl, rfl⟩

-- Objects that were loaded as the same one show the same title and description.
theorem text_of_identity {object other : WorkshopObject} (h : object.identity = other.identity) :
    object.workshop.title = other.workshop.title ∧
      object.workshop.descr = other.workshop.descr := by
  have hloaded : object.loaded = other.loaded := congrArg Prod.snd h
  have htitle : object.loaded.title = other.loaded.title := by rw [hloaded]
  have hdescr : object.loaded.descr = other.loaded.descr := by rw [hloaded]
  exact ⟨htitle, hdescr⟩

end Rows

section Shown

variable {state next : State} {event : Event}

-- The events at which the table loads its rows anew.
def reloads : Event → Bool
  | .viewWillAppear | .talleres _ (.ok _) | .inscripciones _ (.ok _) => true
  | _ => false

theorem Step.rows_eq (hstep : Step state event next) (hevent : reloads event = false) :
    next.screen.rows = state.screen.rows := by
  cases hstep with
  | viewWillAppear => cases hevent
  | @talleres query result screen hopen hscreen =>
      cases result with
      | ok documents => cases hevent
      | error err => cases hscreen; rfl
  | @inscripciones query result screen hopen hscreen =>
      cases result with
      | ok documents => cases hevent
      | error err => cases hscreen; rfl
  | cellForRowAt _ _ | select _ _ => rfl

theorem rows_eq_run {events : List Event} {final : State}
    (hevents : ∀ event ∈ events, reloads event = false)
    (hrun : Transition.run step state events = some final) :
    final.screen.rows = state.screen.rows := by
  have hinv : ∀ middle event next, middle.screen.rows = state.screen.rows →
      reloads event = false → step middle event = some next →
        next.screen.rows = state.screen.rows :=
    fun _ _ _ h hevent hstep => ((Step.of_step hstep).rows_eq hevent).trans h
  exact Transition.run_invariant_along hinv rfl
    (Transition.along_of_forall_mem hevents state) hrun

end Shown

-- In every state the table knows as many rows as there are workshops, all of them different
-- objects; every row can be shown and selected, and selecting it hands over the object that
-- the row was loaded with. A cell that has been configured for the row, now or at any moment
-- since the rows were loaded, shows the title and the description of that object.
theorem row_opens_its_workshop (user : User) (events since : List Event) (loaded final : State)
    (hrun : Transition.run step (start user) events = some loaded)
    (hsince : Transition.run step loaded since = some final)
    (hquiet : ∀ event ∈ since, reloads event = false) :
    final.screen.rows.length = final.screen.numberOfRowsInSection ∧
      (final.screen.workshopArr.map (·.ref)).Nodup ∧
      ∀ (row : ℕ) (hrow : row < final.screen.rows.length), ∃ object,
        final.screen.prepare row = some (object, user) ∧
        object.identity = final.screen.rows[row].identity ∧
        ∀ cell, ∃ shown, loaded.screen.cellForRowAt cell row = some shown ∧
          shown.lbTitle.text = object.workshop.title ∧
          shown.lbDescription.text = object.workshop.descr := by
  have hwhole : Transition.run step (start user) (events ++ since) = some final := by
    rw [Transition.run_append, hrun, Option.bind_some, hsince]
  have hagrees := agrees_run hwhole
  have hrows := rows_eq_run hquiet hsince
  refine ⟨hagrees.length, (distinct_run hwhole).refs, fun row hrow => ?_⟩
  obtain ⟨object, hobject, hidentity⟩ := hagrees.get hrow
  have hrow' : row < loaded.screen.rows.length := hrows ▸ hrow
  obtain ⟨before, hbefore, hidentity'⟩ := (agrees_run hrun).get hrow'
  have hsame : before.identity = object.identity := by
    rw [hidentity, hidentity']
    simp only [hrows]
  obtain ⟨htitle, hdescr⟩ := text_of_identity hsame
  refine ⟨object, ?_, hidentity, fun cell => ?_⟩
  · simp [prepare, hobject, user_run hwhole]
  · obtain ⟨shown, hshown, hlbTitle, hlbDescription⟩ := exists_cellForRowAt hbefore cell
    exact ⟨shown, hshown, hlbTitle.trans htitle, hlbDescription.trans hdescr⟩

private def carla : User :=
  { nombre := "Carla", email := "carla@tec.mx", matricula := "A03", campus := "MTY",
    rol := "Alumno" }

private def taller (documentID titulo : String) : Document :=
  ⟨documentID, [("titulo", .string titulo), ("descripcion", .string ""),
    ("requerimientos", .array []), ("wkDate", .array [.timestamp ⟨0⟩, .timestamp ⟨5⟩])]⟩

-- Two loads that overlap.
private def overlapping : List Event :=
  [.viewWillAppear, .viewWillAppear, .talleres 0 (.ok [taller "1" "Mis Emociones"]),
    .talleres 1 (.ok [taller "1" "Mis Emociones", taller "2" "Liderazgo"])]

-- An error comes between the cell and the tap.
theorem row_opens_its_workshop_overlapping :
    ∃ loaded final, Transition.run step (start carla) overlapping = some loaded ∧
      Transition.run step loaded [.inscripciones 0 (.error "unavailable"), .select 2] =
        some final ∧
      final.screen.rows.length = 3 ∧
      final.screen.rows.length = final.screen.numberOfRowsInSection ∧
      (final.screen.workshopArr.map (·.ref)).Nodup ∧
      ∀ (row : ℕ) (hrow : row < final.screen.rows.length), ∃ object,
        final.screen.prepare row = some (object, carla) ∧
        object.identity = final.screen.rows[row].identity ∧
        ∀ cell, ∃ shown, loaded.screen.cellForRowAt cell row = some shown ∧
          shown.lbTitle.text = object.workshop.title ∧
          shown.lbDescription.text = object.workshop.descr :=
  ⟨_, _, rfl, rfl, rfl, row_opens_its_workshop carla overlapping
    [.inscripciones 0 (.error "unavailable"), .select 2] _ _ rfl rfl (by decide)⟩

end AppPrepanet.Talleres
