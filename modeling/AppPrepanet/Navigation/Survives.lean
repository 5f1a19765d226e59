import AppPrepanet.Navigation.Components
import AppPrepanet.Navigation.Provenance
import AppPrepanet.ViewControllerWorkshop.Reqs

namespace AppPrepanet

open Firestore

section Login

-- What can happen to the login screen, whatever the app makes of it.
def Login.Enabled (state : Login.State) : Login.Event → Prop
  | .edit _ _ | .btEntrar => state.screen.presented = none
  | .signedIn tap _ | .signInError tap _ => ∃ chain, state.chains[tap]? = some chain ∧
      ∃ email password, chain.stage = .signIn email password
  | .signInCallback tap => ∃ chain, state.chains[tap]? = some chain ∧ chain.stage = .callback
  | .rolAnswer tap result => ∃ chain, state.chains[tap]? = some chain ∧
      ∃ key, chain.stage = .getRol key ∧ Login.Answers key result
  | .okAlert => ∃ alerta, state.screen.presented = some (.alert alerta)
  | .logOut => ∃ home, state.screen.presented = some (.home home)

-- `getRol` writes the user and the role before it performs a segue that needs them.
theorem ViewController.getRol_isSome (screen : ViewController) (result : QueryResult) :
    (screen.getRol result).isSome = true := by
  obtain ⟨next, hnext, _⟩ := screen.exists_rolStep result
  exact Option.isSome_iff_exists.mpr ⟨next, hnext⟩

theorem Login.step_isSome_iff (state : Login.State) (event : Login.Event) :
    (Login.step state event).isSome = true ↔ Login.Enabled state event := by
  constructor
  · intro h
    obtain ⟨next, hnext⟩ := Option.isSome_iff_exists.mp h
    cases Login.Step.of_step hnext with
    | edit _ _ hfree | btEntrar hfree => exact hfree
    | signedIn _ hchain hstage | signInError _ hchain hstage =>
        exact ⟨_, hchain, _, _, hstage⟩
    | signInCallback hchain hstage _ | signInNobody hchain hstage _ => exact ⟨_, hchain, hstage⟩
    | rolAnswer hchain hstage hanswers _ => exact ⟨_, hchain, _, hstage, hanswers⟩
    | okAlert halert => exact ⟨_, halert⟩
    | logOut hhome => exact ⟨_, hhome⟩
  · cases event with
    | edit user pass | btEntrar =>
        intro hfree
        have hpresented : state.screen.presented = none := hfree
        simp [Login.step, hpresented]
    | signedIn tap uid | signInError tap err =>
        rintro ⟨chain, hchain, email, password, hstage⟩
        simp [Login.step, hchain, hstage]
    | signInCallback tap =>
        rintro ⟨chain, hchain, hstage⟩
        cases huser : state.currentUser <;> simp [Login.step, hchain, hstage, huser]
    | rolAnswer tap result =>
        rintro ⟨chain, hchain, key, hstage, hanswers⟩
        obtain ⟨screen, hscreen⟩ :=
          Option.isSome_iff_exists.mp (state.screen.getRol_isSome result)
        simp [Login.step, hchain, hstage, hanswers, hscreen]
    | okAlert =>
        rintro ⟨alerta, halert⟩
        simp [Login.step, halert]
    | logOut =>
        rintro ⟨home, hhome⟩
        simp [Login.step, hhome]

end Login

section List

-- What can happen to a list screen. Its table asks for the rows it knows of.
def Talleres.Enabled (state : Talleres.State) : Talleres.Event → Prop
  | .viewWillAppear => True
  | .talleres query result => state.talleres[query]? = some none ∧
      Readable TableViewControllerAWorkshop.workshopOf result
  | .inscripciones query result => state.inscripciones[query]? = some none ∧
      Readable TableViewControllerAWorkshop.inscripcionOf result
  | .cellForRowAt row _ | .select row => row < state.screen.rows.length

theorem TableViewControllerAWorkshop.getWorkshops_isSome_iff
    (screen : TableViewControllerAWorkshop) (result : QueryResult) :
    (screen.getWorkshops result).isSome = true ↔
      Readable TableViewControllerAWorkshop.workshopOf result :=
  isSome_iff_readable (fun _ => rfl) (fun _ _ => getWorkshops_ok screen) result

theorem TableViewControllerAWorkshop.getStatus_isSome_iff
    (screen : TableViewControllerAWorkshop) (result : QueryResult) :
    (screen.getStatus result).isSome = true ↔
      Readable TableViewControllerAWorkshop.inscripcionOf result :=
  isSome_iff_readable (fun _ => rfl) (fun _ _ => getStatus_ok screen) result

-- The rows that the table knows of are there, as long as it agrees with `workshopArr`.
theorem Talleres.step_isSome_iff {state : Talleres.State} (h : Talleres.Agrees state.screen)
    (event : Talleres.Event) :
    (Talleres.step state event).isSome = true ↔ Talleres.Enabled state event := by
  cases event with
  | viewWillAppear => simp [Talleres.step, Talleres.Enabled]
  | talleres query result =>
      have hanswer := state.screen.getWorkshops_isSome_iff result
      by_cases hopen : state.talleres[query]? = some none
      · simp [Talleres.step, Talleres.Enabled, hopen, hanswer]
      · simp [Talleres.step, Talleres.Enabled, hopen]
  | inscripciones query result =>
      have hanswer := state.screen.getStatus_isSome_iff result
      by_cases hopen : state.inscripciones[query]? = some none
      · simp [Talleres.step, Talleres.Enabled, hopen, hanswer]
      · simp [Talleres.step, Talleres.Enabled, hopen]
  | cellForRowAt row cell =>
      by_cases hrow : row < state.screen.rows.length
      · obtain ⟨object, hobject, _⟩ := h.get hrow
        obtain ⟨shown, hcell, _⟩ := Talleres.exists_cellForRowAt hobject cell
        simp [Talleres.step, Talleres.Enabled, hrow, hcell]
      · simp [Talleres.step, Talleres.Enabled, hrow]
  | select row =>
      by_cases hrow : row < state.screen.rows.length
      · obtain ⟨object, hobject, _⟩ := h.get hrow
        simp [Talleres.step, Talleres.Enabled, hrow, TableViewControllerAWorkshop.prepare, hobject]
      · simp [Talleres.step, Talleres.Enabled, hrow]

end List

section Detail

variable (screen : ViewControllerWorkshop)

theorem ViewControllerWorkshop.getEnrollmentStatus_isSome_iff (result : QueryResult) :
    (screen.getEnrollmentStatus result).isSome = true ↔
      Readable ViewControllerWorkshop.inscripcionOf result :=
  isSome_iff_readable (fun _ => rfl) (fun _ _ => screen.getEnrollmentStatus_ok) result

-- The table of requirements never knows of a row that is not there.
def ViewControllerWorkshop.Covers : Prop := screen.rows ≤ screen.reqs.length

theorem ViewControllerWorkshop.covers_viewDidLoad : screen.viewDidLoad.Covers :=
  Nat.le_refl _

-- A requirement is only ever added.
theorem ViewControllerWorkshop.Covers.fetchCompletion {screen : ViewControllerWorkshop}
    (h : screen.Covers) : screen.fetchCompletion.Covers := by
  have hreqs : screen.fetchCompletion.reqs.length =
      screen.reqs.length + screen.workshop.req.length := by
    simp [fetchCompletion_reqs, listed]
  unfold ViewControllerWorkshop.Covers at h ⊢
  rw [hreqs, fetchCompletion_rows]
  split_ifs <;> omega

theorem ViewControllerWorkshop.Covers.getEnrollmentStatus {screen next : ViewControllerWorkshop}
    (h : screen.Covers) {result : QueryResult}
    (hnext : screen.getEnrollmentStatus result = some next) : next.Covers := by
  cases result with
  | error err =>
      cases hnext
      exact h
  | ok documents =>
      obtain ⟨inscripciones, _, rfl⟩ := screen.getEnrollmentStatus_ok.mp hnext
      apply ViewControllerWorkshop.Covers.fetchCompletion
      exact h

theorem ViewControllerWorkshop.Covers.cellForRowAt_isSome {screen : ViewControllerWorkshop}
    (h : screen.Covers) {row : ℕ} (hrow : row < screen.rows)
    (cell : TableViewSingleWorkshopCell) : (screen.cellForRowAt cell row).isSome = true := by
  have hlt : row < screen.reqs.length := Nat.lt_of_lt_of_le hrow h
  simp only [cellForRowAt, List.getElem?_eq_getElem hlt, Option.bind_eq_bind, Option.bind_some,
    Option.pure_def]
  split_ifs <;> rfl

end Detail

namespace Navigation

-- What can happen to the app, whatever it makes of it: the user touches what is on the screen
-- and the answers come to the calls that were made. Of the documents only `Readable` is asked.
def Enabled (state : State) : Event → Prop
  | .login event =>
      Login.Enabled state.login event ∧ (event = .logOut → state.openList = none)
  | .openTalleres =>
      (∃ home, state.login.screen.presented = some (.home home)) ∧ state.openList = none
  | .list index event => ∃ list, state.lists[index]? = some list ∧
      (isAnswer event = true ∨ state.openList = some index) ∧ Talleres.Enabled list event
  | .openDetail row => state.openDetail = none ∧ ∃ index list,
      state.openList = some index ∧ state.lists[index]? = some list ∧
        row < list.screen.rows.length
  | .fetchAnswer index result => ∃ detail, state.details[index]? = some detail ∧
      detail.fetched = false ∧ Readable ViewControllerWorkshop.inscripcionOf result
  | .enrollBt => ∃ index detail, state.openDetail = some index ∧
      state.details[index]? = some detail ∧ detail.view.btInscripcion.sendsAction = true
  | .completion index _ => ∃ write, state.added[index]? = some write ∧ write.answered = false
  | .backToList => state.openDetail.isSome = true
  | .backToHome => state.openDetail = none ∧ state.openList.isSome = true

theorem covers_step {state next : State} {event : Event}
    (h : ∀ detail ∈ state.details, detail.view.Covers) (hstep : Step state event next) :
    ∀ detail ∈ next.details, detail.view.Covers := by
  cases hstep with
  | login _ _ | openTalleres _ _ | list _ _ _ | backToList _ | backToHome _ _ => exact h
  | openDetail hopen hlist hclosed hrow hprepare =>
      exact Positions.forall_mem_concat h (ViewControllerWorkshop.covers_viewDidLoad _)
  | @fetchAnswer index result detail view hdetail hfetched hview =>
      have hcovers := h detail (List.mem_of_getElem? hdetail)
      exact Positions.forall_mem_set h (hcovers.getEnrollmentStatus hview)
  | @enrollBt index detail hopen hdetail hbutton =>
      have hcovers : detail.view.enrollBt.Covers := h detail (List.mem_of_getElem? hdetail)
      exact Positions.forall_mem_set h hcovers
  | @completion index err write detail hwrite hdetail hanswered =>
      have hcovers := h detail (List.mem_of_getElem? hdetail)
      refine Positions.forall_mem_set h ?_
      cases err with
      | none => exact hcovers
      | some err => exact hcovers

theorem Step.enabled {state next : State} {event : Event} (hstep : Step state event next)
    (hagrees : ∀ list ∈ state.lists, Talleres.Agrees list.screen) : Enabled state event := by
  cases hstep with
  | login hlogOut hlogin =>
      exact ⟨(Login.step_isSome_iff _ _).mp (Option.isSome_iff_exists.mpr ⟨_, hlogin⟩), hlogOut⟩
  | openTalleres hhome hclosed => exact ⟨⟨_, hhome⟩, hclosed⟩
  | list hlist hopen hstep =>
      have hsome := Option.isSome_iff_exists.mpr ⟨_, hstep⟩
      have hlistAgrees := hagrees _ (List.mem_of_getElem? hlist)
      exact ⟨_, hlist, hopen, (Talleres.step_isSome_iff hlistAgrees _).mp hsome⟩
  | openDetail hopen hlist hclosed hrow hprepare => exact ⟨hclosed, _, _, hopen, hlist, hrow⟩
  | @fetchAnswer index result detail view hdetail hfetched hview =>
      have hsome := Option.isSome_iff_exists.mpr ⟨_, hview⟩
      exact ⟨_, hdetail, hfetched, (detail.view.getEnrollmentStatus_isSome_iff result).mp hsome⟩
  | enrollBt hopen hdetail hbutton => exact ⟨_, _, hopen, hdetail, hbutton⟩
  | completion hwrite hdetail hanswered => exact ⟨_, hwrite, hanswered⟩
  | backToList hopen => exact hopen
  | backToHome hclosed hopen => exact ⟨hclosed, hopen⟩

-- The converse rests on what every run keeps: the tables agree with their arrays, and every
-- write has its detail screen.
theorem Enabled.step_isSome {events : List Event} {final : State}
    (hrun : Transition.run step start events = some final)
    (hagrees : ∀ list ∈ final.lists, Talleres.Agrees list.screen) {event : Event}
    (h : Enabled final event) : (step final event).isSome = true := by
  cases event with
  | login event =>
      obtain ⟨hlogin, hlogOut⟩ := h
      have hfree : ¬(event = .logOut ∧ final.openList.isSome = true) := by
        rintro ⟨hevent, hopen⟩
        simp [hlogOut hevent] at hopen
      have hstep := (Login.step_isSome_iff final.login event).mpr hlogin
      simpa [step, if_neg hfree] using hstep
  | openTalleres =>
      obtain ⟨⟨home, hhome⟩, hclosed⟩ := h
      simp [step, hhome, hclosed]
  | list index event =>
      obtain ⟨list, hlist, hopen, henabled⟩ := h
      have hlistAgrees := hagrees list (List.mem_of_getElem? hlist)
      have hstep := (Talleres.step_isSome_iff hlistAgrees event).mpr henabled
      obtain ⟨next, hnext⟩ := Option.isSome_iff_exists.mp hstep
      simp [step, hlist, hopen, hnext]
  | openDetail row =>
      obtain ⟨hclosed, index, list, hopen, hlist, hrow⟩ := h
      exact openDetail_isSome hrun hopen hlist hclosed hrow
  | fetchAnswer index result =>
      obtain ⟨detail, hdetail, hfetched, hreadable⟩ := h
      have hsome := (detail.view.getEnrollmentStatus_isSome_iff result).mpr hreadable
      obtain ⟨view, hview⟩ := Option.isSome_iff_exists.mp hsome
      simp [step, hdetail, hfetched, hview]
  | enrollBt =>
      obtain ⟨index, detail, hopen, hdetail, hbutton⟩ := h
      simp [step, hopen, hdetail, hbutton]
  | completion index err =>
      obtain ⟨write, hwrite, hanswered⟩ := h
      obtain ⟨detail, hdetail, _⟩ := (traced_run hrun).added write (List.mem_of_getElem? hwrite)
      simp [step, hwrite, hdetail, hanswered]
  | backToList =>
      have hopen : final.openDetail.isSome = true := h
      simp [step, hopen]
  | backToHome =>
      obtain ⟨hclosed, hopen⟩ := h
      simp [step, hclosed, hopen]

theorem lists_agree {events : List Event} {final : State}
    (hrun : Transition.run step start events = some final) :
    ∀ list ∈ final.lists, Talleres.Agrees list.screen := by
  intro list hmem
  obtain ⟨index, hlist⟩ := List.getElem?_of_mem hmem
  obtain ⟨user, hlistRun⟩ := list_run hrun hlist
  exact Talleres.agrees_run hlistRun

theorem covers_run {events : List Event} {final : State}
    (hrun : Transition.run step start events = some final) :
    ∀ detail ∈ final.details, detail.view.Covers := by
  have hinv : ∀ state event next, (∀ detail ∈ state.details, detail.view.Covers) →
      step state event = some next → ∀ detail ∈ next.details, detail.view.Covers :=
    fun _ _ _ h hstep => covers_step h (Step.of_step hstep)
  exact Transition.run_invariant hinv (by simp [start]) hrun

theorem step_isSome_iff {events : List Event} {final : State}
    (hrun : Transition.run step start events = some final) (event : Event) :
    (step final event).isSome = true ↔ Enabled final event := by
  have hagrees := lists_agree hrun
  constructor
  · intro hsome
    obtain ⟨next, hnext⟩ := Option.isSome_iff_exists.mp hsome
    exact (Step.of_step hnext).enabled hagrees
  · intro henabled
    exact henabled.step_isSome hrun hagrees

end Navigation

end AppPrepanet
