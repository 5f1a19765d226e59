import AppPrepanet.Login
import AppPrepanet.Talleres
import AppPrepanet.ViewControllerWorkshop

namespace AppPrepanet.Navigation

open Firestore

-- A detail screen, and the list screen it was opened from. The list goes on writing the
-- status of the workshop, which the detail screen does not read.
structure Detail where
  list : ℕ
  view : ViewControllerWorkshop
  fetched : Bool := false
deriving DecidableEq

-- What a detail screen has handed to `addDocument`.
structure Write where
  detail : ℕ
  data : Fields
  answered : Bool := false
deriving DecidableEq

-- The whole app. List and detail screens are named in the order they were opened; their
-- queries may be answered after they have been closed.
structure State where
  login : Login.State
  lists : List Talleres.State
  details : List Detail
  added : List Write
  openList : Option ℕ
  openDetail : Option ℕ
deriving DecidableEq

inductive Event where
  | login (event : Login.Event)
  | openTalleres
  | list (index : ℕ) (event : Talleres.Event)
  | openDetail (row : ℕ)
  | fetchAnswer (detail : ℕ) (result : QueryResult)
  | enrollBt
  | completion (write : ℕ) (err : Option String)
  | backToList
  | backToHome
deriving DecidableEq

def start : State where
  login := Login.start
  lists := []
  details := []
  added := []
  openList := none
  openDetail := none

namespace State

def addList (state : State) (user : User) : State :=
  { state with
    lists := state.lists ++ [Talleres.start user]
    openList := some state.lists.length }

def setList (state : State) (index : ℕ) (list : Talleres.State) : State :=
  { state with lists := state.lists.set index list }

def addDetail (state : State) (detail : Detail) : State :=
  { state with
    details := state.details ++ [detail]
    openDetail := some state.details.length }

def setDetail (state : State) (index : ℕ) (detail : Detail) : State :=
  { state with details := state.details.set index detail }

def addWrite (state : State) (write : Write) : State :=
  { state with added := state.added ++ [write] }

def setWrite (state : State) (index : ℕ) (write : Write) : State :=
  { state with added := state.added.set index write }

end State

-- Answers come whether or not the screen is open.
def isAnswer : Talleres.Event → Bool
  | .talleres _ _ | .inscripciones _ _ => true
  | .viewWillAppear | .cellForRowAt _ _ | .select _ => false

def step (state : State) : Event → Option State
  | .login event =>
      if event = .logOut ∧ state.openList.isSome then none
      else (Login.step state.login event).map fun login => { state with login := login }
  | .openTalleres =>
      match state.login.screen.presented, state.openList with
      | some (.home home), none => some (state.addList home.user)
      | _, _ => none
  | .list index event => do
      let list ← state.lists[index]?
      if isAnswer event ∨ state.openList = some index then
        let next ← Talleres.step list event
        some (state.setList index next)
      else none
  | .openDetail row => do
      let index ← state.openList
      let list ← state.lists[index]?
      if state.openDetail = none ∧ row < list.screen.rows.length then
        let (object, user) ← list.screen.prepare row
        let view := (ViewControllerWorkshop.storyboard object.workshop user).viewDidLoad
        some (state.addDetail { list := index, view := view })
      else none
  | .fetchAnswer index result => do
      let detail ← state.details[index]?
      if detail.fetched = false then
        let view ← detail.view.getEnrollmentStatus result
        some (state.setDetail index { detail with view := view, fetched := true })
      else none
  | .enrollBt => do
      let index ← state.openDetail
      let detail ← state.details[index]?
      if detail.view.btInscripcion.sendsAction then
        some ((state.setDetail index { detail with view := detail.view.enrollBt }).addWrite
          { detail := index, data := detail.view.enrollData })
      else none
  | .completion index err => do
      let write ← state.added[index]?
      let detail ← state.details[write.detail]?
      if write.answered = false then
        let view := detail.view.enrollStudentCompletion err
        some ((state.setDetail write.detail { detail with view := view }).setWrite index
          { write with answered := true })
      else none
  | .backToList => if state.openDetail.isSome then some { state with openDetail := none } else none
  | .backToHome =>
      if state.openDetail = none ∧ state.openList.isSome then some { state with openList := none }
      else none

-- Everything a step can do, with its guards.
inductive Step (state : State) : Event → State → Prop
  | login {event : Login.Event} {login : Login.State}
      (hlogOut : event = .logOut → state.openList = none)
      (hlogin : Login.step state.login event = some login) :
      Step state (.login event) { state with login := login }
  | openTalleres {home : Home} (hhome : state.login.screen.presented = some (.home home))
      (hclosed : state.openList = none) : Step state .openTalleres (state.addList home.user)
  | list {index : ℕ} {event : Talleres.Event} {list next : Talleres.State}
      (hlist : state.lists[index]? = some list)
      (hopen : isAnswer event = true ∨ state.openList = some index)
      (hstep : Talleres.step list event = some next) :
      Step state (.list index event) (state.setList index next)
  | openDetail {index row : ℕ} {list : Talleres.State} {object : WorkshopObject} {user : User}
      (hopen : state.openList = some index) (hlist : state.lists[index]? = some list)
      (hclosed : state.openDetail = none) (hrow : row < list.screen.rows.length)
      (hprepare : list.screen.prepare row = some (object, user)) :
      Step state (.openDetail row) (state.addDetail
        { list := index,
          view := (ViewControllerWorkshop.storyboard object.workshop user).viewDidLoad })
  | fetchAnswer {index : ℕ} {result : QueryResult} {detail : Detail}
      {view : ViewControllerWorkshop} (hdetail : state.details[index]? = some detail)
      (hfetched : detail.fetched = false)
      (hview : detail.view.getEnrollmentStatus result = some view) :
      Step state (.fetchAnswer index result)
        (state.setDetail index { detail with view := view, fetched := true })
  | enrollBt {index : ℕ} {detail : Detail} (hopen : state.openDetail = some index)
      (hdetail : state.details[index]? = some detail)
      (hbutton : detail.view.btInscripcion.sendsAction = true) :
      Step state .enrollBt
        ((state.setDetail index { detail with view := detail.view.enrollBt }).addWrite
          { detail := index, data := detail.view.enrollData })
  | completion {index : ℕ} {err : Option String} {write : Write} {detail : Detail}
      (hwrite : state.added[index]? = some write)
      (hdetail : state.details[write.detail]? = some detail) (hanswered : write.answered = false) :
      Step state (.completion index err)
        ((state.setDetail write.detail
          { detail with view := detail.view.enrollStudentCompletion err }).setWrite index
            { write with answered := true })
  | backToList (hopen : state.openDetail.isSome = true) :
      Step state .backToList { state with openDetail := none }
  | backToHome (hclosed : state.openDetail = none) (hopen : state.openList.isSome = true) :
      Step state .backToHome { state with openList := none }

theorem Step.of_step {state next : State} {event : Event} (h : step state event = some next) :
    Step state event next := by
  cases event with
  | login event =>
      simp only [step] at h
      split_ifs at h with hc
      obtain ⟨login, hlogin, rfl⟩ := Option.map_eq_some_iff.mp h
      refine .login (fun hlogOut => ?_) hlogin
      simpa [hlogOut] using hc
  | openTalleres =>
      simp only [step] at h
      split at h
      · rename_i hhome hclosed
        cases h
        exact .openTalleres hhome hclosed
      · cases h
  | list index event =>
      simp only [step, Option.bind_eq_bind, Option.bind_eq_some_iff] at h
      obtain ⟨list, hlist, h⟩ := h
      split_ifs at h with hopen
      obtain ⟨next, hstep, h⟩ := Option.bind_eq_some_iff.mp h
      cases h
      exact .list hlist hopen hstep
  | openDetail row =>
      simp only [step, Option.bind_eq_bind, Option.bind_eq_some_iff] at h
      obtain ⟨index, hopen, list, hlist, h⟩ := h
      split_ifs at h with hc
      obtain ⟨⟨object, user⟩, hprepare, h⟩ := Option.bind_eq_some_iff.mp h
      cases h
      exact .openDetail hopen hlist hc.1 hc.2 hprepare
  | fetchAnswer index result =>
      simp only [step, Option.bind_eq_bind, Option.bind_eq_some_iff] at h
      obtain ⟨detail, hdetail, h⟩ := h
      split_ifs at h with hfetched
      obtain ⟨view, hview, h⟩ := Option.bind_eq_some_iff.mp h
      cases h
      exact .fetchAnswer hdetail hfetched hview
  | enrollBt =>
      simp only [step, Option.bind_eq_bind, Option.bind_eq_some_iff] at h
      obtain ⟨index, hopen, detail, hdetail, h⟩ := h
      split_ifs at h with hbutton
      cases h
      exact .enrollBt hopen hdetail hbutton
  | completion index err =>
      simp only [step, Option.bind_eq_bind, Option.bind_eq_some_iff] at h
      obtain ⟨write, hwrite, detail, hdetail, h⟩ := h
      split_ifs at h with hanswered
      cases h
      exact .completion hwrite hdetail hanswered
  | backToList =>
      simp only [step] at h
      split_ifs at h with hopen
      cases h
      exact .backToList hopen
  | backToHome =>
      simp only [step] at h
      split_ifs at h with hc
      cases h
      exact .backToHome hc.1 hc.2

end AppPrepanet.Navigation
