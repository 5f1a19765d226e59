import AppPrepanet.TableViewControllerAWorkshop
import AppPrepanet.Transition

namespace AppPrepanet.Talleres

open Firestore

-- One list screen and the queries it has issued, in the order of issue; `none` until the
-- query is answered. `answered` names the queries of Talleres that have been answered since
-- the screen appeared last, in the order of their answers.
structure State where
  screen : TableViewControllerAWorkshop
  talleres : List (Option QueryResult)
  inscripciones : List (Option QueryResult)
  answered : List ℕ
deriving DecidableEq

inductive Event where
  | viewWillAppear
  | talleres (query : ℕ) (result : QueryResult)
  | inscripciones (query : ℕ) (result : QueryResult)
  | cellForRowAt (row : ℕ) (cell : TableViewWorkshopCell)
  | select (row : ℕ)
deriving DecidableEq

def start (user : User) : State where
  screen := { user := user }
  talleres := []
  inscripciones := []
  answered := []

-- A successful answer makes the screen ask for the inscripciones.
def followUp : QueryResult → List (Option QueryResult)
  | .ok _ => [none]
  | .error _ => []

-- The table asks for cells and reports selections for the rows it knows.
def step (state : State) : Event → Option State
  | .viewWillAppear =>
      some { state with
        screen := state.screen.viewWillAppear
        talleres := state.talleres ++ [none]
        answered := [] }
  | .talleres query result =>
      if state.talleres[query]? = some none then
        (state.screen.getWorkshops result).map fun screen =>
          { state with
            screen := screen
            talleres := state.talleres.set query (some result)
            inscripciones := state.inscripciones ++ followUp result
            answered := state.answered ++ [query] }
      else none
  | .inscripciones query result =>
      if state.inscripciones[query]? = some none then
        (state.screen.getStatus result).map fun screen =>
          { state with
            screen := screen
            inscripciones := state.inscripciones.set query (some result) }
      else none
  | .cellForRowAt row cell =>
      if row < state.screen.rows.length then
        (state.screen.cellForRowAt cell row).map fun _ => state
      else none
  | .select row =>
      if row < state.screen.rows.length then
        (state.screen.prepare row).map fun _ => state
      else none

-- Everything a step can do, with its guards.
inductive Step (state : State) : Event → State → Prop
  | viewWillAppear :
      Step state .viewWillAppear
        { state with
          screen := state.screen.viewWillAppear
          talleres := state.talleres ++ [none]
          answered := [] }
  | talleres {query : ℕ} {result : QueryResult} {screen : TableViewControllerAWorkshop}
      (hopen : state.talleres[query]? = some none)
      (hscreen : state.screen.getWorkshops result = some screen) :
      Step state (.talleres query result)
        { state with
          screen := screen
          talleres := state.talleres.set query (some result)
          inscripciones := state.inscripciones ++ followUp result
          answered := state.answered ++ [query] }
  | inscripciones {query : ℕ} {result : QueryResult} {screen : TableViewControllerAWorkshop}
      (hopen : state.inscripciones[query]? = some none)
      (hscreen : state.screen.getStatus result = some screen) :
      Step state (.inscripciones query result)
        { state with
          screen := screen
          inscripciones := state.inscripciones.set query (some result) }
  | cellForRowAt {row : ℕ} {cell shown : TableViewWorkshopCell}
      (hrow : row < state.screen.rows.length)
      (hcell : state.screen.cellForRowAt cell row = some shown) :
      Step state (.cellForRowAt row cell) state
  | select {row : ℕ} {handed : WorkshopObject × User} (hrow : row < state.screen.rows.length)
      (hprepare : state.screen.prepare row = some handed) : Step state (.select row) state

theorem Step.of_step {state next : State} {event : Event} (h : step state event = some next) :
    Step state event next := by
  cases event with
  | viewWillAppear =>
      cases h
      exact .viewWillAppear
  | talleres query result =>
      simp only [step] at h
      split_ifs at h with hopen
      obtain ⟨screen, hscreen, rfl⟩ := Option.map_eq_some_iff.mp h
      exact .talleres hopen hscreen
  | inscripciones query result =>
      simp only [step] at h
      split_ifs at h with hopen
      obtain ⟨screen, hscreen, rfl⟩ := Option.map_eq_some_iff.mp h
      exact .inscripciones hopen hscreen
  | cellForRowAt row cell =>
      simp only [step] at h
      split_ifs at h with hrow
      obtain ⟨shown, hcell, rfl⟩ := Option.map_eq_some_iff.mp h
      exact .cellForRowAt hrow hcell
  | select row =>
      simp only [step] at h
      split_ifs at h with hrow
      obtain ⟨handed, hprepare, rfl⟩ := Option.map_eq_some_iff.mp h
      exact .select hrow hprepare

end AppPrepanet.Talleres
