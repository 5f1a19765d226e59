import AppPrepanet.Positions
import AppPrepanet.TableViewControllerAWorkshop.Merge
import AppPrepanet.Talleres

namespace AppPrepanet.Talleres

open Firestore TableViewControllerAWorkshop

def succeeded : Option QueryResult → Bool
  | some (.ok _) => true
  | some (.error _) | none => false

theorem succeeded_iff {answer : Option QueryResult} :
    succeeded answer = true ↔ ∃ documents, answer = some (.ok documents) := by
  rcases answer with _ | _ | _ <;> simp [succeeded]

-- The workshops that the answer to one query brings.
def workshopsOf (talleres : List (Option QueryResult)) (query : ℕ) : List Workshop :=
  match talleres[query]? with
  | some (some (.ok documents)) => (documents.mapM workshopOf).getD []
  | _ => []

-- `workshopArr` is what the answers since the last appearance brought, one after the other.
structure Filled (state : State) : Prop where
  loaded : state.screen.workshopArr.map (·.loaded) =
    state.answered.flatMap (workshopsOf state.talleres)
  answered : ∀ query ∈ state.answered, ∃ result, state.talleres[query]? = some (some result)
  nodup : state.answered.Nodup
  decoded : ∀ (query : ℕ) documents, state.talleres[query]? = some (some (.ok documents)) →
    (documents.mapM workshopOf).isSome = true
  last : ∀ result, state.talleres.getLast? = some (some result) →
    state.talleres.length - 1 ∈ state.answered

-- The screen shows the documents of the answer to the query issued last, each once and in
-- the order of the answer.
def ShowsLastAnswer (state : State) : Prop :=
  ∀ documents, state.talleres.getLast? = some (some (.ok documents)) →
    documents.mapM workshopOf = some (state.screen.workshopArr.map (·.loaded))

section Screen

variable {screen next : TableViewControllerAWorkshop}

theorem map_loaded_eq {first last : List WorkshopObject}
    (h : first.map (·.identity) = last.map (·.identity)) :
    first.map (·.loaded) = last.map (·.loaded) := by
  have hsnd := congrArg (List.map Prod.snd) h
  rw [List.map_map, List.map_map] at hsnd
  exact hsnd

theorem getStatus_loaded {result : QueryResult} (h : screen.getStatus result = some next) :
    next.workshopArr.map (·.loaded) = screen.workshopArr.map (·.loaded) := by
  cases result with
  | error err => cases h; rfl
  | ok documents =>
      obtain ⟨inscripciones, _, rfl⟩ := (getStatus_ok screen).mp h
      exact map_loaded_eq (mergeStatus_identity _)

theorem getWorkshops_loaded {documents : List Document}
    (h : screen.getWorkshops (.ok documents) = some next) :
    ∃ workshops, documents.mapM workshopOf = some workshops ∧
      next.workshopArr.map (·.loaded) = screen.workshopArr.map (·.loaded) ++ workshops := by
  obtain ⟨workshops, hm, rfl⟩ := (getWorkshops_ok screen).mp h
  refine ⟨workshops, hm, ?_⟩
  have hfresh : workshops.map (fun workshop => { workshop with status := "" }) = workshops := by
    refine (List.map_congr_left fun workshop hw => ?_).trans workshops.map_id
    obtain ⟨document, _, hd⟩ := Loop.mapM_eq_some_mem hm hw
    have hstatus := workshopOf_status hd
    cases workshop
    simp_all
  have hmap := congrArg (List.map fun workshop : Workshop => { workshop with status := "" })
    (foldl_appendWorkshop_loaded screen workshops)
  rw [List.map_append, hfresh, List.map_map, List.map_map] at hmap
  exact hmap

end Screen

section Queries

variable {talleres : List (Option QueryResult)} {query other : ℕ} {result : QueryResult}

theorem workshopsOf_set_ne (h : other ≠ query) :
    workshopsOf (talleres.set query (some result)) other = workshopsOf talleres other := by
  unfold workshopsOf
  rw [List.getElem?_set_ne h.symm]

theorem workshopsOf_set_ok {documents : List Document} {workshops : List Workshop}
    (hlt : query < talleres.length) (hm : documents.mapM workshopOf = some workshops) :
    workshopsOf (talleres.set query (some (.ok documents))) query = workshops := by
  simp [workshopsOf, List.getElem?_set_self hlt, hm]

theorem workshopsOf_set_error {err : String} (hlt : query < talleres.length) :
    workshopsOf (talleres.set query (some (.error err))) query = [] := by
  simp [workshopsOf, List.getElem?_set_self hlt]

end Queries

theorem start_filled (user : User) : Filled (start user) :=
  ⟨rfl, by simp [start], List.nodup_nil, by simp [start], by simp [start]⟩

-- An answer comes after the ones that were there already.
theorem Filled.talleres {state : State} (h : Filled state) {query : ℕ} {result : QueryResult}
    {screen : TableViewControllerAWorkshop} (hopen : state.talleres[query]? = some none)
    (hscreen : state.screen.getWorkshops result = some screen) :
    screen.workshopArr.map (·.loaded) =
        (state.answered ++ [query]).flatMap (workshopsOf (state.talleres.set query (some result))) ∧
      ∀ documents, result = .ok documents → (documents.mapM workshopOf).isSome = true := by
  have hlt : query < state.talleres.length := (List.getElem?_eq_some_iff.mp hopen).1
  have hbefore : state.answered.flatMap (workshopsOf (state.talleres.set query (some result))) =
      state.answered.flatMap (workshopsOf state.talleres) := by
    refine List.flatMap_congr fun other ho => workshopsOf_set_ne ?_
    rintro rfl
    obtain ⟨_, hr⟩ := h.answered other ho
    simp [hopen] at hr
  rw [List.flatMap_append, hbefore, ← h.loaded, List.flatMap_singleton]
  cases result with
  | error err =>
      cases hscreen
      rw [workshopsOf_set_error hlt, List.append_nil]
      exact ⟨rfl, by simp⟩
  | ok documents =>
      obtain ⟨workshops, hm, hloaded⟩ := getWorkshops_loaded hscreen
      rw [workshopsOf_set_ok hlt hm]
      refine ⟨hloaded, fun others heq => ?_⟩
      cases heq
      simp [hm]

theorem Filled.step {state next : State} {event : Event} (h : Filled state)
    (hstep : Step state event next) : Filled next := by
  cases hstep with
  | viewWillAppear =>
      refine ⟨rfl, by simp, List.nodup_nil, fun query documents hq => ?_, by simp⟩
      rcases Positions.getElem?_concat_eq_some hq with hq | ⟨_, hnone⟩
      · exact h.decoded query documents hq
      · cases hnone
  | @talleres query result screen hopen hscreen =>
      have hlt : query < state.talleres.length := (List.getElem?_eq_some_iff.mp hopen).1
      obtain ⟨hloaded, hok⟩ := h.talleres hopen hscreen
      have hnew : query ∉ state.answered := by
        intro hm
        obtain ⟨_, hr⟩ := h.answered query hm
        simp [hopen] at hr
      refine ⟨hloaded, fun other ho => ?_, ?_, fun other documents hd => ?_, fun last hlast => ?_⟩
      · by_cases heq : other = query
        · exact ⟨result, by rw [heq, List.getElem?_set_self hlt]⟩
        · rcases List.mem_append.mp ho with ho | ho
          · rw [List.getElem?_set_ne (Ne.symm heq)]
            exact h.answered other ho
          · exact absurd (List.mem_singleton.mp ho) heq
      · exact List.nodup_append.mpr ⟨h.nodup, List.nodup_singleton query, fun a ha b hb => by
          rw [List.mem_singleton.mp hb]
          rintro rfl
          exact hnew ha⟩
      · rcases Positions.getElem?_set_eq_some hd with ⟨_, hresult⟩ | ⟨_, hsame⟩
        · exact hok documents (Option.some.inj hresult).symm
        · exact h.decoded other documents hsame
      · rw [List.length_set]
        by_cases heq : state.talleres.length - 1 = query
        · exact heq ▸ List.mem_append_right _ (List.mem_singleton_self _)
        · rw [List.getLast?_eq_getElem?, List.length_set, List.getElem?_set_ne (Ne.symm heq),
            ← List.getLast?_eq_getElem?] at hlast
          exact List.mem_append_left _ (h.last last hlast)
  | inscripciones hopen hscreen =>
      exact ⟨(getStatus_loaded hscreen).trans h.loaded, h.answered, h.nodup, h.decoded, h.last⟩
  | cellForRowAt _ _ | select _ _ => exact h

theorem filled_run {user : User} {events : List Event} {final : State}
    (hrun : Transition.run step (start user) events = some final) : Filled final :=
  Transition.run_invariant (fun _ _ _ h hstep => Filled.step h (Step.of_step hstep))
    (start_filled user) hrun

theorem Filled.workshopsOf_eq_nil {state : State} (h : Filled state) {query : ℕ}
    {documents : List Document}
    (hquery : state.talleres[query]? = some (some (.ok documents))) :
    workshopsOf state.talleres query = [] ↔ documents = [] := by
  obtain ⟨workshops, hm⟩ := Option.isSome_iff_exists.mp (h.decoded query documents hquery)
  have hlength := Loop.mapM_eq_some_length hm
  simp only [workshopsOf, hquery, hm, Option.getD_some]
  rw [← List.length_eq_zero_iff, hlength, List.length_eq_zero_iff]

-- Once every query of Talleres has been answered well, the screen shows the last answer
-- exactly when every answer to an older query that came in since the last appearance was
-- empty.
theorem showsLastAnswer_iff (user : User) (events : List Event) (final : State)
    (hrun : Transition.run step (start user) events = some final)
    (hall : ∀ answer ∈ final.talleres, succeeded answer = true) :
    ShowsLastAnswer final ↔ ∀ query ∈ final.answered, query + 1 ≠ final.talleres.length →
      final.talleres[query]? = some (some (.ok [])) := by
  have hfilled := filled_run hrun
  have hget : ∀ query < final.talleres.length,
      ∃ documents, final.talleres[query]? = some (some (.ok documents)) := by
    intro query hlt
    obtain ⟨documents, hd⟩ := succeeded_iff.mp (hall _ (List.getElem_mem hlt))
    exact ⟨documents, by rw [List.getElem?_eq_getElem hlt, hd]⟩
  rcases Nat.eq_zero_or_pos final.talleres.length with hzero | hpos
  · have hnil := List.length_eq_zero_iff.mp hzero
    constructor
    · intro _ query hq
      obtain ⟨_, hr⟩ := hfilled.answered query hq
      simp [hnil] at hr
    · intro _ documents hlast
      simp [hnil] at hlast
  · obtain ⟨documents, hd⟩ := hget (final.talleres.length - 1) (by omega)
    have hlast : final.talleres.getLast? = some (some (.ok documents)) := by
      rw [List.getLast?_eq_getElem?, hd]
    have hmem := hfilled.last _ hlast
    have hshows : ShowsLastAnswer final ↔ final.answered.flatMap (workshopsOf final.talleres) =
        workshopsOf final.talleres (final.talleres.length - 1) := by
      obtain ⟨workshops, hm⟩ := Option.isSome_iff_exists.mp (hfilled.decoded _ documents hd)
      have hworkshops : workshopsOf final.talleres (final.talleres.length - 1) = workshops := by
        simp [workshopsOf, hd, hm]
      rw [← hfilled.loaded, hworkshops]
      constructor
      · intro h
        exact (Option.some.inj (hm.symm.trans (h documents hlast))).symm
      · intro h others ho
        cases hlast.symm.trans ho
        rw [hm, h]
    rw [hshows, Loop.flatMap_eq_iff hfilled.nodup hmem]
    refine forall₂_congr fun query hq => ?_
    obtain ⟨_, hr⟩ := hfilled.answered query hq
    obtain ⟨others, ho⟩ := hget query (List.getElem?_eq_some_iff.mp hr).1
    rw [hfilled.workshopsOf_eq_nil ho, ho]
    have hne : query ≠ final.talleres.length - 1 ↔ query + 1 ≠ final.talleres.length := by omega
    simp [hne]

private def diego : User :=
  { nombre := "Diego", email := "diego@tec.mx", matricula := "A04", campus := "MTY",
    rol := "Alumno" }

private def primero : Document :=
  ⟨"1", [("titulo", .string "Mis Emociones"), ("descripcion", .string ""),
    ("requerimientos", .array []), ("wkDate", .array [.timestamp ⟨0⟩, .timestamp ⟨5⟩])]⟩

private def oneByOne : List Event :=
  [.viewWillAppear, .talleres 0 (.ok [primero]), .inscripciones 0 (.ok []), .viewWillAppear,
    .talleres 1 (.ok [primero])]

private def twoAppearances : List Event :=
  [.viewWillAppear, .viewWillAppear, .talleres 0 (.ok [primero]), .talleres 1 (.ok [primero]),
    .inscripciones 0 (.ok []), .inscripciones 1 (.ok [])]

theorem showsLastAnswer_iff_oneByOne :
    ∃ final, Transition.run step (start diego) oneByOne = some final ∧
      (ShowsLastAnswer final ↔ ∀ query ∈ final.answered, query + 1 ≠ final.talleres.length →
        final.talleres[query]? = some (some (.ok []))) :=
  ⟨_, rfl, showsLastAnswer_iff diego oneByOne _ rfl (by decide)⟩

-- Two appearances before the first answer: the workshop is in the list twice.
theorem not_showsLastAnswer_twoAppearances :
    ¬∀ (user : User) (events : List Event) (final : State),
      Transition.run step (start user) events = some final →
      (∀ answer ∈ final.talleres, succeeded answer = true) →
      (∀ answer ∈ final.inscripciones, answer ≠ none) → ShowsLastAnswer final := by
  intro h
  have hshows := h diego twoAppearances _ rfl (by decide) (by decide)
  exact absurd (hshows [primero] rfl) (by decide)

end AppPrepanet.Talleres
