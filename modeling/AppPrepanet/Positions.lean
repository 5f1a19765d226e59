import Mathlib.Algebra.Ring.Nat
import Mathlib.Data.List.Basic

namespace AppPrepanet.Positions

-- Things that are named by their position in a list. The list grows at its end and
-- changes in place.
variable {α : Type*} {items : List α} {position index : ℕ} {new found : α} {P : α → Prop}

theorem getElem?_concat_eq_some (h : (items ++ [new])[index]? = some found) :
    items[index]? = some found ∨ (index = items.length ∧ found = new) := by
  rw [List.getElem?_append] at h
  split_ifs at h with hlt
  · exact .inl h
  · obtain ⟨hzero, hnew⟩ := List.getElem?_eq_some_iff.mp h
    rw [List.length_singleton] at hzero
    exact .inr ⟨by omega, by simpa using hnew.symm⟩

theorem getElem?_set_eq_some (h : (items.set position new)[index]? = some found) :
    (index = position ∧ found = new) ∨ (index ≠ position ∧ items[index]? = some found) := by
  rw [List.getElem?_set] at h
  split_ifs at h with heq hlt
  · exact .inl ⟨heq.symm, (Option.some.inj h).symm⟩
  · exact .inr ⟨fun hindex => heq hindex.symm, h⟩

-- A property of the things and of their positions.
theorem forall_getElem?_concat {Q : ℕ → α → Prop}
    (h : ∀ (index : ℕ) (item : α), items[index]? = some item → Q index item)
    (hnew : Q items.length new) :
    ∀ (index : ℕ) (item : α), (items ++ [new])[index]? = some item → Q index item := by
  intro index item hitem
  rcases getElem?_concat_eq_some hitem with hold | ⟨rfl, rfl⟩
  · exact h index item hold
  · exact hnew

theorem forall_getElem?_set {Q : ℕ → α → Prop}
    (h : ∀ (index : ℕ) (item : α), items[index]? = some item → Q index item)
    (hnew : Q position new) :
    ∀ (index : ℕ) (item : α), (items.set position new)[index]? = some item → Q index item := by
  intro index item hitem
  rcases getElem?_set_eq_some hitem with ⟨rfl, rfl⟩ | ⟨_, hold⟩
  · exact hnew
  · exact h index item hold

theorem forall_mem_concat (h : ∀ item ∈ items, P item) (hnew : P new) :
    ∀ item ∈ items ++ [new], P item := by
  intro item hi
  rcases List.mem_append.mp hi with hi | hi
  · exact h item hi
  · exact List.mem_singleton.mp hi ▸ hnew

theorem forall_mem_set (h : ∀ item ∈ items, P item) (hnew : P new) :
    ∀ item ∈ items.set position new, P item := by
  intro item hi
  rcases List.mem_or_eq_of_mem_set hi with hi | rfl
  · exact h item hi
  · exact hnew

-- A thing turns into one that `f` does not tell from it.
theorem map_set_of_eq {β : Type*} {f : α → β} {old : α} (hold : items[position]? = some old)
    (hsame : f new = f old) : (items.set position new).map f = items.map f := by
  obtain ⟨hlt, rfl⟩ := List.getElem?_eq_some_iff.mp hold
  have hlt' : position < (items.map f).length := by simpa using hlt
  rw [List.map_set, hsame, ← List.getElem_map f (h := hlt'), List.set_getElem_self]

-- The things with a property, by their places.
theorem filterMap_findIdxs (p : α → Bool) (items : List α) :
    (items.findIdxs p).filterMap (items[·]?) = items.filter p := by
  induction items with
  | nil => rfl
  | cons item items ih =>
      have hrest : (items.findIdxs p 1).filterMap ((item :: items)[·]?) = items.filter p := by
        rw [List.findIdxs_start, List.filterMap_map, ← ih]
        rfl
      rw [List.findIdxs_cons, List.filter_cons]
      split_ifs
      · rw [List.filterMap_cons, Nat.zero_add, hrest]
        rfl
      · rw [Nat.zero_add, hrest]

-- What the change adds to the total and what it takes from it.
theorem sum_map_set {old : α} (new : α) (f : α → ℕ) (hold : items[position]? = some old) :
    ((items.set position new).map f).sum + f old = (items.map f).sum + f new := by
  induction items generalizing position with
  | nil => cases hold
  | cons item items ih =>
      cases position with
      | zero =>
          cases hold
          simp only [List.set_cons_zero, List.map_cons, List.sum_cons]
          omega
      | succ position =>
          have hrest := ih hold
          simp only [List.set_cons_succ, List.map_cons, List.sum_cons]
          omega

theorem exists_pos_of_sum_pos {f : α → ℕ} (h : 0 < (items.map f).sum) :
    ∃ (index : ℕ) (item : α), items[index]? = some item ∧ 0 < f item := by
  obtain ⟨load, hload, hpos⟩ := List.sum_pos_iff_exists_pos_nat.mp h
  obtain ⟨item, hitem, rfl⟩ := List.mem_map.mp hload
  obtain ⟨index, hindex⟩ := List.getElem?_of_mem hitem
  exact ⟨index, item, hindex, hpos⟩

section Since

variable {β : Type*} {base : ℕ} {f : α → β}

-- What has been added since the list was `base` long, each thing as `f` renders it.
def since (base : ℕ) (f : α → β) (items : List α) : List β := (items.drop base).map f

@[simp] theorem length_since : (since base f items).length = items.length - base := by
  rw [since, List.length_map, List.length_drop]

-- It is named by the position counted from `base` on.
theorem getElem?_since (hle : base ≤ index) :
    (since base f items)[index - base]? = items[index]?.map f := by
  have hindex : base + (index - base) = index := by omega
  rw [since, List.getElem?_map, List.getElem?_drop, hindex]

theorem getElem?_since_eq_some (hle : base ≤ index) (h : items[index]? = some found) :
    (since base f items)[index - base]? = some (f found) := by
  rw [getElem?_since hle, h, Option.map_some]

theorem since_concat (hle : base ≤ items.length) :
    since base f (items ++ [new]) = since base f items ++ [f new] := by
  rw [since, List.drop_append_of_le_length hle, List.map_append, List.map_singleton, since]

theorem since_set (hle : base ≤ position) :
    since base f (items.set position new) = (since base f items).set (position - base) (f new) := by
  have hge : ¬position < base := by omega
  rw [since, List.drop_set, if_neg hge, List.map_set, since]

theorem since_set_of_lt (hlt : position < base) :
    since base f (items.set position new) = since base f items := by
  rw [since, List.drop_set_of_lt hlt, since]

end Since

section Parallel

-- Two lists that are read side by side.
variable {β γ : Type*} {f : α → β → γ} {others : List β} {other : β}

theorem zipWith_set_left (hother : others[position]? = some other) :
    List.zipWith f (items.set position new) others =
      (List.zipWith f items others).set position (f new other) := by
  apply List.ext_getElem?
  intro index
  by_cases heq : position = index
  · subst heq
    cases hitem : items[position]? <;>
      simp [List.getElem?_zipWith, List.getElem?_set_self', hother, hitem]
  · simp [List.getElem?_zipWith, List.getElem?_set_ne heq]

theorem zipWith_set_right (hitem : items[position]? = some found) :
    List.zipWith f items (others.set position other) =
      (List.zipWith f items others).set position (f found other) := by
  apply List.ext_getElem?
  intro index
  by_cases heq : position = index
  · subst heq
    cases hother : others[position]? <;>
      simp [List.getElem?_zipWith, List.getElem?_set_self', hother, hitem]
  · simp [List.getElem?_zipWith, List.getElem?_set_ne heq]

theorem zipWith_set_set :
    List.zipWith f (items.set position new) (others.set position other) =
      (List.zipWith f items others).set position (f new other) := by
  apply List.ext_getElem?
  intro index
  by_cases heq : position = index
  · subst heq
    cases hitem : items[position]? <;> cases hother : others[position]? <;>
      simp [List.getElem?_zipWith, List.getElem?_set_self', hother, hitem]
  · simp [List.getElem?_zipWith, List.getElem?_set_ne heq]

theorem zipWith_concat (hlength : items.length = others.length) :
    List.zipWith f (items ++ [new]) (others ++ [other]) =
      List.zipWith f items others ++ [f new other] := by
  rw [List.zipWith_append hlength]
  rfl

end Parallel

end AppPrepanet.Positions
