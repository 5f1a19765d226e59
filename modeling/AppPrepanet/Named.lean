import Mathlib.Data.List.Nodup

namespace AppPrepanet.Named

open Function

variable {ν α : Type*} {p : α → Prop} {names : List ν} {lookup : ν → Option α} {items : List α}
  {name : ν} {old new : α}

-- Of the things that are looked up by name, the list holds those with the property, each of
-- them once, in the order of their names.
structure Selected (p : α → Prop) (names : List ν) (lookup : ν → Option α) (items : List α) :
    Prop where
  nodup : names.Nodup
  items : names.map lookup = items.map some
  mem_iff : ∀ name item, lookup name = some item → (name ∈ names ↔ p item)

-- Some of the names have different places.
theorem nodup_map_idxOf [BEq ν] [LawfulBEq ν] {chosen : List ν} (hnodup : chosen.Nodup)
    (hchosen : ∀ name ∈ chosen, name ∈ names) : (chosen.map (names.idxOf ·)).Nodup :=
  hnodup.map_on fun name hname _ _ heq => (List.idxOf_inj (hchosen name hname)).mp heq

namespace Selected

theorem empty (h : ∀ name, lookup name = none) : Selected p [] lookup [] := by
  refine ⟨List.nodup_nil, rfl, fun name item hitem => ?_⟩
  rw [h name] at hitem
  cases hitem

theorem getElem? (h : Selected p names lookup items) {index : ℕ}
    (hname : names[index]? = some name) : lookup name = items[index]? := by
  have hmap := congrArg (·[index]?) h.items
  simp only [List.getElem?_map, hname, Option.map_some] at hmap
  cases hitem : items[index]? with
  | none => simp [hitem] at hmap
  | some item => simpa [hitem] using hmap

theorem exists_item (h : Selected p names lookup items) (hname : name ∈ names) :
    ∃ item, lookup name = some item := by
  have hmem : lookup name ∈ items.map some := h.items ▸ List.mem_map_of_mem hname
  obtain ⟨item, _, hitem⟩ := List.mem_map.mp hmem
  exact ⟨item, hitem.symm⟩

theorem exists_name (h : Selected p names lookup items) {item : α} (hitem : item ∈ items) :
    ∃ name ∈ names, lookup name = some item := by
  have hmem : some item ∈ names.map lookup := h.items ▸ List.mem_map_of_mem hitem
  exact List.mem_map.mp hmem

theorem notMem_of_none (h : Selected p names lookup items) (hnone : lookup name = none) :
    name ∉ names := by
  intro hname
  obtain ⟨item, hitem⟩ := h.exists_item hname
  cases hnone.symm.trans hitem

-- Where a thing with the property stands.
theorem getElem?_idxOf [BEq ν] [LawfulBEq ν] (h : Selected p names lookup items)
    (hlookup : lookup name = some old) (hp : p old) : items[names.idxOf name]? = some old := by
  have hname := (h.mem_iff name old hlookup).mpr hp
  rw [← h.getElem? (List.getElem?_idxOf hname), hlookup]

-- What some of the names stand for, by their places.
theorem filterMap_idxOf [BEq ν] [LawfulBEq ν] (h : Selected p names lookup items)
    {chosen : List ν} (hchosen : ∀ name ∈ chosen, name ∈ names) :
    (chosen.map (names.idxOf ·)).filterMap (items[·]?) = chosen.filterMap lookup := by
  rw [List.filterMap_map]
  refine List.filterMap_congr fun name hname => ?_
  exact (h.getElem? (List.getElem?_idxOf (hchosen name hname))).symm

variable [DecidableEq ν]

-- Looking up another thing than before under a name that is not in use here.
theorem map_update_of_notMem (hname : name ∉ names) :
    names.map (update lookup name (some new)) = names.map lookup := by
  refine List.map_congr_left fun other ho => update_of_ne ?_ _ _
  rintro rfl
  exact hname ho

theorem mem_iff_update {others : List ν} (h : Selected p names lookup items)
    (hname : name ∈ others ↔ p new)
    (hother : ∀ other, other ≠ name → (other ∈ others ↔ other ∈ names)) :
    ∀ other item, update lookup name (some new) other = some item → (other ∈ others ↔ p item) := by
  intro other item hitem
  by_cases heq : other = name
  · subst heq
    rw [update_self] at hitem
    cases hitem
    exact hname
  · rw [update_of_ne heq] at hitem
    exact (hother other heq).trans (h.mem_iff other item hitem)

-- A thing appears, with the property or without it.
theorem concat (h : Selected p names lookup items) (hnone : lookup name = none) (hp : p new) :
    Selected p (names ++ [name]) (update lookup name (some new)) (items ++ [new]) := by
  have hname := h.notMem_of_none hnone
  refine ⟨?_, ?_, h.mem_iff_update ?_ fun other heq => ?_⟩
  · exact List.nodup_append.mpr ⟨h.nodup, List.nodup_singleton name, by
      rintro other ho _ hl rfl
      exact hname (List.mem_singleton.mp hl ▸ ho)⟩
  · rw [List.map_append, List.map_append, map_update_of_notMem hname, h.items,
      List.map_singleton, update_self, List.map_singleton]
  · exact iff_of_true (List.mem_append_right _ (List.mem_singleton_self _)) hp
  · rw [List.mem_append, List.mem_singleton, or_iff_left heq]

theorem skip (h : Selected p names lookup items) (hnone : lookup name = none) (hp : ¬p new) :
    Selected p names (update lookup name (some new)) items := by
  have hname := h.notMem_of_none hnone
  refine ⟨h.nodup, ?_, h.mem_iff_update (iff_of_false hname hp) fun _ _ => Iff.rfl⟩
  rw [map_update_of_notMem hname, h.items]

-- A thing turns into another one, which has the property if it had.
theorem set [BEq ν] [LawfulBEq ν] (h : Selected p names lookup items)
    (hold : lookup name = some old) (hp : p old) (hnew : p new) :
    Selected p names (update lookup name (some new)) (items.set (names.idxOf name) new) := by
  cases lawful_beq_subsingleton ‹BEq ν› instBEqOfDecidableEq
  have hname := (h.mem_iff name old hold).mpr hp
  refine ⟨h.nodup, ?_, h.mem_iff_update (iff_of_true hname hnew) fun _ _ => Iff.rfl⟩
  rw [h.nodup.map_update, if_pos hname, h.items, List.map_set]

theorem keep (h : Selected p names lookup items) (hold : lookup name = some old) (hp : ¬p old)
    (hnew : ¬p new) : Selected p names (update lookup name (some new)) items := by
  have hname : name ∉ names := fun hname => hp ((h.mem_iff name old hold).mp hname)
  refine ⟨h.nodup, ?_, h.mem_iff_update (iff_of_false hname hnew) fun _ _ => Iff.rfl⟩
  rw [map_update_of_notMem hname, h.items]

end Selected

section Cell

variable {rows : List (List α)} {row : List α} {i j : ℕ}

-- Things that stand in rows, each of them named by its row and its position there.
def cell (rows : List (List α)) (name : ℕ × ℕ) : Option α := rows[name.1]?.bind (·[name.2]?)

theorem cell_eq_some_iff :
    cell rows (i, j) = some old ↔ ∃ row, rows[i]? = some row ∧ row[j]? = some old :=
  Option.bind_eq_some_iff

theorem cell_of_row (hrow : rows[i]? = some row) : cell rows (i, j) = row[j]? := by
  rw [cell, hrow, Option.bind_some]

theorem mem_flatten_iff {item : α} : item ∈ rows.flatten ↔ ∃ name, cell rows name = some item := by
  constructor
  · intro hitem
    obtain ⟨row, hrow, hitem⟩ := List.mem_flatten.mp hitem
    obtain ⟨i, hi⟩ := List.getElem?_of_mem hrow
    obtain ⟨j, hj⟩ := List.getElem?_of_mem hitem
    exact ⟨(i, j), cell_eq_some_iff.mpr ⟨row, hi, hj⟩⟩
  · rintro ⟨⟨i, j⟩, hname⟩
    obtain ⟨row, hi, hj⟩ := cell_eq_some_iff.mp hname
    exact List.mem_flatten.mpr ⟨row, List.mem_of_getElem? hi, List.mem_of_getElem? hj⟩

theorem cell_set (hrow : rows[i]? = some row) (hold : row[j]? = some old) :
    cell (rows.set i (row.set j new)) = update (cell rows) (i, j) (some new) := by
  obtain ⟨hi, rfl⟩ := List.getElem?_eq_some_iff.mp hrow
  have hj := (List.getElem?_eq_some_iff.mp hold).1
  funext ⟨a, b⟩
  by_cases ha : i = a
  · subst ha
    by_cases hb : j = b
    · subst hb
      simp [cell, hi, hj]
    · simp [cell, hi, List.getElem?_set_ne hb, Ne.symm hb]
  · simp [cell, List.getElem?_set_ne ha, Ne.symm ha]

theorem cell_concat (hrow : rows[i]? = some row) :
    cell (rows.set i (row ++ [new])) = update (cell rows) (i, row.length) (some new) := by
  obtain ⟨hi, rfl⟩ := List.getElem?_eq_some_iff.mp hrow
  funext ⟨a, b⟩
  by_cases ha : i = a
  · subst ha
    by_cases hb : b = rows[i].length
    · subst hb
      simp [cell, hi]
    · have hsame : (rows[i] ++ [new])[b]? = rows[i][b]? := by
        rw [List.getElem?_append]
        split_ifs with hlt
        · rfl
        · rw [List.getElem?_eq_none (by simp; omega), List.getElem?_eq_none (by omega)]
      simp [cell, hi, hsame, hb]
  · simp [cell, List.getElem?_set_ne ha, Ne.symm ha]

end Cell

end AppPrepanet.Named
