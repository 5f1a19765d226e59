import Mathlib.Data.List.Basic

namespace AppPrepanet.Growth

-- A list that grows at its end and changes in place: what stood at a position stands there
-- still, as what it has become.
def Extends {α : Type*} (R : α → α → Prop) (old new : List α) : Prop :=
  ∀ (index : ℕ) (item : α), old[index]? = some item →
    ∃ later, new[index]? = some later ∧ R item later

namespace Extends

variable {α : Type*} {R : α → α → Prop} {old middle new : List α}

theorem refl [Std.Refl R] (items : List α) : Extends R items items :=
  fun _ item hitem => ⟨item, hitem, Std.Refl.refl item⟩

theorem trans [IsTrans α R] (hfirst : Extends R old middle) (hlast : Extends R middle new) :
    Extends R old new := by
  intro index item hitem
  obtain ⟨between, hbetween, hR⟩ := hfirst index item hitem
  obtain ⟨later, hlater, hR'⟩ := hlast index between hbetween
  exact ⟨later, hlater, IsTrans.trans _ _ _ hR hR'⟩

theorem exists_mem (h : Extends R old new) {item : α} (hi : item ∈ old) :
    ∃ later ∈ new, R item later := by
  obtain ⟨index, hindex⟩ := List.getElem?_of_mem hi
  obtain ⟨later, hlater, hR⟩ := h index item hindex
  exact ⟨later, List.mem_of_getElem? hlater, hR⟩

-- The three ways in which such a list changes.
theorem concat [Std.Refl R] (items : List α) (item : α) : Extends R items (items ++ [item]) := by
  intro index found hfound
  have hlt := (List.getElem?_eq_some_iff.mp hfound).1
  exact ⟨found, by rw [List.getElem?_append_left hlt, hfound], Std.Refl.refl found⟩

theorem set [Std.Refl R] {items : List α} {position : ℕ} {item later : α}
    (hitem : items[position]? = some item) (hR : R item later) :
    Extends R items (items.set position later) := by
  intro index found hfound
  by_cases heq : position = index
  · subst heq
    cases Option.some.inj (hitem.symm.trans hfound)
    have hlt := (List.getElem?_eq_some_iff.mp hitem).1
    exact ⟨later, List.getElem?_set_self hlt, hR⟩
  · exact ⟨found, by rw [List.getElem?_set_ne heq, hfound], Std.Refl.refl found⟩

theorem map {items : List α} {f : α → α} (hR : ∀ item ∈ items, R item (f item)) :
    Extends R items (items.map f) := by
  intro index found hfound
  refine ⟨f found, ?_, hR found (List.mem_of_getElem? hfound)⟩
  rw [List.getElem?_map, hfound, Option.map_some]

end Extends

end AppPrepanet.Growth
