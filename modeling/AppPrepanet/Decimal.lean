import Mathlib.Algebra.Group.Nat.Defs
import Mathlib.Data.Char
import Mathlib.Data.List.Lex
import Mathlib.Order.Lattice
import Mathlib.Tactic.Common

-- Numbers written down in decimal, and the order of the texts.
namespace AppPrepanet.Decimal

-- The number that a text of decimal digits writes down.
def number (text : String) : ℕ := Nat.ofDigitChars 10 text.toList 0

@[simp] theorem number_toString (n : ℕ) : number (toString n) = n := by
  simp [number]

section Sorted

variable {α : Type*} {r s : α → α → Prop} {items : List α}

-- A list that is sorted one way is sorted the other way exactly when the other order, where
-- it holds between two items, agrees with the first.
theorem pairwise_iff_of_pairwise (hr : items.Pairwise r) (hrasymm : ∀ a b, r a b → ¬r b a)
    (hsasymm : ∀ a b, s a b → ¬s b a)
    (htotal : ∀ a ∈ items, ∀ b ∈ items, r a b → s a b ∨ s b a) :
    items.Pairwise s ↔ ∀ a ∈ items, ∀ b ∈ items, s a b → r a b := by
  constructor
  · intro hs
    induction items with
    | nil => simp
    | cons head rest ih =>
        obtain ⟨hhead, hrest⟩ := List.pairwise_cons.mp hr
        obtain ⟨hhead', hrest'⟩ := List.pairwise_cons.mp hs
        have htail := ih hrest (fun a ha b hb => htotal a (List.mem_cons_of_mem _ ha) b
          (List.mem_cons_of_mem _ hb)) hrest'
        have hirrefl : ¬s head head := fun h => hsasymm head head h h
        rw [List.forall_mem_cons]
        refine ⟨List.forall_mem_cons.mpr ⟨fun h => absurd h hirrefl, fun b hb _ => hhead b hb⟩,
          fun a ha => List.forall_mem_cons.mpr ⟨fun hab => ?_, htail a ha⟩⟩
        exact absurd hab (hsasymm head a (hhead' a ha))
  · intro h
    refine hr.imp_of_mem fun {a b} ha hb hab => ?_
    rcases htotal a ha b hb hab with hs | hs
    · exact hs
    · exact absurd hab (hrasymm b a (h b hb a ha hs))

end Sorted

section Lex

variable {α : Type*} [LinearOrder α] {first last tail tail' : List α}

-- Of two texts that start with pieces of one length, the pieces decide, and the rest
-- decides between equal pieces.
theorem append_lt_append_iff (hlength : first.length = last.length) :
    first ++ tail < last ++ tail' ↔ first < last ∨ (first = last ∧ tail < tail') := by
  induction first generalizing last with
  | nil =>
      have hlast : last = [] := List.length_eq_zero_iff.mp hlength.symm
      simp [hlast]
  | cons a first ih =>
      cases last with
      | nil => simp at hlength
      | cons b last =>
          have hrest := ih (Nat.succ.inj hlength)
          simp only [List.cons_append, List.cons_lt_cons_iff, hrest, List.cons.injEq]
          tauto

end Lex

section Digits

theorem digitChar_lt_digitChar_iff {m n : ℕ} (hm : m < 10) (hn : n < 10) :
    m.digitChar < n.digitChar ↔ m < n := by
  have hall : ∀ m < 10, ∀ n < 10, m.digitChar < n.digitChar ↔ m < n := by decide
  exact hall m hm n hn

theorem toDigits_inj {m n : ℕ} : Nat.toDigits 10 m = Nat.toDigits 10 n ↔ m = n := by
  refine ⟨fun h => ?_, fun h => by rw [h]⟩
  simpa using congrArg (Nat.ofDigitChars 10 · 0) h

-- Numbers of one length are ordered like their digits.
theorem toDigits_lt_toDigits_iff {m n : ℕ}
    (hlength : (Nat.toDigits 10 m).length = (Nat.toDigits 10 n).length) :
    Nat.toDigits 10 m < Nat.toDigits 10 n ↔ m < n := by
  induction m using Nat.strongRecOn generalizing n with
  | ind m ih =>
      by_cases hm : m < 10
      · have hone : (Nat.toDigits 10 m).length ≤ 1 := by
          rw [Nat.length_toDigits_le_iff (by decide) (by decide)]
          omega
        have hn : n < 10 := by
          rw [hlength, Nat.length_toDigits_le_iff (by decide) (by decide)] at hone
          omega
        rw [Nat.toDigits_of_lt_base hm, Nat.toDigits_of_lt_base hn, List.cons_lt_cons_iff]
        simp [digitChar_lt_digitChar_iff hm hn]
      · have hmany : ¬(Nat.toDigits 10 m).length ≤ 1 := by
          rw [Nat.length_toDigits_le_iff (by decide) (by decide)]
          omega
        have hn : 10 ≤ n := by
          rw [hlength, Nat.length_toDigits_le_iff (by decide) (by decide)] at hmany
          omega
        rw [Nat.toDigits_of_base_le (by decide) (Nat.le_of_not_lt hm),
          Nat.toDigits_of_base_le (by decide) hn] at hlength ⊢
        have hrest : (Nat.toDigits 10 (m / 10)).length = (Nat.toDigits 10 (n / 10)).length := by
          simpa using hlength
        have hprefix := ih (m / 10) (by omega) hrest
        have hlast := digitChar_lt_digitChar_iff (Nat.mod_lt m (by decide : 0 < 10))
          (Nat.mod_lt n (by decide : 0 < 10))
        rw [append_lt_append_iff hrest, hprefix, toDigits_inj, List.cons_lt_cons_iff, hlast]
        simp only [List.not_lt_nil, and_false, or_false]
        omega

-- Dropping the last digits of a number divides it by a power of ten.
theorem exists_toDigits_eq_append {n k : ℕ} (h : 0 < n / 10 ^ k) :
    ∃ rest : List Char, rest.length = k ∧
      Nat.toDigits 10 n = Nat.toDigits 10 (n / 10 ^ k) ++ rest := by
  induction k with
  | zero => exact ⟨[], rfl, by simp⟩
  | succ k ih =>
      have hdiv : n / 10 ^ (k + 1) = n / 10 ^ k / 10 := by
        rw [Nat.pow_succ, Nat.div_div_eq_div_mul]
      rw [hdiv] at h ⊢
      have hten : 10 ≤ n / 10 ^ k := by omega
      obtain ⟨rest, hlength, hrest⟩ := ih (by omega)
      refine ⟨Nat.digitChar (n / 10 ^ k % 10) :: rest, by rw [List.length_cons, hlength], ?_⟩
      rw [hrest, Nat.toDigits_of_base_le (by decide) hten]
      simp

theorem length_toString (n : ℕ) : (toString n).length = (Nat.toDigits 10 n).length := by
  rw [← String.length_toList]
  exact congrArg List.length Nat.toList_repr

theorem pow_le_of_length_toDigits {n k : ℕ} (hpos : 0 < n) (h : k < (Nat.toDigits 10 n).length) :
    10 ^ k ≤ n := by
  rcases Nat.eq_zero_or_pos k with rfl | hk
  · exact hpos
  · have hnot : ¬(Nat.toDigits 10 n).length ≤ k := Nat.not_le_of_lt h
    rw [Nat.length_toDigits_le_iff (by decide) hk] at hnot
    exact Nat.le_of_not_lt hnot

-- The text of the smaller number comes first exactly when the number is not greater than
-- what the first digits of the greater one, as many as its own, make.
theorem toString_lt_toString_iff {m n : ℕ} (hpos : 0 < m) (h : m < n) :
    toString m < toString n ↔
      m ≤ n / 10 ^ ((toString n).length - (toString m).length) := by
  rw [length_toString, length_toString]
  have hm : 0 < (Nat.toDigits 10 m).length := Nat.length_toDigits_pos
  have hn : 0 < (Nat.toDigits 10 n).length := Nat.length_toDigits_pos
  have hle : (Nat.toDigits 10 m).length ≤ (Nat.toDigits 10 n).length := by
    have hbound := (Nat.length_toDigits_le_iff (b := 10) (n := n) (by decide) hn).mp (Nat.le_refl _)
    exact (Nat.length_toDigits_le_iff (by decide) hn).mpr (h.trans hbound)
  generalize hk : (Nat.toDigits 10 n).length - (Nat.toDigits 10 m).length = k
  have hquotient : 0 < n / 10 ^ k :=
    Nat.div_pos (pow_le_of_length_toDigits (by omega) (by omega)) (Nat.pow_pos (by decide))
  obtain ⟨rest, hrest, hdigits⟩ := exists_toDigits_eq_append hquotient
  have hlength : (Nat.toDigits 10 m).length = (Nat.toDigits 10 (n / 10 ^ k)).length := by
    have htotal := congrArg List.length hdigits
    rw [List.length_append, hrest] at htotal
    omega
  have htext : toString m < toString n ↔ Nat.toDigits 10 m ++ [] < Nat.toDigits 10 n := by
    rw [List.append_nil, ← Nat.toList_repr, ← Nat.toList_repr]
    exact String.lt_iff
  rw [htext, hdigits, append_lt_append_iff hlength, toDigits_lt_toDigits_iff hlength, toDigits_inj]
  cases rest with
  | nil =>
      have hsame : n / 10 ^ k = n := by simp [← hrest]
      rw [hsame]
      simp [h, h.le]
  | cons digit rest => simp [Nat.le_iff_lt_or_eq]

end Digits

end AppPrepanet.Decimal
