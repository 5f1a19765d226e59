import Mathlib.Data.List.DropRight
import Mathlib.Data.Nat.Notation
import Mathlib.Tactic.Common

namespace AppPrepanet.Swift

-- The 64-bit range of `Int`.
def inRange (value : Int) : Option Int :=
  if -0x8000000000000000 ≤ value ∧ value ≤ 0x7FFFFFFFFFFFFFFF then some value else none

def digits (chars : List Char) : Option ℕ :=
  if chars ≠ [] ∧ chars.all Char.isDigit then some (Nat.ofDigitChars 10 chars 0) else none

-- `Int(text)`: an optional sign and at least one decimal digit, nothing else.
def int (text : String) : Option Int :=
  match text.toList with
  | '+' :: chars => (digits chars).bind fun value => inRange value
  | '-' :: chars => (digits chars).bind fun value => inRange (-value)
  | chars => (digits chars).bind fun value => inRange value

theorem digits_toDigits (n : ℕ) : digits (Nat.toDigits 10 n) = some n := by
  have hall : (Nat.toDigits 10 n).all Char.isDigit :=
    List.all_eq_true.mpr fun c hc => Nat.isDigit_of_mem_toDigits (by decide) (by decide) hc
  simp [digits, Nat.toDigits_ne_nil, hall]

-- The text of a number reads back as that number, as long as it fits.
theorem int_toString (n : ℕ) : int (toString n) = inRange n := by
  have hdigit : ∀ c ∈ Nat.toDigits 10 n, c.isDigit :=
    fun c hc => Nat.isDigit_of_mem_toDigits (by decide) (by decide) hc
  have hlist : (toString n).toList = Nat.toDigits 10 n := Nat.toList_repr
  unfold int
  rw [hlist]
  split
  · rename_i chars hchars
    have hplus := hdigit '+' (hchars ▸ List.mem_cons_self)
    simp at hplus
  · rename_i chars hchars
    have hminus := hdigit '-' (hchars ▸ List.mem_cons_self)
    simp at hminus
  · rw [digits_toDigits, Option.bind_some]

theorem int_toString_eq {n : ℕ} {value : Int} (h : int (toString n) = some value) : value = n := by
  rw [int_toString, inRange] at h
  split at h <;> simp_all

theorem toString_injective : Function.Injective (toString : ℕ → String) := by
  intro a b h
  have hd : Nat.toDigits 10 a = Nat.toDigits 10 b := by
    simpa only [Nat.toString_eq_repr, Nat.toList_repr] using congrArg String.toList h
  simpa using congrArg (Nat.ofDigitChars 10 · 0) hd

-- `.whitespacesAndNewlines`: general category Z, U+0009 to U+000D and U+0085.
def isWhitespaceOrNewline (c : Char) : Bool :=
  (0x09 ≤ c.toNat && c.toNat ≤ 0x0D) || (0x2000 ≤ c.toNat && c.toNat ≤ 0x200A) ||
    [0x20, 0x85, 0xA0, 0x1680, 0x2028, 0x2029, 0x202F, 0x205F, 0x3000].contains c.toNat

-- `trimmingCharacters(in: .whitespacesAndNewlines)`
def trimming (text : String) : String :=
  String.ofList
    ((text.toList.dropWhile isWhitespaceOrNewline).reverse.dropWhile isWhitespaceOrNewline).reverse

example : trimming " a b\n" = "a b" := by decide

-- `padded` is `text` with blanks before and after it.
def Padded (text padded : String) : Prop :=
  ∃ before after : List Char, (∀ c ∈ before, isWhitespaceOrNewline c = true) ∧
    (∀ c ∈ after, isWhitespaceOrNewline c = true) ∧ padded.toList = before ++ (text.toList ++ after)

theorem rdropWhile_append_of_pos {α : Type*} {p : α → Bool} {l after : List α}
    (h : ∀ a ∈ after, p a = true) : (l ++ after).rdropWhile p = l.rdropWhile p := by
  have hrev : ∀ a ∈ after.reverse, p a = true := fun a ha => h a (List.mem_reverse.mp ha)
  rw [List.rdropWhile, List.rdropWhile, List.reverse_append, List.dropWhile_append_of_pos hrev]

theorem Padded.trimming_eq {text padded : String} (h : Padded text padded) :
    trimming padded = trimming text := by
  obtain ⟨before, after, hbefore, hafter, hchars⟩ := h
  have hfront : padded.toList.dropWhile isWhitespaceOrNewline =
      (text.toList ++ after).dropWhile isWhitespaceOrNewline := by
    rw [hchars, List.dropWhile_append_of_pos hbefore]
  have hback : ((text.toList ++ after).dropWhile isWhitespaceOrNewline).rdropWhile
      isWhitespaceOrNewline =
      (text.toList.dropWhile isWhitespaceOrNewline).rdropWhile isWhitespaceOrNewline := by
    rw [List.dropWhile_append]
    split_ifs with hblank
    · -- Nothing of the text is left, and nothing of the blanks after it.
      rw [List.isEmpty_iff.mp hblank, List.dropWhile_eq_nil_iff.mpr hafter]
    · exact rdropWhile_append_of_pos hafter
  exact congrArg String.ofList ((congrArg _ hfront).trans hback)

theorem padded_trimming (text : String) : Padded (trimming text) text := by
  let front := text.toList.dropWhile isWhitespaceOrNewline
  refine ⟨text.toList.takeWhile isWhitespaceOrNewline, front.rtakeWhile isWhitespaceOrNewline,
    fun c hc => List.mem_takeWhile_imp hc, fun c hc => List.mem_rtakeWhile_imp hc, ?_⟩
  have htrimming : (trimming text).toList = front.rdropWhile isWhitespaceOrNewline :=
    String.toList_ofList
  rw [htrimming, List.rdropWhile_append_rtakeWhile, List.takeWhile_append_dropWhile]

theorem trimming_trimming (text : String) : trimming (trimming text) = trimming text :=
  (padded_trimming text).trimming_eq.symm

end AppPrepanet.Swift
