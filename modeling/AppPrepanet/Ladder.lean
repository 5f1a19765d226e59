import Mathlib.Data.Nat.Find
import Mathlib.Order.Cover
import Mathlib.Order.UpperLower.Basic

namespace AppPrepanet.Ladder

variable {α : Type*} {entered passed : Set α} {prior next : α}

-- Nobody has entered a rung without having passed every rung below it.
def Enforced [Preorder α] (entered passed : Set α) : Prop :=
  ∀ rung ∈ entered, Set.Iio rung ⊆ passed

-- One step: nothing that was passed is lost, and a rung is new only if every rung below it
-- had been passed.
theorem Enforced.step [Preorder α] {entered' passed' : Set α} (h : Enforced entered passed)
    (hpassed : passed ⊆ passed')
    (hentered : ∀ rung ∈ entered', rung ∈ entered ∨ Set.Iio rung ⊆ passed) :
    Enforced entered' passed' := by
  intro rung hr
  rcases hentered rung hr with hold | hnew
  · exact (h rung hold).trans hpassed
  · exact hnew.trans hpassed

-- The test on the rung just below stands for the test on all of them, because that
-- rung was itself entered under the law.
theorem Enforced.below_of_covBy [LinearOrder α] (h : Enforced entered passed)
    (hsub : passed ⊆ entered) (hcover : prior ⋖ next) (hprior : prior ∈ passed) :
    Set.Iio next ⊆ passed := by
  intro rung hr
  rcases (hcover.le_of_lt hr).eq_or_lt with rfl | hlt
  · exact hprior
  · exact h prior (hsub hprior) hlt

theorem Enforced.isLowerSet [PartialOrder α] (h : Enforced entered passed)
    (hsub : passed ⊆ entered) : IsLowerSet passed := by
  intro upper lower hle hupper
  rcases hle.eq_or_lt with rfl | hlt
  · exact hupper
  · exact h upper (hsub hupper) hlt

-- On a ladder of numbered rungs the passed ones are the first few.
theorem exists_prefix {passed : Set ℕ} {bound : ℕ} (h : IsLowerSet passed) (hbound : bound ∉ passed) :
    ∃ count ≤ bound, ∀ rung, rung ∈ passed ↔ rung < count := by
  classical
  have hex : ∃ rung, rung ∉ passed := ⟨bound, hbound⟩
  refine ⟨Nat.find hex, Nat.find_min' hex hbound, fun rung => ⟨fun hr => ?_, fun hlt => ?_⟩⟩
  · by_contra hle
    exact Nat.find_spec hex (h (Nat.le_of_not_lt hle) hr)
  · simpa using Nat.find_min hex hlt

end AppPrepanet.Ladder
