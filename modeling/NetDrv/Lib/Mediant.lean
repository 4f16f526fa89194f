import Mathlib.Algebra.BigOperators.Ring.List
import Mathlib.Algebra.Order.BigOperators.Group.List
import Mathlib.Algebra.Order.Field.Basic
import Mathlib.Tactic.Linarith

/-! The quotient of two sums lies between the quotients of their terms. Terms whose
denominator is zero have to be zero themselves, and are not counted. -/

namespace NetDrv.Mediant

section
variable {α K : Type} [Field K] [LinearOrder K] [IsStrictOrderedRing K] {num den : α → K} {items : List α}

theorem exists_pos (positive : 0 < (items.map den).sum) : ∃ x ∈ items, 0 < den x := by
  apply List.exists_lt_of_sum_lt (fun _ => 0) den
  simpa using positive

theorem div_lt_of_forall (bound : K) (empty : ∀ x ∈ items, den x = 0 → num x = 0) (nonneg : ∀ x ∈ items, 0 ≤ den x)
    (positive : 0 < (items.map den).sum) (below : ∀ x ∈ items, 0 < den x → num x / den x < bound) :
    (items.map num).sum / (items.map den).sum < bound := by
  have strict : ∀ x ∈ items, 0 < den x → num x < bound * den x :=
    fun x mem pos => (div_lt_iff₀ pos).1 (below x mem pos)
  rw [div_lt_iff₀ positive, ← List.sum_map_mul_left]
  apply List.sum_lt_sum
  · intro x mem
    rcases (nonneg x mem).eq_or_lt with zero | pos
    · rw [empty x mem zero.symm, ← zero, mul_zero]
    · exact (strict x mem pos).le
  · obtain ⟨x, mem, pos⟩ := exists_pos positive
    exact ⟨x, mem, strict x mem pos⟩

theorem exists_le_div (empty : ∀ x ∈ items, den x = 0 → num x = 0) (nonneg : ∀ x ∈ items, 0 ≤ den x)
    (positive : 0 < (items.map den).sum) :
    ∃ x ∈ items, 0 < den x ∧ (items.map num).sum / (items.map den).sum ≤ num x / den x := by
  by_contra none
  push Not at none
  exact lt_irrefl _ (div_lt_of_forall _ empty nonneg positive none)

theorem exists_div_le (empty : ∀ x ∈ items, den x = 0 → num x = 0) (nonneg : ∀ x ∈ items, 0 ≤ den x)
    (positive : 0 < (items.map den).sum) :
    ∃ x ∈ items, 0 < den x ∧ num x / den x ≤ (items.map num).sum / (items.map den).sum := by
  have opposite : ∀ x ∈ items, den x = 0 → -num x = 0 := fun x mem zero => neg_eq_zero.2 (empty x mem zero)
  obtain ⟨x, mem, pos, le⟩ := exists_le_div opposite nonneg positive
  refine ⟨x, mem, pos, ?_⟩
  have sum : (items.map (fun x => -num x)).sum = -(items.map num).sum := by
    rw [← neg_one_mul, ← List.sum_map_mul_left]
    simp
  rw [sum, neg_div, neg_div] at le
  exact neg_le_neg_iff.1 le

end
end NetDrv.Mediant
