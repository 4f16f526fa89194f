import Mathlib.Data.List.MinMax

/-! Rules of which the most specific one that applies decides. Specificity is a number, and of
several rules of the highest one the first in the list decides. -/

namespace NetDrv.Specific

section
variable {R X : Type} (applies : R → X → Bool) (weight : R → Nat)

def decisive (rules : List R) (x : X) : Option R := (rules.filter (applies · x)).argmax weight

end

section
variable {R X : Type} {applies : R → X → Bool} {weight : R → Nat} {rules : List R} {rule : R} {x : X}

theorem decisive_eq_some (member : rule ∈ rules) (here : applies rule x = true)
    (above : ∀ other ∈ rules, applies other x = true → other ≠ rule → weight other < weight rule) :
    decisive applies weight rules x = some rule := by
  have candidate : rule ∈ rules.filter (applies · x) := List.mem_filter.mpr ⟨member, here⟩
  cases choice : decisive applies weight rules x with
  | none =>
    have nothing : rules.filter (applies · x) = [] := List.argmax_eq_none.mp choice
    rw [nothing] at candidate
    cases candidate
  | some other =>
    have chosen := List.mem_filter.mp (List.argmax_mem (Option.mem_def.mpr choice))
    by_contra different
    have below := above other chosen.1 chosen.2 (fun same => different (by rw [same]))
    have highest := List.le_of_mem_argmax candidate (Option.mem_def.mpr choice)
    omega

end
end NetDrv.Specific
