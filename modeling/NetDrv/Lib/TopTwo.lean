import Mathlib.Data.List.Induction
import Mathlib.Order.Lattice

/-! The items of the two highest ranks of a list, found in one pass over it. Items are
compared by rank only, so several may share one; of these the first in the list counts.
The second item is the best of those whose rank is not the highest. -/

namespace NetDrv.TopTwo

section
variable {α β : Type} [LinearOrder β] (rank : α → β)

/-- `x` is the first item of the highest rank. -/
structure Best (items : List α) (x : α) : Prop where
  first : items.find? (fun y => rank y = rank x) = some x
  highest : ∀ y ∈ items, rank y ≤ rank x

/-- The items of any rank but that of `x`. -/
def others (items : List α) (x : α) : List α := items.filter (fun y => rank y ≠ rank x)

/-- What a pass over `items` is to find. -/
inductive Kept (items : List α) : Option α × Option α → Prop where
  | empty (nothing : items = []) : Kept items (none, none)
  | one (best : α) (first : Best rank items best) (alone : others rank items best = []) : Kept items (some best, none)
  | two (best second : α) (first : Best rank items best) (next : Best rank (others rank items best) second) :
    Kept items (some best, some second)

def keep (kept : Option α × Option α) (new : α) : Option α × Option α :=
  match kept.1 with
  | none => (some new, kept.2)
  | some best =>
    if rank new = rank best then kept
    else if kept.2.any (fun second => rank new = rank second) then kept
    else if rank best < rank new then (some new, some best)
    else if kept.2.all (fun second => rank second < rank new) then (some best, some new)
    else kept

end

section
variable {α β : Type} [LinearOrder β] {rank : α → β} {items : List α} {x new : α}

theorem Best.mem (best : Best rank items x) : x ∈ items := List.mem_of_find?_eq_some best.first

theorem mem_others {y : α} : y ∈ others rank items x ↔ y ∈ items ∧ rank y ≠ rank x := by
  simp [others]

theorem Best.append (best : Best rank items x) (low : rank new ≤ rank x) : Best rank (items ++ [new]) x where
  first := by
    rw [List.find?_append, best.first]
    rfl
  highest := by
    intro y mem
    rw [List.mem_append, List.mem_singleton] at mem
    cases mem with
    | inl old => exact best.highest y old
    | inr last => exact last ▸ low

theorem Best.of_above (above : ∀ y ∈ items, rank y < rank new) : Best rank (items ++ [new]) new where
  first := by
    have absent : items.find? (fun y => rank y = rank new) = none := by
      rw [List.find?_eq_none]
      intro y mem
      simp [(above y mem).ne]
    rw [List.find?_append, absent]
    simp
  highest := by
    intro y mem
    rw [List.mem_append, List.mem_singleton] at mem
    cases mem with
    | inl old => exact (above y old).le
    | inr last => rw [last]

theorem others_append_same (same : rank new = rank x) : others rank (items ++ [new]) x = others rank items x := by
  simp [others, same]

theorem others_append_other (other : rank new ≠ rank x) :
    others rank (items ++ [new]) x = others rank items x ++ [new] := by
  simp [others, other]

theorem others_of_above (above : ∀ y ∈ items, rank y < rank new) : others rank (items ++ [new]) new = items := by
  rw [others_append_same rfl, others, List.filter_eq_self]
  intro y mem
  simp [(above y mem).ne]

theorem Kept.displace {best : α} (first : Best rank items best) (higher : rank best < rank new) :
    Kept rank (items ++ [new]) (some new, some best) := by
  have above : ∀ y ∈ items, rank y < rank new := fun y mem => (first.highest y mem).trans_lt higher
  apply Kept.two
  · exact Best.of_above above
  · rw [others_of_above above]
    exact first

theorem Kept.keep {kept : Option α × Option α} (inv : Kept rank items kept) (new : α) :
    Kept rank (items ++ [new]) (TopTwo.keep rank kept new) := by
  cases inv with
  | empty nothing =>
    rw [nothing]
    apply Kept.one
    · exact Best.of_above (by simp)
    · exact others_of_above (by simp)
  | one best first alone =>
    rcases lt_trichotomy (rank new) (rank best) with lower | same | higher
    · have step : TopTwo.keep rank (some best, none) new = (some best, some new) := by
        simp [TopTwo.keep, lower.ne, lower.not_gt]
      rw [step]
      apply Kept.two _ _ (first.append lower.le)
      rw [others_append_other lower.ne, alone]
      exact Best.of_above (by simp)
    · have step : TopTwo.keep rank (some best, none) new = (some best, none) := by
        simp [TopTwo.keep, same]
      rw [step]
      apply Kept.one _ (first.append same.le)
      rw [others_append_same same]
      exact alone
    · have step : TopTwo.keep rank (some best, none) new = (some new, some best) := by
        simp [TopTwo.keep, higher.ne', higher]
      rw [step]
      exact Kept.displace first higher
  | two best second first next =>
    rcases lt_trichotomy (rank new) (rank best) with lower | same | higher
    · -- only the second item can change, and only for one of a rank between the two
      rcases lt_or_ge (rank second) (rank new) with between | low
      · have step : TopTwo.keep rank (some best, some second) new = (some best, some new) := by
          simp [TopTwo.keep, lower.ne, lower.not_gt, between.ne', between]
        rw [step]
        apply Kept.two _ _ (first.append lower.le)
        rw [others_append_other lower.ne]
        exact Best.of_above (fun y mem => (next.highest y mem).trans_lt between)
      · have step : TopTwo.keep rank (some best, some second) new = (some best, some second) := by
          simp [TopTwo.keep, lower.not_gt, low.not_gt]
        rw [step]
        apply Kept.two _ _ (first.append lower.le)
        rw [others_append_other lower.ne]
        exact next.append low
    · have step : TopTwo.keep rank (some best, some second) new = (some best, some second) := by
        simp [TopTwo.keep, same]
      rw [step]
      apply Kept.two _ _ (first.append same.le)
      rw [others_append_same same]
      exact next
    · have apart : rank new ≠ rank second := by
        have below := (mem_others.1 next.mem).1
        exact ((first.highest second below).trans_lt higher).ne'
      have step : TopTwo.keep rank (some best, some second) new = (some new, some best) := by
        simp [TopTwo.keep, higher.ne', higher, apart]
      rw [step]
      exact Kept.displace first higher

theorem kept_foldl {step : Option α × Option α → α → Option α × Option α}
    (agrees : ∀ items kept new, Kept rank items kept → step kept new = keep rank kept new) (items : List α) :
    Kept rank items (items.foldl step (none, none)) := by
  induction items using List.reverseRecOn with
  | nil => exact .empty rfl
  | append_singleton items new ih =>
    rw [List.foldl_append, List.foldl_cons, List.foldl_nil, agrees items _ new ih]
    exact ih.keep new

theorem Kept.second_isSome {kept : Option α × Option α} (inv : Kept rank items kept) :
    kept.2.isSome ↔ ∃ y ∈ items, ∃ z ∈ items, rank y ≠ rank z := by
  cases inv with
  | empty nothing => simp [nothing]
  | one best first alone =>
    have same : ∀ y ∈ items, rank y = rank best := by
      intro y mem
      by_contra other
      have left : y ∈ others rank items best := mem_others.2 ⟨mem, other⟩
      rw [alone] at left
      exact List.not_mem_nil left
    constructor
    · intro absurd
      cases absurd
    · intro ⟨y, left, z, right, differ⟩
      exact absurd ((same y left).trans (same z right).symm) differ
  | two best second first next =>
    have found := mem_others.1 next.mem
    exact iff_of_true rfl ⟨second, found.1, best, first.mem, found.2⟩

theorem Kept.second_lt {best second : α} (inv : Kept rank items (some best, some second)) :
    rank second < rank best := by
  cases inv with
  | two _ _ first next =>
    have found := mem_others.1 next.mem
    exact lt_of_le_of_ne (first.highest second found.1) found.2

end
end NetDrv.TopTwo
