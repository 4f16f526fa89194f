import Mathlib.Data.BitVec
import Mathlib.Data.List.Perm.Basic

/-! Serial numbers of `w` bits. They are ordered only as far as they lie within a
window of less than half of their range; there the order is that of the distances
from the start of the window, wherever the window lies. -/

namespace NetDrv.Serial

variable {w : Nat}

/-- How far `x` is ahead of `base`. -/
def ahead (base x : BitVec w) : Nat := (x - base).toNat

variable {base x y : BitVec w}

theorem ahead_lt (base x : BitVec w) : ahead base x < 2 ^ w := (x - base).isLt

@[simp] theorem ahead_self (x : BitVec w) : ahead x x = 0 := by
  simp [ahead]

theorem ahead_inj (same : ahead base x = ahead base y) : x = y :=
  sub_left_inj.mp (BitVec.eq_of_toNat_eq same)

theorem ahead_of_le (order : ahead base x ≤ ahead base y) : ahead x y = ahead base y - ahead base x := by
  have shift : y - x = (y - base) - (x - base) := (sub_sub_sub_cancel_right y x base).symm
  unfold ahead at *
  rw [shift, BitVec.toNat_sub_of_le (BitVec.le_def.mpr order)]

theorem ahead_of_lt (order : ahead base y < ahead base x) :
    ahead x y = 2 ^ w - (ahead base x - ahead base y) := by
  have shift : y - x = (y - base) - (x - base) := (sub_sub_sub_cancel_right y x base).symm
  have bound := ahead_lt base x
  unfold ahead at *
  rw [shift, BitVec.toNat_sub, Nat.mod_eq_of_lt (by omega)]
  omega

theorem ahead_add {n : BitVec w} (fits : ahead base x + n.toNat < 2 ^ w) :
    ahead base (x + n) = ahead base x + n.toNat := by
  have shift : x + n - base = (x - base) + n := by rw [add_sub_right_comm]
  unfold ahead at *
  rw [shift, BitVec.toNat_add, Nat.mod_eq_of_lt fits]

/-- A comparison of serial numbers; at a distance of half the range it may answer anything but zero. -/
structure Compare (w : Nat) where
  compare : BitVec w → BitVec w → Int
  eq_zero : ∀ {a b : BitVec w}, compare a b = 0 ↔ a = b
  before : ∀ {a b : BitVec w}, 0 < ahead a b → 2 * ahead a b < 2 ^ w → compare a b < 0
  after : ∀ {a b : BitVec w}, 0 < ahead b a → 2 * ahead b a < 2 ^ w → 0 < compare a b

namespace Compare
variable (cmp : Compare w) {size : Nat}

theorem sign_cases (window : 2 * size < 2 ^ w) (first : ahead base x ≤ size) (second : ahead base y ≤ size) :
    (ahead base x < ahead base y ∧ cmp.compare x y < 0) ∨ (ahead base x = ahead base y ∧ cmp.compare x y = 0) ∨
      (ahead base y < ahead base x ∧ 0 < cmp.compare x y) := by
  rcases Nat.lt_trichotomy (ahead base x) (ahead base y) with less | same | more
  · have distance := ahead_of_le (Nat.le_of_lt less)
    have negative : cmp.compare x y < 0 := cmp.before (by omega) (by omega)
    exact .inl ⟨less, negative⟩
  · exact .inr (.inl ⟨same, cmp.eq_zero.mpr (ahead_inj same)⟩)
  · have distance := ahead_of_le (Nat.le_of_lt more)
    have positive : 0 < cmp.compare x y := cmp.after (by omega) (by omega)
    exact .inr (.inr ⟨more, positive⟩)

theorem neg_iff (window : 2 * size < 2 ^ w) (first : ahead base x ≤ size) (second : ahead base y ≤ size) :
    cmp.compare x y < 0 ↔ ahead base x < ahead base y := by
  have sign := cmp.sign_cases window first second
  omega

theorem pos_iff (window : 2 * size < 2 ^ w) (first : ahead base x ≤ size) (second : ahead base y ≤ size) :
    0 < cmp.compare x y ↔ ahead base y < ahead base x := by
  have sign := cmp.sign_cases window first second
  omega

end Compare

def signed (w : Nat) : Compare w where
  compare a b := if a = b then 0 else if 2 * ahead a b < 2 ^ w then -1 else 1
  eq_zero {a b} := by
    constructor
    · intro zero
      split at zero
      · assumption
      · split at zero <;> simp at zero
    · intro same
      simp [same]
  before {a b} distinct near := by
    have differ : a ≠ b := by
      intro same
      rw [same, ahead_self] at distinct
      exact absurd distinct (Nat.lt_irrefl 0)
    simp [differ, near]
  after {a b} distinct near := by
    have differ : a ≠ b := by
      intro same
      rw [same, ahead_self] at distinct
      exact absurd distinct (Nat.lt_irrefl 0)
    have opposite : ahead a b = 2 ^ w - ahead b a := by
      have swap : ahead a b = 2 ^ w - (ahead b a - ahead b b) := ahead_of_lt (by simpa using distinct)
      simpa using swap
    have far : ¬2 * ahead a b < 2 ^ w := by
      have bound := ahead_lt b a
      omega
    simp [differ, far]

/-- `x` is the latest of the serial numbers `xs` of a window that starts at `base`. -/
def IsLatest (base : BitVec w) (xs : List (BitVec w)) (x : BitVec w) : Prop :=
  x ∈ xs ∧ ∀ y ∈ xs, ahead base y ≤ ahead base x

/-- `x` is the earliest of them. -/
def IsEarliest (base : BitVec w) (xs : List (BitVec w)) (x : BitVec w) : Prop :=
  x ∈ xs ∧ ∀ y ∈ xs, ahead base x ≤ ahead base y

section Extrema
variable {xs ys : List (BitVec w)}

theorem isLatest_singleton (base x : BitVec w) : IsLatest base [x] x := by
  simp [IsLatest]

theorem isEarliest_singleton (base x : BitVec w) : IsEarliest base [x] x := by
  simp [IsEarliest]

theorem IsLatest.snoc (latest : IsLatest base xs x) (y : BitVec w) :
    IsLatest base (xs ++ [y]) (if ahead base x < ahead base y then y else x) := by
  obtain ⟨member, most⟩ := latest
  split
  next later =>
    refine ⟨by simp, fun z within => ?_⟩
    rcases List.mem_append.mp within with old | new
    · exact Nat.le_trans (most z old) (Nat.le_of_lt later)
    · rw [List.mem_singleton.mp new]
  next earlier =>
    refine ⟨List.mem_append_left _ member, fun z within => ?_⟩
    rcases List.mem_append.mp within with old | new
    · exact most z old
    · rw [List.mem_singleton.mp new]
      exact Nat.le_of_not_lt earlier

theorem IsEarliest.snoc (earliest : IsEarliest base xs x) (y : BitVec w) :
    IsEarliest base (xs ++ [y]) (if ahead base y < ahead base x then y else x) := by
  obtain ⟨member, least⟩ := earliest
  split
  next earlier =>
    refine ⟨by simp, fun z within => ?_⟩
    rcases List.mem_append.mp within with old | new
    · exact Nat.le_trans (Nat.le_of_lt earlier) (least z old)
    · rw [List.mem_singleton.mp new]
  next later =>
    refine ⟨List.mem_append_left _ member, fun z within => ?_⟩
    rcases List.mem_append.mp within with old | new
    · exact least z old
    · rw [List.mem_singleton.mp new]
      exact Nat.le_of_not_lt later

theorem IsLatest.unique (first : IsLatest base xs x) (second : IsLatest base xs y) : x = y :=
  ahead_inj (Nat.le_antisymm (second.2 x first.1) (first.2 y second.1))

theorem IsEarliest.unique (first : IsEarliest base xs x) (second : IsEarliest base xs y) : x = y :=
  ahead_inj (Nat.le_antisymm (first.2 y second.1) (second.2 x first.1))

theorem IsLatest.perm (latest : IsLatest base xs x) (order : xs.Perm ys) : IsLatest base ys x :=
  ⟨order.mem_iff.mp latest.1, fun z within => latest.2 z (order.mem_iff.mpr within)⟩

theorem IsEarliest.perm (earliest : IsEarliest base xs x) (order : xs.Perm ys) : IsEarliest base ys x :=
  ⟨order.mem_iff.mp earliest.1, fun z within => earliest.2 z (order.mem_iff.mpr within)⟩

end Extrema
end NetDrv.Serial
