import Mathlib.Algebra.Order.Floor.Ring
import Mathlib.Tactic.Linarith
import Mathlib.Tactic.Positivity
import NetDrv.Ptp.Clock

/-! `ptp/adj_setoffset` adds an offset to the clock and subtracts it again. What is given
to `clock_adjtime()` is whole microseconds with a nonnegative fraction of a second, so
each offset is rounded down and the two need not cancel. -/

namespace NetDrv.Ptp.AdjSetoffset
open Script

structure Timeval where
  tvSec : Int
  tvUsec : Int
  deriving DecidableEq, Repr

def timeOffsetToTimeval (timeOffset : ℚ) : Timeval :=
  let absOffset := |timeOffset|
  let a : ℚ := ⌊absOffset⌋
  let b := absOffset - a
  let (a, b) :=
    if timeOffset < 0 then
      -- `tv_usec` must not be negative
      if 0 < b then (-(a + 1), 1 - b) else (-a, b)
    else (a, b)
  ⟨truncate a, truncate (b * 1000000)⟩

/-- The microseconds that `ADJ_SETOFFSET` adds to a clock. -/
def Timeval.usecs (tv : Timeval) : Int := tv.tvSec * 1000000 + tv.tvUsec

/-- What `clock_adjtime()` has added to the clock so far, in microseconds. -/
structure Clock where
  added : Int
  deriving DecidableEq, Repr

def adjCheckTime (check : Check) (minSleep maxSleep : Nat) (timeOffset : ℚ) (stage : String) :
    Script Jump Clock Unit := do
  let ts1 ← check.clockGettime 0
  let tv := timeOffsetToTimeval timeOffset
  check.clockAdjtime stage tv.usecs (fun clock => { clock with added := clock.added + tv.usecs })
  let ts2 ← check.clockGettime 1
  let tsDiff := timespecDiff ts2 ts1
  when (|tsDiff - timeOffset| > defPtpInacc) (
    if |tsDiff| < defPtpInacc then fail (.verdict (stage ++ ": time did not change noticeably"))
    else fail (.verdict (stage ++ ": time changed in unexpected way")))
  let sleepTime := randRange minSleep maxSleep check.rand
  let ts2 ← check.clockGettime 2
  let tsDiff := timespecDiff ts2 ts1
  let expDiff := timeOffset + sleepTime
  when (|tsDiff - expDiff| > defPtpInacc)
    (fail (.verdict (stage ++ ": after a delay timestamp does not match expectation")))

def main (adding subtracting : Check) (minSleep maxSleep : Nat) (timeOffset : ℚ) : Script Jump Clock Unit := do
  adjCheckTime adding minSleep maxSleep timeOffset "Adding time offset"
  adjCheckTime subtracting minSleep maxSleep (-timeOffset) "Subtracting time offset"

theorem timeval_of_parts {a : Int} {b : ℚ} (low : 0 ≤ b) (high : b < 1) :
    let tv : Timeval := ⟨truncate a, truncate (b * 1000000)⟩
    0 ≤ tv.tvUsec ∧ tv.tvUsec < 1000000 ∧ tv.usecs = ⌊(a + b) * 1000000⌋ := by
  have positive : 0 ≤ b * 1000000 := by positivity
  have below : b * 1000000 < (1000000 : Int) := by push_cast; linarith
  have whole : ((a : ℚ) + b) * 1000000 = b * 1000000 + (a * 1000000 : Int) := by push_cast; ring
  simp only [Timeval.usecs, truncate_intCast, truncate_of_nonneg positive]
  refine ⟨Int.floor_nonneg.2 positive, Int.floor_lt.2 below, ?_⟩
  rw [whole, Int.floor_add_intCast, add_comm]

theorem timeOffsetToTimeval_parts (x : ℚ) :
    ∃ (a : Int) (b : ℚ), 0 ≤ b ∧ b < 1 ∧ x = a + b ∧
      timeOffsetToTimeval x = ⟨truncate a, truncate (b * 1000000)⟩ := by
  have low : (0 : ℚ) ≤ |x| - ⌊|x|⌋ := Int.fract_nonneg |x|
  have high : |x| - (⌊|x|⌋ : ℚ) < 1 := Int.fract_lt_one |x|
  unfold timeOffsetToTimeval
  by_cases negative : x < 0
  · have opposite : |x| = -x := abs_of_neg negative
    by_cases fraction : 0 < |x| - (⌊|x|⌋ : ℚ)
    · -- a second is borrowed for the fraction
      refine ⟨-(⌊|x|⌋ + 1), 1 - (|x| - ⌊|x|⌋), by linarith, by linarith, ?_, ?_⟩
      · push_cast
        linarith
      · simp only [negative, fraction, if_true]
        push_cast
        rfl
    · refine ⟨-⌊|x|⌋, |x| - ⌊|x|⌋, low, high, ?_, ?_⟩
      · push_cast
        linarith
      · simp only [negative, fraction, if_true, if_false]
        push_cast
        rfl
  · refine ⟨⌊|x|⌋, |x| - ⌊|x|⌋, low, high, ?_, ?_⟩
    · rw [abs_of_nonneg (not_lt.1 negative)]
      ring
    · simp only [negative, if_false]

theorem timeOffsetToTimeval_usecs (x : ℚ) :
    0 ≤ (timeOffsetToTimeval x).tvUsec ∧ (timeOffsetToTimeval x).tvUsec < 1000000 ∧
      (timeOffsetToTimeval x).usecs = ⌊x * 1000000⌋ := by
  obtain ⟨a, b, low, high, sum, parts⟩ := timeOffsetToTimeval_parts x
  rw [parts, sum]
  exact timeval_of_parts low high

theorem floor_add_floor_neg {y : ℚ} (broken : ¬∃ n : Int, y = n) : ⌊y⌋ + ⌊-y⌋ = -1 := by
  have up : ⌈y⌉ = ⌊y⌋ + 1 := by
    rw [Int.ceil_eq_floor_add_one_iff_notMem]
    intro ⟨n, whole⟩
    exact broken ⟨n, whole.symm⟩
  rw [Int.floor_neg, up]
  omega

theorem adjCheckTime_wp (check : Check) (minSleep maxSleep : Nat) (timeOffset : ℚ) (stage : String) (clock : Clock) :
    (adjCheckTime check minSleep maxSleep timeOffset stage).wp
      (fun _ after => after.added = clock.added + (timeOffsetToTimeval timeOffset).usecs) (fun _ _ => True) clock := by
  unfold adjCheckTime
  rw [wp_bind]
  apply wp_clockGettime 0 _ (fun _ => trivial)
  intro ts1 _
  rw [wp_bind]
  apply wp_clockAdjtime _ (fun _ => trivial)
  rw [wp_bind]
  apply wp_clockGettime 1 _ (fun _ => trivial)
  intro ts2 _
  rw [wp_bind]
  apply wp_when
  · intro _
    split <;> trivial
  · intro _
    rw [wp_bind]
    apply wp_clockGettime 2 _ (fun _ => trivial)
    intro ts3 _
    apply wp_when
    · intro _
      trivial
    · intro _
      rfl

theorem main_wp (adding subtracting : Check) (minSleep maxSleep : Nat) (timeOffset : ℚ) (clock : Clock) :
    (main adding subtracting minSleep maxSleep timeOffset).wp
      (fun _ after => after.added = clock.added +
        ((timeOffsetToTimeval timeOffset).usecs + (timeOffsetToTimeval (-timeOffset)).usecs)) (fun _ _ => True) clock := by
  unfold main
  apply wp_seq (adjCheckTime_wp adding minSleep maxSleep timeOffset _ clock)
  · intro _ after first
    apply wp_weaken (adjCheckTime_wp subtracting minSleep maxSleep (-timeOffset) _ after)
    intro _ final second
    rw [second, first]
    omega
  · intro _ _ _
    trivial

/-- The timeval of every offset, and what is left of an offset after it was subtracted again. -/
theorem timeOffsetToTimeval_spec :
    (∀ x : ℚ, 0 ≤ (timeOffsetToTimeval x).tvUsec ∧ (timeOffsetToTimeval x).tvUsec < 1000000 ∧
      (timeOffsetToTimeval x).tvSec * 1000000 + (timeOffsetToTimeval x).tvUsec = ⌊x * 1000000⌋) ∧
    (∀ x y : ℚ, x ≤ y → (timeOffsetToTimeval x).usecs ≤ (timeOffsetToTimeval y).usecs) ∧
    ∀ (x : ℚ) (adding subtracting : Check) (minSleep maxSleep : Nat) (clock after : Clock),
      main adding subtracting minSleep maxSleep x clock = (.ok (), after) →
      ((∃ n : Int, x * 1000000 = n) → after.added - clock.added = 0) ∧
      ((¬∃ n : Int, x * 1000000 = n) → after.added - clock.added = -1) := by
  refine ⟨timeOffsetToTimeval_usecs, ?_, ?_⟩
  · intro x y le
    rw [(timeOffsetToTimeval_usecs x).2.2, (timeOffsetToTimeval_usecs y).2.2]
    apply Int.floor_le_floor
    linarith
  · intro x adding subtracting minSleep maxSleep clock after run
    have total := wp_ok (main_wp adding subtracting minSleep maxSleep x clock) run
    rw [(timeOffsetToTimeval_usecs x).2.2, (timeOffsetToTimeval_usecs (-x)).2.2, neg_mul] at total
    constructor
    · intro ⟨n, whole⟩
      rw [whole, Int.floor_neg, Int.floor_intCast, Int.ceil_intCast] at total
      omega
    · intro broken
      rw [floor_add_floor_neg broken] at total
      omega

/-- A clock that shows three seconds more after three seconds of sleep. -/
def threeSeconds : Check where
  gettime := fun n => some ⟨if n = 2 then 3 else 0, 0⟩
  adjtime := fun _ => none
  rand := 0

/-- Half a microsecond is added as nothing and subtracted as a whole one. -/
theorem main_half_microsecond :
    ∃ after, main threeSeconds threeSeconds 3 6 (1 / 2000000) ⟨0⟩ = (.ok (), after) ∧ after.added - 0 = -1 := by
  have run : main threeSeconds threeSeconds 3 6 (1 / 2000000) ⟨0⟩ = (.ok (), ⟨-1⟩) := by decide +kernel
  refine ⟨⟨-1⟩, run, (timeOffsetToTimeval_spec.2.2 (1 / 2000000) threeSeconds threeSeconds 3 6 ⟨0⟩ ⟨-1⟩ run).2 ?_⟩
  intro ⟨n, whole⟩
  have twice : (1 : ℚ) = (2 * n : Int) := by push_cast; linarith
  have odd : (1 : Int) = 2 * n := by exact_mod_cast twice
  omega

end NetDrv.Ptp.AdjSetoffset
