import Mathlib.Algebra.Order.Ring.Rat
import Mathlib.Data.Rat.Floor
import NetDrv.Lib.Script
import NetDrv.Te

/-! What the PTP tests share. A `double` is an exact rational number here; it becomes an
integer as C converts it, by dropping the fraction. A clock is read with
`clock_gettime()` and adjusted with `clock_adjtime()`; what the readings are is left
open, so that a test can end in every way its checks allow. -/

namespace NetDrv.Ptp
open Script

/-- Conversion of a `double` to an integer. -/
def truncate (x : ℚ) : Int := if 0 ≤ x then ⌊x⌋ else ⌈x⌉

theorem truncate_of_nonneg {x : ℚ} (nonneg : 0 ≤ x) : truncate x = ⌊x⌋ := if_pos nonneg

theorem truncate_intCast (n : Int) : truncate n = n := by
  unfold truncate
  split
  · exact Int.floor_intCast n
  · exact Int.ceil_intCast n

structure Timespec where
  tvSec : Int
  tvNsec : Int
  deriving DecidableEq, Repr

def timespecDiff (tsa tsb : Timespec) : ℚ := (tsa.tvSec - tsb.tvSec : Int) + (tsa.tvNsec - tsb.tvNsec : Int) / 1000000000

def defPtpInacc : ℚ := 1 / 10

/-- What a check of the clock gets from it and from chance. -/
structure Check where
  /-- The reading that call number `n` of `clock_gettime()` gives, if it succeeds. -/
  gettime : Nat → Option Timespec
  /-- The error of `clock_adjtime()` for a number asked for, if it fails. -/
  adjtime : Int → Option String
  /-- The number behind the time to sleep. -/
  rand : Nat

/-- `rpc_clock_gettime()`; the test does not go on after a failure. -/
def Check.clockGettime {σ : Type} (check : Check) (n : Nat) : Script Jump σ Timespec :=
  match check.gettime n with
  | some ts => pure ts
  | none => fail .stop

/-- `clock_adjtime()` and the check of its result; `change` is what it does to the clock. -/
def Check.clockAdjtime {σ : Type} (check : Check) (stage : String) (number : Int) (change : σ → σ) :
    Script Jump σ Unit :=
  match check.adjtime number with
  | some err => fail (.verdict (stage ++ ": clock_adjtime() failed unexpectedly with error " ++ err))
  | none => update change

section
variable {σ : Type} {check : Check} {failed : Jump → σ → Prop} {s : σ}

theorem wp_clockGettime {done : Timespec → σ → Prop} (n : Nat) (regular : ∀ ts, check.gettime n = some ts → done ts s)
    (failure : ∀ jump, failed jump s) : (check.clockGettime n).wp done failed s := by
  unfold Check.clockGettime
  split
  next ts read => exact regular ts read
  next => exact failure .stop

theorem wp_clockAdjtime {done : Unit → σ → Prop} {stage : String} {number : Int} {change : σ → σ}
    (regular : done () (change s)) (failure : ∀ jump, failed jump s) :
    (check.clockAdjtime stage number change).wp done failed s := by
  unfold Check.clockAdjtime
  split
  · exact failure _
  · exact regular

end
end NetDrv.Ptp
