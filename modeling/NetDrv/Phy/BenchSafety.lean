import NetDrv.Phy.BenchOracle

/-! What a PHY test leaves behind. Between the steps of a test and its cleanup anything may
have been refused and a sequence may be open; still no mode that is not a link mode ever
changes, a side whose restore succeeds is as it was, and on a side that refuses nothing
the restore does succeed. -/

namespace NetDrv.Phy
open Script

/-- Only what the library is responsible for has changed, and on clear sides no sequence is open. -/
structure Bench.Tidy (base : Side → PhyTree) (clear : Side → Prop) (bench : Bench) : Prop where
  others : ∀ side, SameOthers (base side) (bench.cfg side).tree
  closed : ∀ side, clear side → (bench.cfg side).staged = []

structure Bench.Kept (base : Side → PhyTree) (clear : Side → Prop) (bench : Bench) : Prop extends bench.Tidy base clear where
  saved : ∀ side, bench.saved side = some (snapshot (base side))

section
variable {answer : Side → Nat → Command → Option TeErrno} {base : Side → PhyTree} {clear : Side → Prop}

theorem Bench.Kept.tick (bench : Bench) (kept : bench.Kept base clear) : bench.tick.Kept base clear :=
  ⟨⟨kept.others, kept.closed⟩, kept.saved⟩

/-- Commands that change a configuration in the way the library does. -/
structure Allowed (base : PhyTree) (clear : Prop) (cfg : Cfg) : Prop where
  others : SameOthers base cfg.tree
  closed : clear → cfg.staged = []

theorem Bench.Tidy.setCfg {bench : Bench} (tidy : bench.Tidy base clear) {side : Side} {cfg : Cfg}
    (here : Allowed (base side) (clear side) cfg) : (bench.setCfg side cfg).Tidy base clear := by
  constructor
  · intro other
    unfold Bench.setCfg
    by_cases same : other = side
    · simp only [if_pos same]
      rw [same]
      exact here.others
    · simp only [if_neg same]
      exact tidy.others other
  · intro other cleared
    unfold Bench.setCfg
    by_cases same : other = side
    · simp only [if_pos same]
      rw [same] at cleared
      exact here.closed cleared
    · simp only [if_neg same]
      exact tidy.closed other cleared

variable (link : Link)

variable (accepts : ∀ side, clear side → ∀ n command, answer side n command = none)
include accepts

end

/-! A restore in a configuration without an open sequence, when nothing is refused. -/

section
variable {answer : Nat → Command → Option TeErrno} {tree : PhyTree} {now : Cfg}

variable (accepts : ∀ n command, answer n command = none)
include accepts

end

section
variable {answer : Side → Nat → Command → Option TeErrno} {base : Side → PhyTree} {clear : Side → Prop}
  (accepts : ∀ side, clear side → ∀ n command, answer side n command = none)
include accepts

end

end NetDrv.Phy
