import NetDrv.Ptp.Sfptpd
import Mathlib.Algebra.BigOperators.Group.List.Basic
import Mathlib.Data.List.Forall2

/-! When `ptp/sfptpd` passes. What a state file says is decided by its first `in-sync:`
behind a white space; both files have to say so in one and the same round; and the sum of
the statistics tells whether one of them went up as long as none went down. -/

namespace NetDrv.Sfptpd
open Script
open Phy (isSpace digitsValue)

section Text
variable {c : Char} {text rest before after : List Char}

end Text

section Waiting
variable {state : Nat → StateFile → StateRead}

end Waiting

def isPtpStat (stat : String × String) : Bool := "ptp_".toList.isPrefixOf stat.1.toList

/-- The values of the `ptp_` statistics, in their order. -/
def PtpValues (strtoul : String → Except TeErrno UInt64) (stats : List (String × String)) (values : List UInt64) : Prop :=
  List.Forall₂ (fun stat value => strtoul stat.2 = .ok value) (stats.filter isPtpStat) values

/-- The sum in a `long unsigned int`. -/
def total (values : List UInt64) : UInt64 := values.foldl (· + ·) 0

section Sums
variable {strtoul : String → Except TeErrno UInt64}

theorem sumStats_ok_iff (stats : List (String × String)) (start sum : UInt64) :
    sumStats strtoul stats start = .ok sum ↔ ∃ values, PtpValues strtoul stats values ∧ sum = values.foldl (· + ·) start := by
  induction stats generalizing start with
  | nil =>
    constructor
    · intro same
      exact ⟨[], .nil, (Except.ok.inj same).symm⟩
    · rintro ⟨values, none, rfl⟩
      cases none
      rfl
  | cons stat stats ih =>
    obtain ⟨key, value⟩ := stat
    unfold sumStats PtpValues
    split
    next ptp =>
      have kept : isPtpStat (key, value) = true := ptp
      rw [List.filter_cons_of_pos kept]
      cases read : strtoul value with
      | error rc =>
        simp only [reduceCtorEq, false_iff, not_exists]
        rintro values ⟨forall₂, -⟩
        cases forall₂ with
        | cons first _ => exact absurd (read.symm.trans first) (by simp)
      | ok val =>
        simp only
        rw [ih]
        constructor
        · rintro ⟨values, parsed, rfl⟩
          exact ⟨val :: values, .cons read parsed, rfl⟩
        · rintro ⟨values, parsed, rfl⟩
          cases parsed with
          | cons first rest =>
            obtain rfl := Except.ok.inj (read.symm.trans first)
            exact ⟨_, rest, rfl⟩
    next other =>
      have dropped : ¬isPtpStat (key, value) = true := other
      rw [List.filter_cons_of_neg dropped, ih]
      rfl

theorem foldl_add_toNat (values : List UInt64) (start : UInt64)
    (bound : start.toNat + (values.map UInt64.toNat).sum < 2 ^ 64) :
    (values.foldl (· + ·) start).toNat = start.toNat + (values.map UInt64.toNat).sum := by
  induction values generalizing start with
  | nil => rfl
  | cons value values ih =>
    rw [List.map_cons, List.sum_cons] at bound ⊢
    have here : (start + value).toNat = start.toNat + value.toNat := by
      rw [UInt64.toNat_add, Nat.mod_eq_of_lt (by omega)]
    rw [List.foldl_cons, ih (start + value) (by omega), here]
    omega

end Sums

/-! A verdict stays: the test ends with none if and only if every step of it ends where it began. -/

section Steps

theorem keeps_errorVerdict (message : String) : (errorVerdict message).Keeps (fun w => w ≠ .start) := by
  intro w _ clean
  exact absurd (congrArg World.verdicts clean) (by simp [errorVerdict, update, World.start])

theorem keeps_checkRc (rc : Option TeErrno) : (checkRc rc).Keeps (fun w => w ≠ .start) := by
  intro w spoilt
  cases rc <;> exact spoilt

theorem keeps_called (jump : Option Jump) : (called jump).Keeps (fun w => w ≠ .start) := by
  intro w spoilt
  cases jump <;> exact spoilt

theorem keeps_getPtpStatsSum (strtoul : String → Except TeErrno UInt64) (ethtool : EthtoolRun) (stage : String) :
    (getPtpStatsSum strtoul ethtool stage).Keeps (fun w => w ≠ .start) := by
  unfold getPtpStatsSum
  split
  · exact keeps_bind (keeps_errorVerdict _) (fun _ => keeps_pure _)
  · exact keeps_bind (keeps_when (keeps_errorVerdict _)) (fun _ => keeps_bind (keeps_ofExcept _) (fun _ => keeps_pure _))

theorem keeps_compareStats (before after : Int) : (compareStats before after).Keeps (fun w => w ≠ .start) :=
  keeps_when (keeps_errorVerdict _)

theorem when_errorVerdict_iff (condition : Bool) (message : String) :
    when condition (errorVerdict message) .start = (.ok (), .start) ↔ condition = false := by
  cases condition with
  | false => exact iff_of_true rfl rfl
  | true => simp [when, errorVerdict, update, World.start]

theorem ofExcept_iff {α : Type} (answer : Except Jump α) (a : α) :
    ofExcept answer World.start = (.ok a, .start) ↔ answer = .ok a := by
  cases answer <;> simp [Script.ofExcept, fail, pure]

/-- What `config_sfptpd()` needs to succeed. -/
def Config.Granted (config : Config) : Prop :=
  (∃ path, config.path = some path ∧ path ≠ "") ∧ ∀ i < 6, config.rc i = none

/-- `ethtool -S` ran without a complaint and its `ptp_` statistics have these values. -/
structure EthtoolRun.Reports (ethtool : EthtoolRun) (strtoul : String → Except TeErrno UInt64) (values : List UInt64) :
    Prop where
  ran : ethtool.rc = none
  quiet : ethtool.errOut = false
  parsed : PtpValues strtoul ethtool.stats values

theorem getPtpStatsSum_iff (strtoul : String → Except TeErrno UInt64) (ethtool : EthtoolRun) (stage : String) (sum : Int) :
    getPtpStatsSum strtoul ethtool stage .start = (.ok sum, .start) ↔
      ∃ values, ethtool.Reports strtoul values ∧ sum = signed (total values) := by
  unfold getPtpStatsSum
  cases ran : ethtool.rc with
  | some rc =>
    refine iff_of_false (by simp [bind, errorVerdict, update, pure, World.start]) ?_
    rintro ⟨_, reports, -⟩
    exact absurd (ran.symm.trans reports.ran) (by simp)
  | none =>
    dsimp only
    rw [seq_unchanged_iff (keeps_bind (keeps_ofExcept _) (fun _ => keeps_pure _)), when_errorVerdict_iff,
      bind_unchanged_iff (fun _ => keeps_pure _)]
    constructor
    · rintro ⟨quiet, b, summed, same⟩
      obtain ⟨values, parsed, rfl⟩ := (sumStats_ok_iff _ _ _).mp ((ofExcept_iff _ _).mp summed)
      exact ⟨values, ⟨ran, quiet, parsed⟩, (Except.ok.inj (congrArg Prod.fst same)).symm⟩
    · rintro ⟨values, reports, rfl⟩
      refine ⟨reports.quiet, total values, (ofExcept_iff _ _).mpr ?_, rfl⟩
      exact (sumStats_ok_iff _ _ _).mpr ⟨values, reports.parsed, rfl⟩

end Steps

section Test
variable (bench : Bench)

/-- Nothing that the test needs before it waits is refused. -/
structure Bench.Granted : Prop where
  device : (∃ index, bench.tsInfo = .ok index ∧ 0 ≤ index) ∧ bench.openDevice = none ∧ bench.closeDevice = none
  factory : bench.factory = none
  config : ∀ host, (bench.config host).Granted
  ntpdDisable : ∀ host, bench.ntpdDisable host = none
  sfptpdEnable : ∀ host, bench.sfptpdEnable host = none

theorem judge_iff (sum : Int) (ptpInSync systemInSync : Bool) :
    judge bench sum ptpInSync systemInSync .start = (.ok (), .start) ↔
      (ptpInSync = true ∧ systemInSync = true) ∧ ∃ values, bench.after.Reports bench.strtoul values ∧
        ((sum < 0 ∨ signed (total values) < 0) ∨ sum < signed (total values)) := by
  have compared : ∀ after : Int, (do
      compareStats sum after
      when (!systemInSync || !ptpInSync) (fail .stop)).Keeps (fun w => w ≠ World.start) :=
    fun after => keeps_bind (keeps_compareStats _ _) (fun _ => keeps_when_fail _ _)
  have counted := keeps_bind (keeps_getPtpStatsSum bench.strtoul bench.after "After running sfptpd") compared
  have fits : ∀ after : Int, (do
      compareStats sum after
      when (!systemInSync || !ptpInSync) (fail .stop)) World.start = (.ok (), .start) ↔
        ((sum < 0 ∨ after < 0) ∨ sum < after) ∧ (ptpInSync = true ∧ systemInSync = true) := by
    intro after
    rw [seq_unchanged_iff (keeps_when_fail _ _), compareStats, when_errorVerdict_iff]
    refine and_congr ?_ ?_
    · simp only [Bool.and_eq_false_iff, decide_eq_false_iff_not]
      omega
    · cases ptpInSync <;> cases systemInSync <;> simp [when, fail, pure]
  unfold judge
  rw [seq_unchanged_iff (keeps_bind (keeps_when (keeps_errorVerdict _)) (fun _ => counted)), seq_unchanged_iff counted,
    bind_unchanged_iff compared, when_errorVerdict_iff, when_errorVerdict_iff]
  constructor
  · rintro ⟨-, -, after, summed, rest⟩
    obtain ⟨values, reports, rfl⟩ := (getPtpStatsSum_iff _ _ _ _).mp summed
    exact ⟨((fits _).mp rest).2, values, reports, ((fits _).mp rest).1⟩
  · rintro ⟨⟨rfl, rfl⟩, values, reports, raised⟩
    exact ⟨rfl, rfl, _, (getPtpStatsSum_iff _ _ _ _).mpr ⟨values, reports, rfl⟩, (fits _).mpr ⟨raised, rfl, rfl⟩⟩

end Test

end NetDrv.Sfptpd
