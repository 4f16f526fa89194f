import NetDrv.Phy.Restore

/-! Whether a call ever meets a local command sequence that an earlier call left open.
Each operation returns at the first set that is refused, without the commit that would
close the sequence, so everything depends on refused sets coming first in their call. -/

namespace NetDrv.Phy
open Script

/-- No GET was issued while a local command sequence was open. -/
def Cfg.Disciplined (cfg : Cfg) : Prop := ∀ command ∈ cfg.log, ∀ field, command ≠ .get field true

section
variable (answer : Nat → Command → Option TeErrno) (state : SavedState)

/-- Calls made one after another whether they succeed or not, as a test and its cleanup do. -/
def runCalls (calls : List Call) : PhyScript Unit :=
  forEach calls (fun call => ignore (call.run answer state))

/-- Unless the first set of the call is refused, none of them is. -/
def Orderly (cfg : Cfg) (call : Call) : Prop :=
  ∀ first ∈ (call.settings state cfg.tree).head?, answer (cfg.calls + 1) (.set first) = none →
    ∀ setting ∈ (call.settings state cfg.tree).tail, answer (cfg.calls + 1) (.set setting) = none

instance (cfg : Cfg) (call : Call) : Decidable (Orderly answer state cfg call) :=
  inferInstanceAs (Decidable (∀ first ∈ (call.settings state cfg.tree).head?, _ → ∀ setting ∈ _, _))

/-- Every call of the run is orderly in the configuration it starts from. -/
def OrderlyRun : List Call → Cfg → Prop
  | [], _ => True
  | call :: calls, cfg => Orderly answer state cfg call ∧ OrderlyRun calls (call.run answer state cfg).2

end

section
variable {answer : Nat → Command → Option TeErrno} {state : SavedState}

theorem Traced.disciplined {before now : Cfg} {settings : List Setting} (traced : Traced before settings now)
    (disciplined : before.Disciplined) : now.Disciplined := by
  obtain ⟨commands, log, quiet, -⟩ := traced.log
  unfold Cfg.Disciplined
  rw [log]
  exact List.forall_mem_append.mpr ⟨disciplined, quiet⟩

theorem Stopped.closed {cfg now : Cfg} {call : Call}
    (stopped : Stopped answer cfg.entered (call.settings state cfg.tree) now)
    (orderly : Orderly answer state cfg call) : now.staged = [] := by
  rcases stopped.staged with closed | ⟨refused, after, whole, refusal, accepted⟩
  · exact closed
  · cases staged : now.staged with
    | nil => rfl
    | cons first rest =>
      rw [staged] at whole accepted
      have rest := orderly first (by simp [whole]) (accepted first (by simp))
      exact absurd (rest refused (by simp [whole])) refusal

theorem orderly_step {cfg : Cfg} {call : Call} (closed : cfg.staged = []) (disciplined : cfg.Disciplined)
    (orderly : Orderly answer state cfg call) :
    (call.run answer state cfg).2.staged = [] ∧ (call.run answer state cfg).2.Disciplined := by
  have spec := Call.run_wp answer closed state call
  have entered : cfg.entered.Disciplined := disciplined
  unfold Script.wp at spec
  split at spec
  · next run =>
    rw [run]
    exact ⟨spec.staged, spec.traced.disciplined entered⟩
  · next run =>
    rw [run]
    exact ⟨spec.closed orderly, spec.traced.disciplined entered⟩

theorem runCalls_cons (call : Call) (calls : List Call) (cfg : Cfg) :
    runCalls answer state (call :: calls) cfg = runCalls answer state calls (call.run answer state cfg).2 := rfl

theorem OrderlyRun.of_append {before after : List Call} {cfg : Cfg}
    (orderly : OrderlyRun answer state (before ++ after) cfg) : OrderlyRun answer state before cfg := by
  induction before generalizing cfg with
  | nil => trivial
  | cons call before ih => exact ⟨orderly.1, ih orderly.2⟩

theorem orderlyRun_disciplined {calls : List Call} (cfg : Cfg) (closed : cfg.staged = [])
    (disciplined : cfg.Disciplined) (orderly : OrderlyRun answer state calls cfg) :
    (runCalls answer state calls cfg).2.staged = [] ∧ (runCalls answer state calls cfg).2.Disciplined := by
  induction calls generalizing cfg with
  | nil => exact ⟨closed, disciplined⟩
  | cons call calls ih =>
    obtain ⟨closed, disciplined⟩ := orderly_step closed disciplined orderly.1
    rw [runCalls_cons]
    exact ih _ closed disciplined orderly.2

theorem open_sequence_defeats {cfg : Cfg} (opened : cfg.opened = true) (call : Call)
    (synced : answer (cfg.calls + 1) .sync = none) :
    (call.run answer state cfg).1 = .error (teRc .cs .eacces) := by
  have get : ∀ now : Cfg, now.opened = true →
      autonegGet answer now = (.error (teRc .cs .eacces), now.record (.get .autoneg true)) := by
    intro now opened
    simp only [autonegGet, cfgGet, opened, if_true]
  have enter : enterCall cfg = (.ok (), cfg.entered) := rfl
  have first := get cfg.entered opened
  cases call with
  | autonegModes mode1Name mode2Name =>
    simp only [Call.run, applyAutonegModes]
    rw [bind_ok enter, bind_error first]
  | fixedMode speed duplex =>
    simp only [Call.run, applyFixedMode]
    rw [bind_ok enter, bind_error first]
  | restore =>
    have sync : syncTree answer cfg.entered = (.ok (), cfg.entered.record .sync) := by
      simp only [syncTree, cfgRead, Cfg.entered, synced]
    simp only [Call.run, stateRestore]
    rw [bind_ok enter, bind_ok sync, bind_error (get (cfg.entered.record .sync) opened)]

end

/-- In every run in which a refused set is the first one of its call, no sequence is ever left open
behind a call and so no call, a restore in a cleanup included, issues a GET in one. -/
theorem local_sequence_discipline (answer : Nat → Command → Option TeErrno) (state : SavedState)
    (tree : PhyTree) (calls : List Call) (orderly : OrderlyRun answer state calls ⟨tree, [], 0, []⟩) :
    ∀ before after, calls = before ++ after →
      (runCalls answer state before ⟨tree, [], 0, []⟩).2.opened = false ∧
      ∀ command ∈ (runCalls answer state before ⟨tree, [], 0, []⟩).2.log, ∀ field,
        command ≠ .get field true := by
  intro before after whole
  subst whole
  obtain ⟨closed, disciplined⟩ := orderlyRun_disciplined ⟨tree, [], 0, []⟩ rfl
    (by simp [Cfg.Disciplined]) orderly.of_append
  exact ⟨by simp [Cfg.opened, closed], disciplined⟩

/-- A driver that does not accept 100 Mbit/s as a fixed speed. -/
def refusesSpeed : Nat → Command → Option TeErrno
  | _, .set (.speedAdmin _) => some (teRc .taUnix .einval)
  | _, _ => none

/-- The fixed mode is refused between two sets, and the restore of the cleanup is locked out. -/
theorem local_sequence_left_open :
    let applied := applyFixedMode refusesSpeed (.mbps 100) .full gigabit
    applied.1 = .error (teRc .taUnix .einval) ∧ applied.2.opened = true ∧
      (stateRestore refusesSpeed (snapshot gigabit.tree) applied.2).1 = .error (teRc .cs .eacces) ∧
      .get .autoneg true ∈ (runCalls refusesSpeed (snapshot gigabit.tree)
        [.fixedMode (.mbps 100) .full, .restore] gigabit).2.log := by
  decide

/-- The driver may refuse the first set of a call: here there is only one. -/
theorem local_sequence_discipline_refused_first :
    let refuses : Nat → Command → Option TeErrno := fun n command =>
      if n = 1 ∧ command = .set (.autoneg .off) then some (teRc .taUnix .einval) else none
    (runCalls refuses (snapshot gigabit.tree) [.fixedMode .unknown .unknown, .restore] gigabit).2.opened = false := by
  intro refuses
  exact (local_sequence_discipline refuses (snapshot gigabit.tree) gigabit.tree
    [.fixedMode .unknown .unknown, .restore] ⟨by decide, by decide, trivial⟩ _ [] (by simp)).1

end NetDrv.Phy
