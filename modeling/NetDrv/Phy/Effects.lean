import NetDrv.Phy.Ops

/-! What a library call amounts to: it reads the committed configuration, decides on a
list of settings, stages them one by one and commits. `Call.settings` is that list,
as a function of the configuration alone; the three operations are proved to do
exactly that, and to stop in between only at a set that is refused. -/

namespace NetDrv.Phy
open Script

def advertisedDiff (state : SavedState) (wanted : ModeInfo → Bool) (tree : PhyTree) : Bool :=
  state.linkModes.any (fun mode => tree.advertised mode.name != wanted mode)

def fixedModeDiff (state : SavedState) (tree : PhyTree) : Bool :=
  state.autoneg == .off && (tree.speedAdmin != state.speedAdmin || tree.duplexAdmin != state.duplexAdmin)

def advertiseSettings (state : SavedState) (wanted : ModeInfo → Bool) : List Setting :=
  state.linkModes.map (fun mode => .modeAdv mode.name (wanted mode))

def restoreSettings (state : SavedState) : List Setting :=
  .autoneg state.autoneg ::
    ((if state.autoneg = .off then [.speedAdmin state.speedAdmin, .duplexAdmin state.duplexAdmin] else []) ++
      advertiseSettings state ModeInfo.advertised)

/-- The settings a call applies to a configuration. -/
def Call.settings (state : SavedState) (tree : PhyTree) : Call → List Setting
  | .autonegModes mode1Name mode2Name =>
    if tree.autoneg != .on || advertisedDiff state (shouldAdvertise mode1Name mode2Name) tree then
      advertiseSettings state (shouldAdvertise mode1Name mode2Name) ++ [.autoneg .on]
    else []
  | .fixedMode speed duplex =>
    (if tree.autoneg != .off then [.autoneg .off] else []) ++
      ((if tree.speedAdmin != speed then [.speedAdmin speed] else []) ++
        (if tree.duplexAdmin != duplex then [.duplexAdmin duplex] else []))
  | .restore =>
    if fixedModeDiff state tree || tree.autoneg != state.autoneg ||
        advertisedDiff state ModeInfo.advertised tree then
      restoreSettings state
    else []

/-- Commands issued on the way from `before` to `now`: no GET meets an open sequence, and without
settings nothing is written. -/
structure Traced (before : Cfg) (settings : List Setting) (now : Cfg) : Prop where
  calls : now.calls = before.calls
  log : ∃ commands, now.log = before.log ++ commands ∧
    (∀ command ∈ commands, ∀ field, command ≠ .get field true) ∧
    (settings = [] → ∀ command ∈ commands, command.reads = true)

structure Finished (before : Cfg) (settings : List Setting) (now : Cfg) : Prop where
  traced : Traced before settings now
  tree : now.tree = before.tree.applyAll settings
  staged : now.staged = []

/-- A failed call changed nothing, and it left the sequence open only if a set was refused after
others had been accepted. -/
structure Stopped (answer : Nat → Command → Option TeErrno) (before : Cfg) (settings : List Setting)
    (now : Cfg) : Prop where
  traced : Traced before settings now
  tree : now.tree = before.tree
  staged : now.staged = [] ∨ ∃ refused after, settings = now.staged ++ refused :: after ∧
    answer before.calls (.set refused) ≠ none ∧
    ∀ setting ∈ now.staged, answer before.calls (.set setting) = none

theorem Reads.traced {before now : Cfg} (reads : Reads before now) (settings : List Setting) :
    Traced before settings now := by
  obtain ⟨commands, log, each⟩ := reads.log
  exact ⟨reads.calls, commands, log, fun command member => (each command member).2,
    fun _ command member => (each command member).1⟩

theorem Reads.finished {before now : Cfg} (reads : Reads before now) (closed : before.staged = []) :
    Finished before [] now :=
  ⟨reads.traced [], reads.tree, reads.staged.trans closed⟩

theorem Reads.stopped {answer : Nat → Command → Option TeErrno} {before now : Cfg} (reads : Reads before now)
    (closed : before.staged = []) (settings : List Setting) : Stopped answer before settings now :=
  ⟨reads.traced settings, reads.tree, .inl (reads.staged.trans closed)⟩

theorem Traced.record {before now : Cfg} {settings : List Setting} (traced : Traced before settings now)
    (nonempty : settings ≠ []) (command : Command) (allowed : ∀ field, command ≠ .get field true) :
    Traced before settings (now.record command) := by
  obtain ⟨commands, log, quiet, _⟩ := traced.log
  refine ⟨traced.calls, commands ++ [command], by simp [log], ?_, fun empty => absurd empty nonempty⟩
  simp only [List.forall_mem_append, List.forall_mem_singleton]
  exact ⟨quiet, allowed⟩

theorem Traced.of_fields {before now now' : Cfg} {settings : List Setting}
    (traced : Traced before settings now) (calls : now'.calls = now.calls) (log : now'.log = now.log) :
    Traced before settings now' := by
  obtain ⟨commands, same, rest⟩ := traced.log
  exact ⟨calls.trans traced.calls, commands, log.trans same, rest⟩

section
variable (answer : Nat → Command → Option TeErrno)

def commitAll (settings : List Setting) : PhyScript Unit := do
  forEach settings (cfgSet answer)
  phyCommit answer

/-- Some of the settings are staged, all of them accepted. -/
structure Staging (before : Cfg) (settings accepted : List Setting) (now : Cfg) : Prop where
  traced : Traced before settings now
  tree : now.tree = before.tree
  staged : now.staged = accepted
  accepts : ∀ setting ∈ accepted, answer before.calls (.set setting) = none

end

section
variable {answer : Nat → Command → Option TeErrno} {before now : Cfg} {settings : List Setting}

theorem cfgSet_wp (nonempty : settings ≠ []) {accepted after : List Setting} {setting : Setting}
    (whole : settings = accepted ++ setting :: after)
    (staging : Staging answer before settings accepted now) :
    (cfgSet answer setting).wp (fun _ => Staging answer before settings (accepted ++ [setting]))
      (fun _ => Stopped answer before settings) now := by
  have traced := staging.traced.record nonempty (.set setting) (by simp)
  unfold Script.wp cfgSet
  rw [staging.traced.calls]
  cases reply : answer before.calls (.set setting) with
  | some rc =>
    refine ⟨traced, staging.tree, .inr ⟨setting, after, ?_, ?_, ?_⟩⟩
    · simp [staging.staged, whole]
    · simp [reply]
    · simpa [staging.staged] using staging.accepts
  | none =>
    refine ⟨traced.of_fields rfl rfl, staging.tree, by simp [staging.staged], ?_⟩
    simp only [List.forall_mem_append, List.forall_mem_singleton]
    exact ⟨staging.accepts, reply⟩

theorem phyCommit_wp (nonempty : settings ≠ []) (staging : Staging answer before settings settings now) :
    (phyCommit answer).wp (fun _ => Finished before settings) (fun _ => Stopped answer before settings)
      now := by
  have traced := staging.traced.record nonempty .commit (by simp)
  unfold Script.wp phyCommit
  cases answer now.calls .commit with
  | some rc => exact ⟨traced.of_fields rfl rfl, staging.tree, .inl rfl⟩
  | none => exact ⟨traced.of_fields rfl rfl, by simp [staging.tree, staging.staged], rfl⟩

theorem commitAll_wp (closed : before.staged = []) (reads : Reads before now) (nonempty : settings ≠ []) :
    (commitAll answer settings).wp (fun _ => Finished before settings)
      (fun _ => Stopped answer before settings) now := by
  have initial : Staging answer before settings [] now :=
    ⟨reads.traced settings, reads.tree, reads.staged.trans closed, by simp⟩
  refine wp_seq (wp_forEach (Staging answer before settings) settings ?_ initial) ?_ (fun _ _ stop => stop)
  · intro accepted setting after t whole staging
    exact cfgSet_wp nonempty whole staging
  · intro _ t staging
    exact phyCommit_wp nonempty staging

theorem wp_read {α β : Type} {read : PhyScript α} {rest : α → PhyScript β} {value : α} {done : β → Cfg → Prop}
    {failed : TeErrno → Cfg → Prop}
    (reading : read.wp (fun found after => found = value ∧ Reads before after) (fun _ after => Reads before after) now)
    (stop : ∀ rc after, Reads before after → failed rc after)
    (goOn : ∀ after, Reads before after → (rest value).wp done failed after) :
    (read >>= rest).wp done failed now := by
  apply wp_seq reading _ stop
  intro found after ⟨same, reads⟩
  rw [same]
  exact goOn after reads

theorem fieldGet_wp {α : Type} (closed : before.staged = []) (reads : Reads before now) (field : Field)
    (value : PhyTree → α) :
    (cfgGet answer field (fun tree => .ok (value tree))).wp
      (fun found after => found = value before.tree ∧ Reads before after)
      (fun _ after => Reads before after) now := by
  refine wp_mono (cfgGet_wp closed reads field _) ?_ (fun _ _ reads => reads)
  rintro found after ⟨same, reads⟩
  exact ⟨(Except.ok.inj same).symm, reads⟩

theorem modeAdvGet_wp (closed : before.staged = []) (reads : Reads before now) (name : String) :
    (modeAdvGet answer name).wp (fun value after => value = before.tree.advertised name ∧ Reads before after)
      (fun _ after => Reads before after) now := by
  refine wp_mono (cfgGet_wp closed reads (.modeAdv name) _) ?_ (fun _ _ reads => reads)
  rintro value after ⟨same, reads⟩
  split at same
  · exact ⟨(Except.ok.inj same).symm, reads⟩
  · cases same

theorem fixedModeDiffers_wp (closed : before.staged = []) (reads : Reads before now) (state : SavedState) :
    (fixedModeDiffers answer state).wp
      (fun found after => found = fixedModeDiff state before.tree ∧ Reads before after)
      (fun _ after => Reads before after) now := by
  unfold fixedModeDiffers fixedModeDiff
  by_cases off : state.autoneg = .off
  · rw [if_pos off]
    apply wp_read (fieldGet_wp closed reads .speedAdmin _) (fun _ _ reads => reads)
    intro t reads
    apply wp_read (fieldGet_wp closed reads .duplexAdmin _) (fun _ _ reads => reads)
    intro u reads
    exact ⟨by simp [off], reads⟩
  · rw [if_neg off]
    exact ⟨by simp [off], reads⟩

theorem advertisedDiffers_wp (closed : before.staged = []) (reads : Reads before now) (state : SavedState)
    (wanted : ModeInfo → Bool) :
    (advertisedDiffers answer state wanted).wp
      (fun found after => found = advertisedDiff state wanted before.tree ∧ Reads before after)
      (fun _ after => Reads before after) now := by
  refine wp_mono (wp_findFirst (Reads before)
    (fun mode => before.tree.advertised mode.name ≠ wanted mode) state.linkModes ?_ reads) ?_
    (fun _ _ reads => reads)
  · intro mode _ t reads
    apply wp_read (modeAdvGet_wp closed reads mode.name) (fun _ _ reads => reads)
    intro u reads
    exact ⟨reads, by simp⟩
  · rintro found after ⟨reads, hit⟩
    refine ⟨?_, reads⟩
    rw [Bool.eq_iff_iff, hit]
    simp [advertisedDiff]

end

/-- The configuration as a library call finds it when it starts. -/
def Cfg.entered (cfg : Cfg) : Cfg := { cfg with calls := cfg.calls + 1 }

theorem wp_enterCall {α : Type} {done : α → Cfg → Prop} {failed : TeErrno → Cfg → Prop} {cfg : Cfg}
    {rest : PhyScript α} (entered : rest.wp done failed cfg.entered) :
    Script.wp (do enterCall; rest) done failed cfg := entered

section
variable {answer : Nat → Command → Option TeErrno} {cfg : Cfg}

theorem applyAutonegModes_wp (closed : cfg.staged = []) (state : SavedState) (mode1Name : String)
    (mode2Name : Option String) :
    (applyAutonegModes answer state mode1Name mode2Name).wp
      (fun _ => Finished cfg.entered ((Call.autonegModes mode1Name mode2Name).settings state cfg.tree))
      (fun _ => Stopped answer cfg.entered ((Call.autonegModes mode1Name mode2Name).settings state cfg.tree))
      cfg := by
  have closed' : cfg.entered.staged = [] := closed
  apply wp_enterCall
  apply wp_read (fieldGet_wp closed' (Reads.refl _) .autoneg _) (fun _ _ reads => reads.stopped closed' _)
  intro t reads
  apply wp_read (advertisedDiffers_wp closed' reads state _) (fun _ _ reads => reads.stopped closed' _)
  intro u reads
  change Script.wp (if cfg.tree.autoneg != .on ||
    advertisedDiff state (shouldAdvertise mode1Name mode2Name) cfg.tree then _ else _) _ _ u
  simp only [Call.settings]
  split
  · have writes : (do
        advertise answer state (shouldAdvertise mode1Name mode2Name)
        autonegSet answer .on
        phyCommit answer) =
        commitAll answer (advertiseSettings state (shouldAdvertise mode1Name mode2Name) ++ [.autoneg .on]) := by
      simp only [commitAll, advertise, advertiseSettings, forEach_append, forEach_map, forEach, bind_assoc,
        pure_bind]
      rfl
    rw [writes]
    exact commitAll_wp closed' reads (by simp)
  · exact reads.finished closed'

theorem when_cfgSet (condition : Bool) (setting : Setting) :
    when condition (cfgSet answer setting) = forEach (if condition then [setting] else []) (cfgSet answer) := by
  cases condition with
  | false => rfl
  | true => simp [when, forEach]

theorem applyFixedMode_wp (closed : cfg.staged = []) (state : SavedState) (speed : Speed) (duplex : Duplex) :
    (applyFixedMode answer speed duplex).wp
      (fun _ => Finished cfg.entered ((Call.fixedMode speed duplex).settings state cfg.tree))
      (fun _ => Stopped answer cfg.entered ((Call.fixedMode speed duplex).settings state cfg.tree)) cfg := by
  have closed' : cfg.entered.staged = [] := closed
  apply wp_enterCall
  apply wp_read (fieldGet_wp closed' (Reads.refl _) .autoneg _) (fun _ _ reads => reads.stopped closed' _)
  intro t reads
  apply wp_read (fieldGet_wp closed' reads .speedAdmin _) (fun _ _ reads => reads.stopped closed' _)
  intro u reads
  apply wp_read (fieldGet_wp closed' reads .duplexAdmin _) (fun _ _ reads => reads.stopped closed' _)
  intro v reads
  change Script.wp (do
    when (cfg.tree.autoneg != .off) (autonegSet answer .off)
    when (cfg.tree.speedAdmin != speed) (speedAdminSet answer speed)
    when (cfg.tree.duplexAdmin != duplex) (duplexAdminSet answer duplex)
    if cfg.tree.autoneg != .off || cfg.tree.speedAdmin != speed || cfg.tree.duplexAdmin != duplex then
      phyCommit answer
    else pure ()) _ _ v
  have writes : ∀ rest : PhyScript Unit, (do
      when (cfg.tree.autoneg != .off) (autonegSet answer .off)
      when (cfg.tree.speedAdmin != speed) (speedAdminSet answer speed)
      when (cfg.tree.duplexAdmin != duplex) (duplexAdminSet answer duplex)
      rest) = (do forEach ((Call.fixedMode speed duplex).settings state cfg.tree) (cfgSet answer); rest) := by
    intro rest
    simp only [Call.settings, autonegSet, speedAdminSet, duplexAdminSet, when_cfgSet, forEach_append,
      bind_assoc]
  have nothing : (Call.fixedMode speed duplex).settings state cfg.tree = [] ↔
      ¬(cfg.tree.autoneg != .off || cfg.tree.speedAdmin != speed || cfg.tree.duplexAdmin != duplex) = true := by
    simp only [Call.settings, List.append_eq_nil_iff, ite_eq_right_iff, List.cons_ne_self, imp_false,
      Bool.or_eq_true, not_or, and_assoc]
  rw [writes]
  split
  · next changed => exact commitAll_wp closed' reads (fun empty => nothing.mp empty changed)
  · next unchanged =>
    rw [nothing.mpr unchanged]
    exact reads.finished closed'

theorem stateRestore_wp (answer : Nat → Command → Option TeErrno) (closed : cfg.staged = []) (state : SavedState) :
    (stateRestore answer state).wp (fun _ => Finished cfg.entered (Call.restore.settings state cfg.tree))
      (fun _ => Stopped answer cfg.entered (Call.restore.settings state cfg.tree)) cfg := by
  have closed' : cfg.entered.staged = [] := closed
  apply wp_enterCall
  refine wp_seq (cfgRead_wp (Reads.refl cfg.entered) .sync rfl (by simp) _) ?_
    (fun _ _ reads => reads.stopped closed' _)
  rintro _ s ⟨-, reads⟩
  apply wp_read (fieldGet_wp closed' reads .autoneg _) (fun _ _ reads => reads.stopped closed' _)
  intro t reads
  apply wp_read (fixedModeDiffers_wp closed' reads state) (fun _ _ reads => reads.stopped closed' _)
  intro u reads
  apply wp_read (advertisedDiffers_wp closed' reads state _) (fun _ _ reads => reads.stopped closed' _)
  intro v reads
  change Script.wp (if fixedModeDiff state cfg.tree || cfg.tree.autoneg != state.autoneg ||
    advertisedDiff state ModeInfo.advertised cfg.tree then _ else _) _ _ v
  simp only [Call.settings]
  split
  · have writes : (do
        autonegSet answer state.autoneg
        when (state.autoneg == .off) (do
          speedAdminSet answer state.speedAdmin
          duplexAdminSet answer state.duplexAdmin)
        advertise answer state ModeInfo.advertised
        phyCommit answer) = commitAll answer (restoreSettings state) := by
      unfold commitAll restoreSettings advertise advertiseSettings
      by_cases off : state.autoneg = .off
      · simp only [when, off, beq_self_eq_true, if_true, forEach, forEach_append, forEach_map, bind_assoc,
          pure_bind]
        rfl
      · simp only [when, off, beq_iff_eq, if_false, forEach, List.nil_append, forEach_map, bind_assoc,
          pure_bind]
        rfl
    rw [writes]
    exact commitAll_wp closed' reads (by simp [restoreSettings])
  · exact reads.finished closed'

theorem Call.run_wp (answer : Nat → Command → Option TeErrno) (closed : cfg.staged = []) (state : SavedState)
    (call : Call) :
    (call.run answer state).wp (fun _ => Finished cfg.entered (call.settings state cfg.tree))
      (fun _ => Stopped answer cfg.entered (call.settings state cfg.tree)) cfg := by
  cases call with
  | autonegModes mode1Name mode2Name => exact applyAutonegModes_wp closed state mode1Name mode2Name
  | fixedMode speed duplex => exact applyFixedMode_wp closed state speed duplex
  | restore => exact stateRestore_wp answer closed state

end

end NetDrv.Phy
