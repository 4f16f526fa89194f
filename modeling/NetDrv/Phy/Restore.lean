import NetDrv.Phy.Effects

/-! Saving, changing and restoring. Calls that succeed apply their settings to the
committed configuration, none of which concerns a mode that is not a link mode, and
the settings of a restore put back everything a restore is responsible for. -/

namespace NetDrv.Phy
open Script

/-- Whether a mode of this name is a link mode for the library. -/
def isLinkName (name : String) : Bool := isLinkMode (ModeInfo.ofName name false)

theorem isLinkMode_ofName (name : String) (advertised : Bool) :
    isLinkMode (ModeInfo.ofName name advertised) = isLinkName name := by
  unfold isLinkName ModeInfo.ofName
  split <;> rfl

/-- What `net_drv_phy_state_save()` takes down of a configuration. -/
def snapshot (tree : PhyTree) : SavedState :=
  ⟨tree.autoneg, tree.speedAdmin, tree.duplexAdmin,
    tree.names.map (fun name => ModeInfo.ofName name (tree.advertised name)), true⟩

theorem mem_linkModes_snapshot {tree : PhyTree} {mode : ModeInfo} :
    mode ∈ (snapshot tree).linkModes ↔
      ∃ name ∈ tree.names, isLinkName name = true ∧ mode = ModeInfo.ofName name (tree.advertised name) := by
  simp only [SavedState.linkModes, snapshot, List.mem_filter, List.mem_map]
  constructor
  · rintro ⟨⟨name, member, rfl⟩, link⟩
    exact ⟨name, member, isLinkMode_ofName name _ ▸ link, rfl⟩
  · rintro ⟨name, member, link, rfl⟩
    exact ⟨⟨name, member, rfl⟩, (isLinkMode_ofName name _).trans link⟩

theorem linkModes_names_nodup (tree : PhyTree) : ((snapshot tree).linkModes.map ModeInfo.name).Nodup := by
  have names : (snapshot tree).modes.map ModeInfo.name = tree.names := by
    simp [snapshot, Function.comp_def]
  have whole : ((snapshot tree).modes.map ModeInfo.name).Nodup := names ▸ tree.unique
  exact whole.sublist (List.filter_sublist.map _)

section
variable {answer : Nat → Command → Option TeErrno} {before now : Cfg}

theorem saveModes_wp (closed : before.staged = []) (reads : Reads before now) (handles : List String) :
    (saveModes answer handles).wp
      (fun modes after => modes = handles.map (fun name =>
        ModeInfo.ofName name (before.tree.advertised name)) ∧ Reads before after)
      (fun _ after => Reads before after) now := by
  induction handles generalizing now with
  | nil => exact ⟨rfl, reads⟩
  | cons handle handles ih =>
    refine wp_seq (cfgRead_wp reads (.instName handle) rfl (by simp) _) ?_ (fun _ _ reads => reads)
    rintro name t ⟨same, reads⟩
    obtain rfl := Except.ok.inj same
    apply wp_read (modeAdvGet_wp closed reads handle) (fun _ _ reads => reads)
    intro u reads
    apply wp_read (ih reads) (fun _ _ reads => reads)
    intro v reads
    exact ⟨rfl, reads⟩

theorem stateSave_wp {cfg : Cfg} (closed : cfg.staged = []) :
    (stateSave answer).wp (fun state after => state = snapshot cfg.tree ∧ Reads cfg.entered after)
      (fun _ after => Reads cfg.entered after) cfg := by
  have closed' : cfg.entered.staged = [] := closed
  apply wp_enterCall
  apply wp_read (fieldGet_wp closed' (Reads.refl _) .autoneg _) (fun _ _ reads => reads)
  intro t reads
  apply wp_read (fieldGet_wp closed' reads .speedAdmin _) (fun _ _ reads => reads)
  intro u reads
  apply wp_read (fieldGet_wp closed' reads .duplexAdmin _) (fun _ _ reads => reads)
  intro v reads
  refine wp_seq (cfgRead_wp reads .findModes rfl (by simp) _) ?_ (fun _ _ reads => reads)
  rintro handles w ⟨same, reads⟩
  obtain rfl := Except.ok.inj same
  apply wp_read (saveModes_wp closed' reads _) (fun _ _ reads => reads)
  intro x reads
  exact ⟨rfl, reads⟩

end

/-- Settings which leave the advertisement of other than link modes alone. -/
def Setting.confined : Setting → Prop
  | .modeAdv name _ => isLinkName name = true
  | _ => True

/-- Both configurations have the same modes and advertise the same ones that are not link modes. -/
structure SameOthers (base tree : PhyTree) : Prop where
  names : tree.names = base.names
  advertised : ∀ name, isLinkName name = false → tree.advertised name = base.advertised name

theorem SameOthers.apply {base tree : PhyTree} (same : SameOthers base tree) {setting : Setting}
    (confined : setting.confined) : SameOthers base (tree.apply setting) := by
  cases setting with
  | modeAdv changed value =>
    refine ⟨same.names, ?_⟩
    intro name other
    have different : name ≠ changed := by
      rintro rfl
      exact Bool.noConfusion (other.symm.trans confined)
    simp only [PhyTree.apply, if_neg different]
    exact same.advertised name other
  | _ => exact ⟨same.names, same.advertised⟩

theorem SameOthers.applyAll {base tree : PhyTree} (same : SameOthers base tree) {settings : List Setting}
    (confined : ∀ setting ∈ settings, setting.confined) : SameOthers base (tree.applyAll settings) := by
  induction settings generalizing tree with
  | nil => exact same
  | cons setting settings ih =>
    exact ih (same.apply (confined setting (by simp)))
      (fun other member => confined other (List.mem_cons_of_mem _ member))

theorem advertiseSettings_confined (base : PhyTree) (wanted : ModeInfo → Bool) :
    ∀ setting ∈ advertiseSettings (snapshot base) wanted, setting.confined := by
  intro setting member
  obtain ⟨mode, link, rfl⟩ := List.mem_map.mp member
  obtain ⟨name, -, holds, rfl⟩ := mem_linkModes_snapshot.mp link
  simpa [Setting.confined] using holds

theorem Call.settings_confined (base tree : PhyTree) (call : Call) :
    ∀ setting ∈ call.settings (snapshot base) tree, setting.confined := by
  intro setting member
  cases call with
  | autonegModes mode1Name mode2Name =>
    simp only [Call.settings] at member
    split at member
    · rcases List.mem_append.mp member with modes | autoneg
      · exact advertiseSettings_confined base _ setting modes
      · rw [List.mem_singleton.mp autoneg]
        trivial
    · cases member
  | fixedMode speed duplex =>
    simp only [Call.settings, List.mem_append, List.mem_ite_nil_right, List.mem_singleton] at member
    rcases member with ⟨-, rfl⟩ | ⟨-, rfl⟩ | ⟨-, rfl⟩ <;> trivial
  | restore =>
    simp only [Call.settings] at member
    split at member
    · simp only [restoreSettings, List.mem_cons, List.mem_append, List.mem_ite_nil_right,
        List.not_mem_nil, or_false] at member
      rcases member with rfl | ⟨-, rfl | rfl⟩ | modes
      · trivial
      · trivial
      · trivial
      · exact advertiseSettings_confined base _ setting modes
    · cases member

theorem applyAll_append (tree : PhyTree) (front back : List Setting) :
    tree.applyAll (front ++ back) = (tree.applyAll front).applyAll back := List.foldl_append

theorem applyAll_advertise_other (modes : List ModeInfo) (wanted : ModeInfo → Bool) (tree : PhyTree) :
    let after := tree.applyAll (modes.map (fun mode => .modeAdv mode.name (wanted mode)))
    after.autoneg = tree.autoneg ∧ after.speedAdmin = tree.speedAdmin ∧
      after.duplexAdmin = tree.duplexAdmin ∧
      ∀ name ∉ modes.map ModeInfo.name, after.advertised name = tree.advertised name := by
  induction modes generalizing tree with
  | nil => exact ⟨rfl, rfl, rfl, fun _ _ => rfl⟩
  | cons mode modes ih =>
    obtain ⟨autoneg, speed, duplex, others⟩ := ih (tree.apply (.modeAdv mode.name (wanted mode)))
    refine ⟨autoneg, speed, duplex, ?_⟩
    intro name absent
    simp only [List.map_cons, List.mem_cons, not_or] at absent
    apply (others name absent.2).trans
    simp only [PhyTree.apply, if_neg absent.1]

theorem applyAll_advertise_mem {modes : List ModeInfo} (unique : (modes.map ModeInfo.name).Nodup)
    (wanted : ModeInfo → Bool) (tree : PhyTree) {mode : ModeInfo} (member : mode ∈ modes) :
    (tree.applyAll (modes.map (fun mode => .modeAdv mode.name (wanted mode)))).advertised mode.name =
      wanted mode := by
  induction modes generalizing tree with
  | nil => cases member
  | cons first modes ih =>
    rw [List.map_cons, List.nodup_cons] at unique
    rcases List.mem_cons.mp member with rfl | later
    · apply ((applyAll_advertise_other modes wanted _).2.2.2 mode.name unique.1).trans
      simp [PhyTree.apply]
    · exact ih unique.2 _ later

/-- Everything a restore is responsible for has its saved value. -/
structure Restored (state : SavedState) (tree : PhyTree) : Prop where
  autoneg : tree.autoneg = state.autoneg
  fixed : state.autoneg = .off → tree.speedAdmin = state.speedAdmin ∧ tree.duplexAdmin = state.duplexAdmin
  advertised : ∀ mode ∈ state.linkModes, tree.advertised mode.name = mode.advertised

theorem restore_settings_eq_nil_iff {state : SavedState} {tree : PhyTree} :
    Call.restore.settings state tree = [] ↔ Restored state tree := by
  have found : Call.restore.settings state tree = [] ↔ ¬(fixedModeDiff state tree || tree.autoneg != state.autoneg ||
      advertisedDiff state ModeInfo.advertised tree) = true := by
    simp only [Call.settings, restoreSettings]
    split <;> simp_all
  rw [found]
  simp only [fixedModeDiff, advertisedDiff, Bool.or_eq_true, Bool.and_eq_true, beq_iff_eq, bne_iff_ne,
    List.any_eq_true, not_or, not_and, not_exists, not_not, ne_eq]
  constructor
  · rintro ⟨⟨fixed, autoneg⟩, advertised⟩
    exact ⟨autoneg, fixed, advertised⟩
  · rintro ⟨autoneg, fixed, advertised⟩
    exact ⟨⟨fixed, autoneg⟩, advertised⟩

theorem applyAll_restoreSettings (base tree : PhyTree) :
    Restored (snapshot base) (tree.applyAll (restoreSettings (snapshot base))) := by
  let fixed : List Setting := .autoneg base.autoneg ::
    (if base.autoneg = .off then [.speedAdmin base.speedAdmin, .duplexAdmin base.duplexAdmin] else [])
  have parts : tree.applyAll (restoreSettings (snapshot base)) =
      (tree.applyAll fixed).applyAll (advertiseSettings (snapshot base) ModeInfo.advertised) :=
    applyAll_append tree fixed _
  obtain ⟨autoneg, speed, duplex, -⟩ :=
    applyAll_advertise_other (snapshot base).linkModes ModeInfo.advertised (tree.applyAll fixed)
  rw [parts]
  refine ⟨?_, ?_, ?_⟩
  · apply autoneg.trans
    by_cases off : base.autoneg = .off <;> simp [fixed, off, PhyTree.applyAll, PhyTree.apply, snapshot]
  · intro off
    change base.autoneg = .off at off
    refine ⟨speed.trans ?_, duplex.trans ?_⟩ <;>
      simp [fixed, off, PhyTree.applyAll, PhyTree.apply, snapshot]
  · intro mode member
    exact applyAll_advertise_mem (linkModes_names_nodup base) ModeInfo.advertised _ member

theorem restore_restores (base tree : PhyTree) :
    Restored (snapshot base) (tree.applyAll (Call.restore.settings (snapshot base) tree)) := by
  by_cases nothing : Call.restore.settings (snapshot base) tree = []
  · rw [nothing]
    exact restore_settings_eq_nil_iff.mp nothing
  · have all : Call.restore.settings (snapshot base) tree = restoreSettings (snapshot base) := by
      simp only [Call.settings] at nothing ⊢
      split at nothing
      · next found => rw [if_pos found]
      · exact absurd rfl nothing
    rw [all]
    exact applyAll_restoreSettings base tree

theorem calls_wp (answer : Nat → Command → Option TeErrno) {base : PhyTree} {cfg : Cfg}
    (closed : cfg.staged = []) (same : SameOthers base cfg.tree) (calls : List Call) :
    (forEach calls (Call.run answer (snapshot base))).wp
      (fun _ now => now.staged = [] ∧ SameOthers base now.tree) (fun _ _ => True) cfg := by
  refine wp_forEach (fun _ (now : Cfg) => now.staged = [] ∧ SameOthers base now.tree) calls ?_ ⟨closed, same⟩
  rintro _ call _ t - ⟨closed, same⟩
  refine wp_mono (Call.run_wp answer closed (snapshot base) call) ?_ (fun _ _ _ => trivial)
  intro _ after finished
  refine ⟨finished.staged, ?_⟩
  rw [finished.tree]
  exact SameOthers.applyAll same (call.settings_confined base t.tree)

/-- Whatever sequence of changes succeeded after a save, a successful restore puts everything back
it is responsible for, modes that are not link modes never change, and a second restore only reads. -/
theorem phy_save_change_restore (answer : Nat → Command → Option TeErrno) (cfg saved changed restored : Cfg)
    (state : SavedState) (changes : List Call) (closed : cfg.staged = [])
    (save : stateSave answer cfg = (.ok state, saved))
    (change : forEach changes (Call.run answer state) saved = (.ok (), changed))
    (restore : stateRestore answer state changed = (.ok (), restored)) :
    restored.tree.autoneg = cfg.tree.autoneg ∧
    (∀ name ∈ cfg.tree.names, isLinkName name = true →
      restored.tree.advertised name = cfg.tree.advertised name) ∧
    (cfg.tree.autoneg = .off → restored.tree.speedAdmin = cfg.tree.speedAdmin ∧
      restored.tree.duplexAdmin = cfg.tree.duplexAdmin) ∧
    (∀ name, isLinkName name = false →
      (∀ before after now, changes = before ++ after →
        forEach before (Call.run answer state) saved = (.ok (), now) →
        now.tree.advertised name = cfg.tree.advertised name) ∧
      restored.tree.advertised name = cfg.tree.advertised name) ∧
    ∃ commands, (stateRestore answer state restored).2.log = restored.log ++ commands ∧
      ∀ command ∈ commands, command.reads = true := by
  obtain ⟨rfl, reads⟩ := wp_ok (stateSave_wp closed) save
  have closed' : saved.staged = [] := reads.staged.trans closed
  have same : SameOthers cfg.tree saved.tree := by
    rw [reads.tree]
    exact ⟨rfl, fun _ _ => rfl⟩
  have along : ∀ calls now, forEach calls (Call.run answer (snapshot cfg.tree)) saved = (.ok (), now) →
      now.staged = [] ∧ SameOthers cfg.tree now.tree := by
    intro calls now run
    have holds := wp_ok (calls_wp answer closed' same calls) run
    exact holds
  obtain ⟨closedChanged, sameChanged⟩ := along changes changed change
  have finished := wp_ok (stateRestore_wp answer closedChanged (snapshot cfg.tree)) restore
  have sameRestored : SameOthers cfg.tree restored.tree := by
    rw [finished.tree]
    exact SameOthers.applyAll sameChanged (Call.settings_confined cfg.tree changed.tree .restore)
  have back : Restored (snapshot cfg.tree) restored.tree := by
    rw [finished.tree]
    exact restore_restores cfg.tree changed.tree
  refine ⟨back.autoneg, ?_, back.fixed, ?_, ?_⟩
  · intro name member link
    have := back.advertised _ (mem_linkModes_snapshot.mpr ⟨name, member, link, rfl⟩)
    simpa using this
  · intro name other
    exact ⟨fun before _ now _ run => (along before now run).2.advertised name other,
      sameRestored.advertised name other⟩
  · have second := stateRestore_wp answer finished.staged (snapshot cfg.tree)
    rw [restore_settings_eq_nil_iff.mpr back] at second
    have traced : Traced restored.entered [] (stateRestore answer (snapshot cfg.tree) restored).2 := by
      unfold Script.wp at second
      split at second
      · next run => exact run ▸ second.traced
      · next run => exact run ▸ second.traced
    obtain ⟨commands, log, -, plain⟩ := traced.log
    exact ⟨commands, log, plain rfl⟩

/-- An interface that negotiates one of two link modes and advertises pause frames. -/
def gigabit : Cfg :=
  ⟨⟨.on, .unknown, .unknown, ["1000baseT_Full", "100baseT_Full", "Pause"], by decide,
    fun name => name != "100baseT_Full"⟩, [], 0, []⟩

def noFailure : Nat → Command → Option TeErrno := fun _ _ => none

theorem phy_save_change_restore_gigabit :
    let saved := (stateSave noFailure gigabit).2
    let changed := (forEach [.fixedMode (.mbps 100) .full, .autonegModes "100baseT_Full" none]
      (Call.run noFailure (snapshot gigabit.tree)) saved).2
    let restored := (stateRestore noFailure (snapshot gigabit.tree) changed).2
    changed.tree.advertised "1000baseT_Full" = false ∧ restored.tree.advertised "1000baseT_Full" = true := by
  intro saved changed restored
  have save : (stateSave noFailure gigabit).1 = .ok (snapshot gigabit.tree) := by decide
  have change : (forEach [.fixedMode (.mbps 100) .full, .autonegModes "100baseT_Full" none]
      (Call.run noFailure (snapshot gigabit.tree)) saved).1 = .ok () := by decide +kernel
  have restore : (stateRestore noFailure (snapshot gigabit.tree) changed).1 = .ok () := by decide +kernel
  -- after their runs the three states are only names, so that nothing evaluates them again
  have gone : changed.tree.advertised "1000baseT_Full" = false := by decide +kernel
  have savedIs : (stateSave noFailure gigabit).2 = saved := rfl
  have changedIs : (forEach _ (Call.run noFailure (snapshot gigabit.tree)) saved).2 = changed := rfl
  have restoredIs : (stateRestore noFailure (snapshot gigabit.tree) changed).2 = restored := rfl
  clear_value restored changed saved
  have back := phy_save_change_restore noFailure gigabit saved changed restored _ _ rfl
    (Prod.ext save savedIs) (Prod.ext change changedIs) (Prod.ext restore restoredIs)
  exact ⟨gone, back.2.1 "1000baseT_Full" (by decide) (by decide)⟩

end NetDrv.Phy
