import NetDrv.Ethtool.TxCoalesce

/-! What the cleanup of the Tx coalescing test restores. Only the concrete parameters of
the profile and the adaptive flag ever differ from their initial values; the former are
staged again by the cleanup whatever the test had staged, and the latter is guarded by
what was read of it and by what the profile does to it. -/

namespace NetDrv.TxCoalesce
open Script

section
variable (env : Env) (profile : Profile) (perQueue : Bool) (initial : Key → Nat)

def paramKey (param : Param) : Key := ⟨queueIdOf perQueue, param.name⟩

/-- The parameters `set_coalesce_params_locally()` does not skip. -/
def concreteParams (params : List Param) : List Param := params.filter (fun param => param.name != adaptiveName)

def concreteKeys : List Key := (concreteParams (profileParams profile)).map (paramKey perQueue)

def Param.saved (param : Param) : Param := { param with prevValue := initial (paramKey perQueue param) }

/-- Reading the adaptive flag succeeds, and so does disabling it where the test does so. -/
structure AdaptiveHandled : Prop where
  read : env.adaptiveGet = none
  disable : profileEnablesAdaptiveTx profile = true ∨ initial (adaptiveKey perQueue) ≠ 0 → env.body.set 0 = none

/-- The test stopped before everything was saved. -/
structure Unsaved (w : World) : Prop where
  restore : w.restorePrevValues = false
  committed : w.settings.committed = initial
  commits : w.commits = []

/-- The cleanup knows enough to restore the initial values. -/
structure Restorable (w : World) : Prop where
  restore : w.restorePrevValues = true
  params : w.params = (profileParams profile).map (Param.saved perQueue initial)
  staged : ∀ entry ∈ w.settings.staged, entry.1 ∈ concreteKeys profile perQueue
  others : ∀ key ∉ concreteKeys profile perQueue, key ≠ adaptiveKey perQueue →
    w.settings.committed key = initial key
  unread : w.restoreAdaptiveTx = false → w.settings.committed (adaptiveKey perQueue) = initial (adaptiveKey perQueue)
  read : w.restoreAdaptiveTx = true → w.prevAdaptiveTx = initial (adaptiveKey perQueue)
  untouched : profileEnablesAdaptiveTx profile = false → initial (adaptiveKey perQueue) = 0 →
    w.settings.committed (adaptiveKey perQueue) = 0

/-- Nothing was committed with the adaptive mode on, and the cleanup will not do so either. -/
structure Quiet (w : World) : Prop where
  commits : ∀ record ∈ w.commits, record.adaptive = 0
  read : w.restoreAdaptiveTx = true
  off : profileEnablesAdaptiveTx profile = false → w.settings.committed (adaptiveKey perQueue) = 0

/-- The test stopped after everything was saved. -/
structure Saved (w : World) : Prop where
  restorable : Restorable profile perQueue initial w
  quiet : AdaptiveHandled env profile perQueue initial → Quiet profile perQueue w

structure Disabled (w : World) : Prop where
  restorable : Restorable profile perQueue initial w
  read : w.restoreAdaptiveTx = true
  quiet : AdaptiveHandled env profile perQueue initial →
    w.settings.committed (adaptiveKey perQueue) = 0 ∧ ∀ record ∈ w.commits, record.adaptive = 0

end

section
variable {env : Env} {profile : Profile} {perQueue : Bool} {initial : Key → Nat} {w : World}

theorem adaptiveKey_not_concrete : adaptiveKey perQueue ∉ concreteKeys profile perQueue := by
  intro member
  obtain ⟨param, concrete, same⟩ := List.mem_map.mp member
  have name : param.name = adaptiveName := congrArg Key.name same
  simp [concreteParams, name] at concrete

theorem commits_paramKey (param : Param) : commits perQueue (paramKey perQueue param) = true := by
  cases perQueue <;> rfl

theorem Restorable.commits_staged (restorable : Restorable profile perQueue initial w) :
    ∀ entry ∈ w.settings.staged, commits perQueue entry.1 = true := by
  intro entry member
  obtain ⟨param, -, same⟩ := List.mem_map.mp (restorable.staged entry member)
  rw [← same]
  exact commits_paramKey param

theorem Restorable.commit_other (restorable : Restorable profile perQueue initial w) {key : Key}
    (other : key ∉ concreteKeys profile perQueue) :
    (w.settings.commit (commits perQueue)).committed key = w.settings.committed key := by
  apply Staged.write_other
  intro entry member same
  have staged := restorable.staged entry (List.mem_of_mem_filter member)
  exact other (same ▸ staged)

theorem Restorable.change (restorable : Restorable profile perQueue initial w) (settings : Staged Key Nat)
    (staged : ∀ entry ∈ settings.staged, entry.1 ∈ concreteKeys profile perQueue)
    (same : ∀ key ∉ concreteKeys profile perQueue, settings.committed key = w.settings.committed key)
    (records : List CommitRecord) :
    Restorable profile perQueue initial { w with settings := settings, commits := records } where
  restore := restorable.restore
  params := restorable.params
  staged := staged
  others key concrete other := (same key concrete).trans (restorable.others key concrete other)
  unread unread := (same _ adaptiveKey_not_concrete).trans (restorable.unread unread)
  read := restorable.read
  untouched plain zero := (same _ adaptiveKey_not_concrete).trans (restorable.untouched plain zero)

theorem Restorable.setAdaptive (restorable : Restorable profile perQueue initial w)
    (read : w.restoreAdaptiveTx = true)
    (guarded : profileEnablesAdaptiveTx profile = true ∨ initial (adaptiveKey perQueue) ≠ 0) (value : Nat) :
    Restorable profile perQueue initial { w with settings := w.settings.set (adaptiveKey perQueue) value } where
  restore := restorable.restore
  params := restorable.params
  staged := restorable.staged
  others key concrete other := (Function.update_of_ne other _ _).trans (restorable.others key concrete other)
  unread unread := Bool.noConfusion (unread.symm.trans read)
  read := restorable.read
  untouched plain zero := by
    rcases guarded with enables | nonzero
    · exact Bool.noConfusion (plain.symm.trans enables)
    · exact absurd zero nonzero

theorem Disabled.saved (disabled : Disabled env profile perQueue initial w) :
    Saved env profile perQueue initial w where
  restorable := disabled.restorable
  quiet handled := ⟨(disabled.quiet handled).2, disabled.read, fun _ => (disabled.quiet handled).1⟩

theorem Disabled.stage (disabled : Disabled env profile perQueue initial w) {key : Key}
    (concrete : key ∈ concreteKeys profile perQueue) (value : Nat) :
    Disabled env profile perQueue initial { w with settings := w.settings.stage key value } where
  restorable := by
    apply disabled.restorable.change (w.settings.stage key value) _ (fun _ _ => rfl)
    intro entry member
    rcases List.mem_append.mp member with earlier | last
    · exact disabled.restorable.staged entry earlier
    · rw [List.mem_singleton.mp last]
      exact concrete
  read := disabled.read
  quiet := disabled.quiet

theorem Disabled.commit (disabled : Disabled env profile perQueue initial w) (settings : Staged Key Nat)
    (staged : ∀ entry ∈ settings.staged, entry ∈ w.settings.staged)
    (same : ∀ key ∉ concreteKeys profile perQueue, settings.committed key = w.settings.committed key)
    (entries : List (Key × Nat)) :
    Disabled env profile perQueue initial { w with
      settings := settings
      commits := w.commits ++ [⟨entries, w.settings.committed (adaptiveKey perQueue)⟩] } where
  restorable := disabled.restorable.change settings
    (fun entry member => disabled.restorable.staged entry (staged entry member)) same _
  read := disabled.read
  quiet handled := by
    obtain ⟨off, earlier⟩ := disabled.quiet handled
    refine ⟨(same _ adaptiveKey_not_concrete).trans off, ?_⟩
    intro record member
    rcases List.mem_append.mp member with before | last
    · exact earlier record before
    · rw [List.mem_singleton.mp last]
      exact off

theorem Disabled.enable (disabled : Disabled env profile perQueue initial w)
    (enables : profileEnablesAdaptiveTx profile = true) (value : Nat) :
    Saved env profile perQueue initial { w with settings := w.settings.set (adaptiveKey perQueue) value } where
  restorable := disabled.restorable.setAdaptive disabled.read (.inl enables) value
  quiet handled :=
    ⟨(disabled.quiet handled).2, disabled.read, fun plain => Bool.noConfusion (plain.symm.trans enables)⟩

theorem wp_orJump {x : TxScript (Option TeErrno)} {jump : TeErrno → Jump} {done : Unit → World → Prop}
    {failed : Jump → World → Prop}
    (runs : x.wp (fun rc t => (rc = none → done () t) ∧ ∀ e, rc = some e → failed (jump e) t) failed w) :
    (orJump jump x).wp done failed w := by
  refine wp_seq runs ?_ (fun _ _ failure => failure)
  intro rc t ⟨passed, stopped⟩
  cases rc with
  | none => exact passed rfl
  | some e => exact stopped e rfl

theorem setLocally_wp {inv : World → Prop} {failed : Jump → World → Prop} {calls : Calls} {restore : Bool}
    {params : List Param}
    (stages : ∀ t, inv t → ∀ param ∈ concreteParams params, ∀ value,
      inv { t with settings := t.settings.stage (paramKey perQueue param) value })
    (holds : inv w) : (setCoalesceParamsLocally perQueue calls restore params).wp (fun _ => inv) failed w := by
  induction params generalizing w with
  | nil => exact holds
  | cons param params ih =>
    unfold setCoalesceParamsLocally
    by_cases adaptive : param.name = adaptiveName
    · have skipped : concreteParams (param :: params) = concreteParams params := by
        simp [concreteParams, adaptive]
      rw [if_pos adaptive]
      rw [skipped] at stages
      exact ih stages holds
    · have taken : concreteParams (param :: params) = param :: concreteParams params := by
        simp [concreteParams, adaptive]
      rw [if_neg adaptive]
      rw [taken] at stages
      unfold queueSetLocal
      cases calls.setLocal param.name with
      | some rc => exact holds
      | none =>
        apply ih (fun t here other member => stages t here other (List.mem_cons_of_mem _ member))
        exact stages w holds param (by simp) _

theorem setLocally_run {calls : Calls} (succeed : ∀ name, calls.setLocal name = none) (restore : Bool)
    (params : List Param) (w : World) :
    setCoalesceParamsLocally perQueue calls restore params w = (.ok none, { w with
      settings := { w.settings with
        staged := w.settings.staged ++ (concreteParams params).map (fun param =>
          (paramKey perQueue param, if restore then param.prevValue else param.value)) } }) := by
  induction params generalizing w with
  | nil => simp [setCoalesceParamsLocally, concreteParams, pure]
  | cons param params ih =>
    unfold setCoalesceParamsLocally
    by_cases adaptive : param.name = adaptiveName
    · rw [if_pos adaptive, ih]
      simp [concreteParams, adaptive]
    · rw [if_neg adaptive]
      simp only [queueSetLocal, succeed]
      show setCoalesceParamsLocally perQueue calls restore params _ = _
      rw [ih]
      simp [concreteParams, adaptive, Staged.stage, paramKey]

structure Fresh (initial : Key → Nat) (w : World) : Prop where
  settings : w.settings = ⟨initial, []⟩
  restore : w.restorePrevValues = false
  unread : w.restoreAdaptiveTx = false
  commits : w.commits = []

theorem Fresh.unsaved (fresh : Fresh initial w) : Unsaved initial w :=
  ⟨fresh.restore, congrArg Staged.committed fresh.settings, fresh.commits⟩

theorem saveProfileParams_wp (saved params : List Param) (fresh : Fresh initial w)
    (here : w.params = saved ++ params) :
    (saveProfileParams env perQueue saved params).wp
      (fun _ t => Fresh initial t ∧ t.params = saved ++ params.map (Param.saved perQueue initial))
      (fun _ => Unsaved initial) w := by
  induction params generalizing saved w with
  | nil => exact ⟨fresh, here⟩
  | cons param params ih =>
    unfold saveProfileParams
    cases env.saveGet param.name with
    | some rc => exact fresh.unsaved
    | none =>
      have value : w.settings.committed ⟨queueIdOf perQueue, param.name⟩ = initial (paramKey perQueue param) := by
        rw [fresh.settings, paramKey]
      simp only [wp_bind, wp_gets, wp_update, value]
      apply wp_weaken (ih (saved ++ [Param.saved perQueue initial param]) _ _)
      · intro _ t ⟨after, all⟩
        exact ⟨after, by simpa using all⟩
      · exact ⟨fresh.settings, fresh.restore, fresh.unread, fresh.commits⟩
      · simp [Param.saved]

/-- The adaptive flag was read, and is as it was. -/
structure Loaded (profile : Profile) (perQueue : Bool) (initial : Key → Nat) (w : World) : Prop where
  restorable : Restorable profile perQueue initial w
  read : w.restoreAdaptiveTx = true
  same : w.settings.committed (adaptiveKey perQueue) = initial (adaptiveKey perQueue)
  commits : w.commits = []

def Stopped (env : Env) (profile : Profile) (perQueue : Bool) (initial : Key → Nat) (w : World) : Prop :=
  Unsaved initial w ∨ Saved env profile perQueue initial w

theorem restorable_of_fresh (fresh : Fresh initial w)
    (params : w.params = (profileParams profile).map (Param.saved perQueue initial)) :
    Restorable profile perQueue initial { w with restorePrevValues := true } where
  restore := rfl
  params := params
  staged := by simp [fresh.settings]
  others key _ _ := by simp only [fresh.settings]
  unread _ := by simp only [fresh.settings]
  read read := Bool.noConfusion (fresh.unread.symm.trans read)
  untouched _ zero := by simp only [fresh.settings, zero]

theorem saveAll_wp (fresh : Fresh initial w) (params : w.params = profileParams profile) :
    (saveAll env perQueue).wp (fun _ => Loaded profile perQueue initial)
      (fun _ => Stopped env profile perQueue initial) w := by
  unfold saveAll
  rw [wp_bind, wp_gets]
  apply wp_seq (saveProfileParams_wp [] w.params fresh rfl) _ (fun _ _ unsaved => .inl unsaved)
  intro _ t ⟨fresh, saved⟩
  rw [params, List.nil_append] at saved
  have restorable := restorable_of_fresh fresh saved
  rw [wp_bind, wp_update]
  cases answer : env.adaptiveGet with
  | some rc =>
    refine .inr ⟨restorable, fun handled => ?_⟩
    exact absurd (answer.symm.trans handled.read) (by simp)
  | none =>
    have same : t.settings.committed (adaptiveKey perQueue) = initial (adaptiveKey perQueue) := by
      rw [fresh.settings]
    exact {
      restorable := ⟨rfl, restorable.params, restorable.staged, restorable.others,
        fun unread => Bool.noConfusion unread, fun _ => same, restorable.untouched⟩
      read := rfl
      same := same
      commits := fresh.commits }

theorem disableAdaptive_wp (loaded : Loaded profile perQueue initial w) :
    (disableAdaptive env profile perQueue).wp (fun _ => Disabled env profile perQueue initial)
      (fun _ => Saved env profile perQueue initial) w := by
  unfold disableAdaptive
  rw [wp_bind, wp_gets, loaded.restorable.read loaded.read]
  apply wp_when
  · intro needed
    have guarded : profileEnablesAdaptiveTx profile = true ∨ initial (adaptiveKey perQueue) ≠ 0 := by
      simpa using needed
    apply wp_orJump
    unfold adaptiveSet
    cases answer : env.body.set 0 with
    | none =>
      refine ⟨fun _ => ⟨loaded.restorable.setAdaptive loaded.read guarded 0, loaded.read, fun _ => ?_⟩, by simp⟩
      simp [Staged.set, loaded.commits]
    | some rc =>
      refine ⟨by simp, fun _ _ => ⟨loaded.restorable, fun handled => ?_⟩⟩
      exact absurd (answer.symm.trans (handled.disable guarded)) (by simp)
  · intro needless
    have zero : initial (adaptiveKey perQueue) = 0 := by
      simp only [Bool.or_eq_false_iff, bne_eq_false_iff_eq] at needless
      exact needless.2
    exact ⟨loaded.restorable, loaded.read, fun _ => ⟨loaded.same.trans zero, by simp [loaded.commits]⟩⟩

theorem concreteParams_map_saved (params : List Param) :
    concreteParams (params.map (Param.saved perQueue initial)) =
      (concreteParams params).map (Param.saved perQueue initial) := by
  simp only [concreteParams, List.filter_map]
  rfl

theorem Restorable.paramKey_concrete (restorable : Restorable profile perQueue initial w) {param : Param}
    (member : param ∈ concreteParams w.params) : paramKey perQueue param ∈ concreteKeys profile perQueue := by
  rw [restorable.params, concreteParams_map_saved] at member
  obtain ⟨original, concrete, rfl⟩ := List.mem_map.mp member
  exact List.mem_map.mpr ⟨original, concrete, rfl⟩

theorem setLocally_disabled (disabled : Disabled env profile perQueue initial w) {failed : Jump → World → Prop} :
    (setCoalesceParamsLocally perQueue env.body false w.params).wp
      (fun _ => Disabled env profile perQueue initial) failed w := by
  apply setLocally_wp _ disabled
  intro t here param member value
  exact here.stage (disabled.restorable.paramKey_concrete member) value

theorem queuesCommit_disabled (disabled : Disabled env profile perQueue initial w) {failed : Jump → World → Prop} :
    (queuesCommit perQueue env.body).wp (fun _ => Disabled env profile perQueue initial) failed w := by
  unfold queuesCommit
  rw [wp_bind, wp_update]
  cases env.body.commit with
  | some rc =>
    apply disabled.commit (w.settings.discard (commits perQueue)) _ (fun _ _ => rfl)
    exact fun entry member => List.mem_of_mem_filter member
  | none =>
    apply disabled.commit (w.settings.commit (commits perQueue)) _
      (fun key other => disabled.restorable.commit_other other)
    exact fun entry member => List.mem_of_mem_filter member

theorem orJump_disabled {x : TxScript (Option TeErrno)} {jump : TeErrno → Jump}
    (runs : x.wp (fun _ => Disabled env profile perQueue initial) (fun _ => Saved env profile perQueue initial) w) :
    (orJump jump x).wp (fun _ => Disabled env profile perQueue initial)
      (fun _ => Saved env profile perQueue initial) w := by
  apply wp_orJump (wp_weaken runs _)
  intro rc t here
  exact ⟨fun _ => here, fun _ _ => here.saved⟩

theorem applyInvalid_wp (disabled : Disabled env profile perQueue initial w) :
    (applyInvalid env perQueue).wp (fun _ => Saved env profile perQueue initial)
      (fun _ => Saved env profile perQueue initial) w := by
  unfold applyInvalid
  rw [wp_bind, wp_gets]
  apply wp_seq (orJump_disabled (setLocally_disabled disabled)) _ (fun _ _ saved => saved)
  intro _ t here
  apply wp_seq (queuesCommit_disabled here) _ (fun _ _ saved => saved)
  intro rc u there
  cases rc with
  | none => exact there.saved
  | some rc => exact wp_when (fun _ => there.saved) (fun _ => there.saved)

theorem checkProfileParams_keeps {inv : World → Prop} (params : List Param) :
    (checkProfileParams env params).Keeps inv := by
  apply keeps_forEach
  intro param _ t holds
  cases env.readBack param.name with
  | error rc => exact holds
  | ok actual =>
    unfold Script.when
    dsimp only
    split <;> exact holds

theorem applyProfile_wp (disabled : Disabled env profile perQueue initial w) :
    (applyProfile env profile perQueue).wp (fun _ => Saved env profile perQueue initial)
      (fun _ => Saved env profile perQueue initial) w := by
  unfold applyProfile
  rw [wp_bind, wp_gets]
  apply wp_seq (orJump_disabled (setLocally_disabled disabled)) _ (fun _ _ saved => saved)
  intro _ t here
  apply wp_seq (orJump_disabled (queuesCommit_disabled here)) _ (fun _ _ saved => saved)
  intro _ u there
  rw [wp_bind]
  apply wp_when
  · intro enables
    apply wp_orJump
    unfold adaptiveSet
    cases env.body.set 1 with
    | none => exact ⟨fun _ => keeps_iff_wp.mp (checkProfileParams_keeps _) _ (there.enable enables 1), by simp⟩
    | some rc => exact ⟨by simp, fun _ _ => there.saved⟩
  · exact fun _ => keeps_iff_wp.mp (checkProfileParams_keeps _) _ there.saved

theorem testBody_stopped (env : Env) (profile : Profile) (perQueue : Bool) (initial : Key → Nat) :
    Stopped env profile perQueue initial (testBody env profile perQueue (World.start profile initial)).2 := by
  have fresh : Fresh initial (World.start profile initial) := ⟨rfl, rfl, rfl, rfl⟩
  have body : (testBody env profile perQueue).wp (fun _ => Stopped env profile perQueue initial)
      (fun _ => Stopped env profile perQueue initial) (World.start profile initial) := by
    have supported : (checkSupported env perQueue).wp (fun _ t => t = World.start profile initial)
        (fun _ => Unsaved initial) (World.start profile initial) := by
      unfold checkSupported
      split
      · rfl
      · split <;> exact fresh.unsaved
    apply wp_seq supported _ (fun _ _ unsaved => .inl unsaved)
    rintro _ _ rfl
    apply wp_seq (saveAll_wp fresh rfl) _ (fun _ _ stopped => stopped)
    intro _ t loaded
    apply wp_seq (disableAdaptive_wp loaded) _ (fun _ _ saved => .inr saved)
    intro _ u disabled
    split
    · exact wp_mono (applyInvalid_wp disabled) (fun _ _ saved => .inr saved) (fun _ _ saved => .inr saved)
    · exact wp_mono (applyProfile_wp disabled) (fun _ _ saved => .inr saved) (fun _ _ saved => .inr saved)
  exact wp_final _ body (fun _ _ stopped => stopped) (fun _ _ stopped => stopped)

theorem wp_cleanupCheckRc {x : TxScript (Option TeErrno)} {done : Unit → World → Prop} {failed : Jump → World → Prop}
    (runs : x.wp (fun rc t => rc = none ∧ done () t) failed w) : (cleanupCheckRc x).wp done failed w := by
  refine wp_seq runs ?_ (fun _ _ failure => failure)
  intro rc t ⟨passed, holds⟩
  rw [passed]
  exact holds

/-- The cleanup is about to stage the saved values. The adaptive flag is as it was at first, unless
the last step of the cleanup will set it. -/
structure Armed (env : Env) (profile : Profile) (perQueue : Bool) (initial : Key → Nat) (read : Bool)
    (w : World) : Prop where
  restorable : Restorable profile perQueue initial w
  flag : read = false ∨ initial (adaptiveKey perQueue) = 0 →
    w.settings.committed (adaptiveKey perQueue) = initial (adaptiveKey perQueue)
  quiet : AdaptiveHandled env profile perQueue initial →
    w.settings.committed (adaptiveKey perQueue) = 0 ∧ ∀ record ∈ w.commits, record.adaptive = 0

theorem cleanup_disables (succeed : env.cleanup.Succeed) (saved : Saved env profile perQueue initial w)
    {failed : Jump → World → Prop} :
    (when (w.restoreAdaptiveTx && profileEnablesAdaptiveTx profile)
      (cleanupCheckRc (adaptiveSet perQueue env.cleanup 0))).wp
      (fun _ => Armed env profile perQueue initial w.restoreAdaptiveTx) failed w := by
  have restorable := saved.restorable
  apply wp_when
  · intro both
    obtain ⟨read, enables⟩ := Bool.and_eq_true_iff.mp both
    apply wp_cleanupCheckRc
    simp only [adaptiveSet, succeed.set]
    refine ⟨rfl, restorable.setAdaptive read (.inl enables) 0, ?_, fun handled => ?_⟩
    · rintro (unread | zero)
      · exact Bool.noConfusion (unread.symm.trans read)
      · simp [Staged.set, zero]
    · exact ⟨by simp [Staged.set], (saved.quiet handled).commits⟩
  · intro skipped
    refine ⟨restorable, ?_, fun handled => ?_⟩
    · rintro (unread | zero)
      · exact restorable.unread unread
      · cases read : w.restoreAdaptiveTx with
        | false => exact restorable.unread read
        | true =>
          rw [read, Bool.true_and] at skipped
          exact (restorable.untouched skipped zero).trans zero.symm
    · have quiet := saved.quiet handled
      rw [quiet.read, Bool.true_and] at skipped
      exact ⟨quiet.off skipped, quiet.commits⟩

theorem restored_entries (restorable : Restorable profile perQueue initial w) {target : Key → Nat}
    (same : ∀ key ∈ concreteKeys profile perQueue, target key = initial key) :
    (concreteParams w.params).map (fun param => (paramKey perQueue param, param.prevValue)) =
      (concreteKeys profile perQueue).map (fun key => (key, target key)) := by
  rw [restorable.params, concreteParams_map_saved, concreteKeys, List.map_map, List.map_map]
  apply List.map_congr_left
  intro param member
  have here := same (paramKey perQueue param) (List.mem_map.mpr ⟨param, member, rfl⟩)
  show (paramKey perQueue param, initial (paramKey perQueue param)) = _
  rw [← here]
  rfl

theorem restored_commit (restorable : Restorable profile perQueue initial w) :
    Staged.write w.settings.committed
      (w.settings.staged ++ (concreteParams w.params).map (fun param => (paramKey perQueue param, param.prevValue))) =
      Function.update initial (adaptiveKey perQueue) (w.settings.committed (adaptiveKey perQueue)) := by
  have same : ∀ key ∈ concreteKeys profile perQueue, Function.update initial (adaptiveKey perQueue)
      (w.settings.committed (adaptiveKey perQueue)) key = initial key := by
    intro key member
    apply Function.update_of_ne
    rintro rfl
    exact adaptiveKey_not_concrete member
  rw [restored_entries restorable same]
  apply Staged.write_restore _ restorable.staged
  intro key other
  by_cases flag : key = adaptiveKey perQueue
  · rw [flag, Function.update_self]
  · rw [Function.update_of_ne flag]
    exact restorable.others key other flag

/-- The saved values were put back; the adaptive flag is still to be restored. -/
structure PutBack (env : Env) (profile : Profile) (perQueue : Bool) (initial : Key → Nat) (read : Bool)
    (w : World) : Prop where
  committed : ∃ flag, w.settings.committed = Function.update initial (adaptiveKey perQueue) flag ∧
    (read = false ∨ initial (adaptiveKey perQueue) = 0 → flag = initial (adaptiveKey perQueue))
  commits : AdaptiveHandled env profile perQueue initial → ∀ record ∈ w.commits, record.adaptive = 0

theorem cleanup_puts_back (succeed : env.cleanup.Succeed) {read : Bool}
    (armed : Armed env profile perQueue initial read w) {next : TxScript Unit} {done : Unit → World → Prop}
    {failed : Jump → World → Prop}
    (rest : ∀ t, PutBack env profile perQueue initial read t → next.wp done failed t) :
    (do cleanupCheckRc (setCoalesceParamsLocally perQueue env.cleanup true w.params)
        cleanupCheckRc (queuesCommit perQueue env.cleanup)
        next : TxScript Unit).wp done failed w := by
  have restorable := armed.restorable
  rw [wp_bind]
  apply wp_cleanupCheckRc
  simp only [Script.wp, setLocally_run succeed.setLocal, if_true, true_and]
  apply (wp_bind _ _).mpr
  apply wp_cleanupCheckRc
  simp only [queuesCommit, succeed.commit]
  refine ⟨rfl, rest _ ⟨?_, fun handled record member => ?_⟩⟩
  · have all : ∀ entry ∈ w.settings.staged ++ (concreteParams w.params).map (fun param =>
        (paramKey perQueue param, param.prevValue)), commits perQueue entry.1 = true := by
      intro entry member
      rcases List.mem_append.mp member with earlier | last
      · exact restorable.commits_staged entry earlier
      · obtain ⟨param, -, rfl⟩ := List.mem_map.mp last
        exact commits_paramKey param
    refine ⟨w.settings.committed (adaptiveKey perQueue), ?_, armed.flag⟩
    show Staged.write w.settings.committed (Staged.chosen _ (commits perQueue)) = _
    rw [Staged.chosen_eq_staged all]
    exact restored_commit restorable
  · obtain ⟨off, earlier⟩ := armed.quiet handled
    rcases List.mem_append.mp member with before | last
    · exact earlier record before
    · rw [List.mem_singleton.mp last]
      exact off

def Restored (env : Env) (profile : Profile) (perQueue : Bool) (initial : Key → Nat) (w : World) : Prop :=
  w.settings.committed = initial ∧
    (AdaptiveHandled env profile perQueue initial → ∀ record ∈ w.commits, record.adaptive = 0)

theorem cleanup_adaptive (succeed : env.cleanup.Succeed) {read : Bool}
    (back : PutBack env profile perQueue initial read w) {prevAdaptiveTx : Nat}
    (known : read = true → prevAdaptiveTx = initial (adaptiveKey perQueue)) {failed : Jump → World → Prop} :
    (when (read && prevAdaptiveTx != 0) (cleanupCheckRc (adaptiveSet perQueue env.cleanup prevAdaptiveTx))).wp
      (fun _ => Restored env profile perQueue initial) failed w := by
  obtain ⟨flag, committed, same⟩ := back.committed
  apply wp_when
  · intro both
    obtain ⟨here, -⟩ := Bool.and_eq_true_iff.mp both
    apply wp_cleanupCheckRc
    simp only [adaptiveSet, succeed.set]
    refine ⟨rfl, ?_, back.commits⟩
    show Function.update w.settings.committed (adaptiveKey perQueue) prevAdaptiveTx = initial
    rw [committed, Function.update_idem, known here, Function.update_eq_self]
  · intro skipped
    refine ⟨?_, back.commits⟩
    have unchanged : flag = initial (adaptiveKey perQueue) := by
      apply same
      cases read with
      | false => exact .inl rfl
      | true =>
        rw [← known rfl]
        exact .inr (by simpa using skipped)
    rw [committed, unchanged, Function.update_eq_self]

theorem cleanup_restores (succeed : env.cleanup.Succeed) (stopped : Stopped env profile perQueue initial w)
    {failed : Jump → World → Prop} :
    (cleanup env profile perQueue).wp
      (fun _ => Restored env profile perQueue initial) failed w := by
  unfold cleanup
  rw [wp_bind, wp_gets]
  rcases stopped with unsaved | saved
  · rw [unsaved.restore]
    exact ⟨unsaved.committed, by simp [unsaved.commits]⟩
  · rw [saved.restorable.restore]
    simp only [if_true, wp_bind, wp_gets]
    have params : ∀ t, Armed env profile perQueue initial w.restoreAdaptiveTx t → t.params = w.params :=
      fun t armed => armed.restorable.params.trans saved.restorable.params.symm
    apply wp_weaken (cleanup_disables succeed saved)
    intro _ t armed
    rw [← params t armed]
    apply cleanup_puts_back succeed armed
    intro u back
    exact cleanup_adaptive succeed back saved.restorable.read

end

/-- Whatever fails in the test, its cleanup leaves every coalescing parameter with its initial value, and
where the adaptive flag was read and disabled, no commit was issued with it on. -/
theorem main_restores (env : Env) (profile : Profile) (perQueue : Bool) (initial : Key → Nat)
    (succeed : env.cleanup.Succeed) :
    let final := (main env profile perQueue (World.start profile initial)).2
    final.settings.committed = initial ∧
      (AdaptiveHandled env profile perQueue initial → ∀ record ∈ final.commits, record.adaptive = 0) := by
  have stopped := testBody_stopped env profile perQueue initial
  have whole : (main env profile perQueue).wp (fun _ => Restored env profile perQueue initial)
      (fun _ => Restored env profile perQueue initial)
      (World.start profile initial) := by
    unfold main
    rw [wp_bind]
    show (cleanup env profile perQueue >>= fun _ => ofExcept _).wp _ _ _
    apply wp_seq (cleanup_restores succeed stopped) _ (fun _ _ restored => restored)
    exact fun _ t restored => wp_ofExcept_any (fun _ => restored) (fun _ => restored)
  exact wp_final _ whole (fun _ _ restored => restored) (fun _ _ restored => restored)

/-- A device with the adaptive mode on that refuses to be switched back to it by the test. -/
def refusingEnable : Env where
  supportGet := none
  saveGet _ := none
  adaptiveGet := none
  body := ⟨fun value => if value = 1 then some TeError.einval else none, fun _ => none, none⟩
  readBack _ := .ok 0
  cleanup := ⟨fun _ => none, fun _ => none, none⟩
  rcText _ := "EINVAL"

/-- The test ends with a verdict after the rates were committed, and everything is restored. -/
theorem main_restores_refusingEnable :
    let final := (main refusingEnable .adaptiveRate true (World.start .adaptiveRate (fun _ => 7))).2
    final.settings.committed = (fun _ => 7) ∧ (final.commits.map CommitRecord.adaptive = [0, 0]) ∧
      ∀ record ∈ final.commits, record.adaptive = 0 := by
  have restored := main_restores refusingEnable .adaptiveRate true (fun _ => 7)
    ⟨fun _ => rfl, fun _ => rfl, rfl⟩
  exact ⟨restored.1, by decide, restored.2 ⟨rfl, fun _ => rfl⟩⟩

end NetDrv.TxCoalesce
