import NetDrv.Phy.BenchTests

/-! Checks against the link, and library calls between them. A check whose expected value
is what a conforming link reports keeps the verdicts in step with the reports, and a call
on one side changes what is known of that side only. -/

namespace NetDrv.Phy
open Script

/-! What a check keeps, it keeps through its questions and through its judgement. -/

section
variable {inv : Bench → Prop} (ticks : ∀ bench, inv bench → inv bench.tick)

theorem keeps_checkRc {α : Type} (result : Except TeErrno α) : (checkRc result).Keeps inv := by
  cases result with
  | ok value => exact fun _ holds => holds
  | error rc => exact fun _ holds => holds

include ticks

theorem keeps_ask {α : Type} (question : Nat → α) : (ask question).Keeps inv := ticks

theorem keeps_asked {α β : Type} (question : Nat → Except TeErrno α) {rest : α → BenchScript β}
    (each : ∀ value, (rest value).Keeps inv) : Script.Keeps inv (do rest (← checkRc (← ask question))) := by
  apply keeps_bind (keeps_ask ticks question)
  intro reply
  exact keeps_bind (keeps_checkRc reply) each

variable {side : Side} (link : Link) (place : Place)

theorem keeps_lpTreeIsExposed (side : Side) : (lpTreeIsExposed link side).Keeps inv := by
  apply keeps_asked ticks
  intro _
  apply keeps_bind (keeps_ask ticks _)
  intro found
  split
  · exact keeps_pure _
  · split
    · exact keeps_pure _
    · exact fun _ holds => holds

theorem keeps_whenExposed {x : BenchScript Unit} (side : Side) (keeps : x.Keeps inv) :
    Script.Keeps inv (do when (← lpTreeIsExposed link side) x) := by
  apply keeps_bind (keeps_lpTreeIsExposed ticks link side)
  intro exposed
  cases exposed with
  | false => exact keeps_pure _
  | true => exact keeps

theorem keeps_checkAutonegState {expected : Autoneg}
    (judges : ∀ autoneg, (judge side (.autoneg autoneg) (autoneg != expected)
      (.autoneg place autoneg expected)).Keeps inv) :
    (checkAutonegState link place side expected).Keeps inv := keeps_asked ticks _ judges

theorem keeps_checkLpAutonegState {expected : Autoneg}
    (judges : ∀ lpAutoneg, (judge side (.lpAutoneg lpAutoneg) (lpAutoneg != expected)
      (.lpAutoneg place lpAutoneg expected)).Keeps inv) :
    (checkLpAutonegState link place side expected).Keeps inv := by
  apply keeps_whenExposed ticks
  apply keeps_asked ticks
  exact fun _ => keeps_asked ticks _ judges

theorem keeps_checkOperMode {expectedSpeed : Speed} {expectedDuplex : Duplex}
    (judges : ∀ speed duplex, (judge side (.modeOper speed duplex) (speed != expectedSpeed || duplex != expectedDuplex)
      (.operMode place speed duplex expectedSpeed expectedDuplex)).Keeps inv) :
    (checkOperMode link place side expectedSpeed expectedDuplex).Keeps inv :=
  keeps_asked ticks _ (fun pair => judges pair.1 pair.2)

theorem keeps_checkLocalModeAdvertised {modeName : String} {expected : Bool}
    (judges : ∀ advertised, (judge side (.modeAdv modeName advertised) (advertised != expected)
      (.localMode place modeName advertised)).Keeps inv) :
    (checkLocalModeAdvertised link place side modeName expected).Keeps inv := keeps_asked ticks _ judges

theorem keeps_checkPartnerModeAdvertised {modeName : String} {expected : Bool}
    (judges : ∀ advertised, (judge side (.lpAdvertised modeName advertised) (advertised != expected)
      (.partnerMode place advertised)).Keeps inv) :
    (checkPartnerModeAdvertised link place side modeName expected).Keeps inv := by
  apply keeps_whenExposed ticks
  apply keeps_asked ticks
  exact fun _ => keeps_asked ticks _ judges

theorem keeps_waitUp (side : Side) : (waitUp link side).Keeps inv := by
  apply keeps_bind (keeps_ask ticks _)
  intro reply
  cases reply with
  | ok _ => exact keeps_pure _
  | error rc => exact fun _ holds => holds

theorem keeps_connCheck : (connCheck link).Keeps inv := by
  apply keeps_bind (keeps_ask ticks _)
  intro sent
  refine keeps_bind (keeps_ofExcept sent) ?_
  intro _
  apply keeps_bind (keeps_ask ticks _)
  intro back
  exact keeps_ofExcept back

theorem keeps_restart (ifDown : Bool) : Script.Keeps inv (when ifDown (do
    checkRc (← ask (fun moment => link.ifDown moment .iut))
    checkRc (← ask (fun moment => link.ifUp moment .iut)))) := by
  cases ifDown with
  | false => exact keeps_pure _
  | true =>
    apply keeps_asked ticks
    intro _
    apply keeps_bind (keeps_ask ticks _)
    intro up
    exact keeps_checkRc up

theorem keeps_checkTpPortOrSkip (side : Side) : (checkTpPortOrSkip link side).Keeps inv :=
  keeps_asked ticks _ (fun _ => keeps_when_fail _ _)

end

/-- Whether a report is what the end of a link is to report. -/
def Observation.Agrees (observation : Observation) : Prop :=
  match observation.report with
  | .autoneg value => value = observation.own.autoneg
  | .modeAdv name value => value = observation.own.advertised name
  | .lpAutoneg value => value = observation.peer.autoneg
  | .lpAdvertised name value => value = observation.peer.offers name
  | .modeOper speed duplex => Resolves observation.own observation.peer (speed, duplex)

/-- Whether the error verdict is that of a check; the cleanup has one of its own. -/
def Verdict.ofCheck : Verdict → Bool
  | .notUp _ => false
  | _ => true

/-- There is a verdict of a check if and only if some report was wrong. -/
def Bench.Judged (bench : Bench) : Prop :=
  (∀ verdict ∈ bench.verdicts, verdict.ofCheck = false) ↔ ∀ observation ∈ bench.seen, observation.Agrees

structure Checks (before after : Bench) : Prop where
  cfg : after.cfg = before.cfg
  seen : before.seen <+: after.seen
  judged : before.Judged → after.Judged

theorem Checks.refl (bench : Bench) : Checks bench bench := ⟨rfl, List.prefix_rfl, id⟩

theorem Checks.trans {bench1 bench2 bench3 : Bench} (first : Checks bench1 bench2) (next : Checks bench2 bench3) :
    Checks bench1 bench3 :=
  ⟨next.cfg.trans first.cfg, first.seen.trans next.seen, next.judged ∘ first.judged⟩

theorem Checks.tick {before : Bench} (bench : Bench) (checks : Checks before bench) : Checks before bench.tick :=
  ⟨checks.cfg, checks.seen, checks.judged⟩

/-- The check expects what a conforming link reports in these configurations. -/
def Check.Correct (bench : Bench) : Check → Prop
  | .autonegState _ side expected => (bench.cfg side).tree.autoneg = expected
  | .lpAutonegState _ side expected => (bench.cfg side.peer).tree.autoneg = expected
  | .operMode _ side speed duplex => Resolves (bench.cfg side).tree (bench.cfg side.peer).tree (speed, duplex)
  | .localModeAdvertised _ side modeName expected => (bench.cfg side).tree.advertised modeName = expected
  | .partnerModeAdvertised _ side modeName expected => (bench.cfg side.peer).tree.offers modeName = expected

def Checking {α : Type} (before : Bench) (x : BenchScript α) : Prop := x.Keeps (Checks before)

section
variable {before : Bench} {side : Side}

theorem checking_judge {report : Report} {wrong : Bool} {verdict : Verdict} (own : verdict.ofCheck = true)
    (oracle : wrong = false ↔ Observation.Agrees ⟨side, (before.cfg side).tree, (before.cfg side.peer).tree, report⟩) :
    Checking before (judge side report wrong verdict) := by
  intro bench checks
  have noted : (bench.note side report).seen =
      bench.seen ++ [⟨side, (before.cfg side).tree, (before.cfg side.peer).tree, report⟩] := by
    rw [Bench.note, checks.cfg]
  have longer : before.seen <+: (bench.note side report).seen := by
    rw [noted]
    exact checks.seen.trans (List.prefix_append _ _)
  cases wrong with
  | false =>
    refine ⟨checks.cfg, longer, ?_⟩
    intro judged
    have told : (∀ verdict ∈ bench.verdicts, verdict.ofCheck = false) ↔
        ∀ observation ∈ bench.seen, observation.Agrees := checks.judged judged
    change (∀ verdict ∈ bench.verdicts, verdict.ofCheck = false) ↔
      ∀ observation ∈ (bench.note side report).seen, observation.Agrees
    rw [noted, List.forall_mem_append, List.forall_mem_singleton, told]
    exact (and_iff_left (oracle.mp rfl)).symm
  | true =>
    refine ⟨checks.cfg, longer, ?_⟩
    intro judged
    change (∀ other ∈ bench.verdicts ++ [verdict], other.ofCheck = false) ↔
      ∀ observation ∈ (bench.note side report).seen, observation.Agrees
    rw [noted, List.forall_mem_append, List.forall_mem_append, List.forall_mem_singleton, List.forall_mem_singleton,
      ← oracle, own]
    simp

variable (link : Link)

theorem wrong_iff {α : Type} [DecidableEq α] {value expected right : α} (correct : right = expected) :
    (value != expected) = false ↔ value = right := by
  rw [bne_eq_false_iff_eq, correct]

theorem checking_run (check : Check) (correct : check.Correct before) : Checking before (check.run link) := by
  cases check with
  | autonegState place side expected =>
    apply keeps_checkAutonegState Checks.tick
    intro autoneg
    exact checking_judge rfl (wrong_iff correct)
  | lpAutonegState place side expected =>
    apply keeps_checkLpAutonegState Checks.tick
    intro lpAutoneg
    exact checking_judge rfl (wrong_iff correct)
  | operMode place side expectedSpeed expectedDuplex =>
    apply keeps_checkOperMode Checks.tick
    intro speed duplex
    apply checking_judge rfl
    change _ ↔ Resolves (before.cfg side).tree (before.cfg side.peer).tree (speed, duplex)
    simp only [Bool.or_eq_false_iff, bne_eq_false_iff_eq]
    constructor
    · intro ⟨same, same'⟩
      rw [same, same']
      exact correct
    · intro found
      exact Prod.mk.inj (found.unique correct)
  | localModeAdvertised place side modeName expected =>
    apply keeps_checkLocalModeAdvertised Checks.tick
    intro advertised
    exact checking_judge rfl (wrong_iff correct)
  | partnerModeAdvertised place side modeName expected =>
    apply keeps_checkPartnerModeAdvertised Checks.tick
    intro advertised
    exact checking_judge rfl (wrong_iff correct)

end

/-- Under which configurations the operational mode of a side was reported. -/
def Bench.ReportsMode (bench : Bench) (side : Side) (own peer : PhyTree) : Prop :=
  ∃ speed duplex, ⟨side, own, peer, .modeOper speed duplex⟩ ∈ bench.seen

section
variable {before bench : Bench} (link : Link)

theorem Checks.reportsMode {after : Bench} (checks : Checks bench after) {side : Side} {own peer : PhyTree}
    (reports : bench.ReportsMode side own peer) : after.ReportsMode side own peer := by
  obtain ⟨speed, duplex, mem⟩ := reports
  exact ⟨speed, duplex, checks.seen.subset mem⟩

theorem wp_ask {α : Type} {done : α → Bench → Prop} {failed : Jump → Bench → Prop} (question : Nat → α) :
    (ask question).wp done failed bench ↔ done (question bench.moment) bench.tick := Iff.rfl

theorem checkOperMode_reports (place : Place) (side : Side) (speed : Speed) (duplex : Duplex) :
    (checkOperMode link place side speed duplex).wp (fun _ after =>
      after.ReportsMode side (bench.cfg side).tree (bench.cfg side.peer).tree) (fun _ _ => True) bench := by
  unfold checkOperMode
  rw [wp_bind, wp_ask, wp_bind]
  cases link.modeOperGet bench.moment side with
  | error rc => trivial
  | ok pair =>
    change Script.wp (judge side (.modeOper pair.1 pair.2) _ _) _ _ bench.tick
    unfold judge
    rw [wp_bind, wp_update]
    have mem : ⟨side, (bench.cfg side).tree, (bench.cfg side.peer).tree, .modeOper pair.1 pair.2⟩ ∈
        (bench.tick.note side (.modeOper pair.1 pair.2)).seen :=
      List.mem_append_right _ (List.mem_singleton.mpr rfl)
    apply wp_when
    · exact fun _ => ⟨pair.1, pair.2, mem⟩
    · exact fun _ => ⟨pair.1, pair.2, mem⟩

/-- The configurations under which a list of checks has asked for operational modes. -/
def Reported (before : Bench) (checks : List Check) (after : Bench) : Prop :=
  ∀ place side speed duplex, .operMode place side speed duplex ∈ checks →
    after.ReportsMode side (before.cfg side).tree (before.cfg side.peer).tree

theorem checks_wp {checks : List Check} (correct : ∀ check ∈ checks, check.Correct before) :
    (forEach checks (Check.run link)).wp (fun _ after => Checks before after ∧ Reported before checks after)
      (fun _ => Checks before) before := by
  refine wp_forEach (fun made now => Checks before now ∧ Reported before made now) checks ?_
    ⟨Checks.refl before, fun _ _ _ _ mem => nomatch mem⟩
  intro made check rest now whole ⟨soFar, reported⟩
  have member : check ∈ checks := by simp [whole]
  have kept : (check.run link).wp (fun _ => Checks before) (fun _ => Checks before) now :=
    keeps_iff_wp.mp (checking_run link check (correct check member)) now soFar
  have grown : (check.run link).wp (fun _ after => now.seen <+: after.seen) (fun _ _ => True) now := by
    have here : check.Correct now := by
      cases check <;> simpa only [Check.Correct, soFar.cfg] using correct _ member
    exact wp_mono (keeps_iff_wp.mp (checking_run link check here) now (Checks.refl now))
      (fun _ _ checks => checks.seen) (fun _ _ _ => trivial)
  have asked : (check.run link).wp (fun _ after => ∀ place side speed duplex, check = .operMode place side speed duplex →
      after.ReportsMode side (before.cfg side).tree (before.cfg side.peer).tree) (fun _ _ => True) now := by
    cases check with
    | operMode place side speed duplex =>
      apply wp_weaken (checkOperMode_reports link place side speed duplex)
      intro _ after reports _ _ _ _ same
      cases same
      rw [← soFar.cfg]
      exact reports
    | _ =>
      apply wp_mono kept
      · exact fun _ _ _ _ _ _ _ same => nomatch same
      · exact fun _ _ _ => trivial
  apply wp_mono (wp_and (wp_and kept grown) asked)
  · intro _ after ⟨⟨kept, grown⟩, asked⟩
    refine ⟨kept, ?_⟩
    intro place side speed duplex mem
    rcases List.mem_append.mp mem with early | last
    · obtain ⟨speed, duplex, seen⟩ := reported place side speed duplex early
      exact ⟨speed, duplex, grown.subset seen⟩
    · exact asked place side speed duplex (List.mem_singleton.mp last).symm
  · exact fun _ after ⟨⟨kept, _⟩, _⟩ => kept

end

section
variable {answer : Nat → Command → Option TeErrno} {cfg : Cfg}

theorem autonegGet_opened (opened : cfg.opened = true) {α : Type} (rest : Autoneg → PhyScript α) :
    (autonegGet answer >>= rest).wp (fun _ _ => False)
      (fun _ after => after.tree = cfg.tree ∧ after.staged = cfg.staged) cfg := by
  have get : autonegGet answer cfg = (.error (teRc .cs .eacces), cfg.record (.get .autoneg true)) := by
    simp only [autonegGet, cfgGet, opened, if_true]
  unfold Script.wp
  rw [bind_error get]
  exact ⟨rfl, rfl⟩

theorem Call.run_opened (opened : cfg.opened = true) (state : SavedState) (call : Call) :
    (call.run answer state).wp (fun _ _ => False)
      (fun _ after => after.tree = cfg.tree ∧ after.staged = cfg.staged) cfg := by
  have opened' : cfg.entered.opened = true := opened
  cases call with
  | autonegModes mode1Name mode2Name => exact wp_enterCall (autonegGet_opened opened' _)
  | fixedMode speed duplex => exact wp_enterCall (autonegGet_opened opened' _)
  | restore =>
    apply wp_enterCall
    refine wp_seq (cfgRead_wp (Reads.refl cfg.entered) .sync rfl (by simp) _) ?_
      (fun _ after reads => ⟨reads.tree, reads.staged⟩)
    rintro _ synced ⟨-, reads⟩
    have still : synced.opened = true := by
      rw [Cfg.opened, reads.staged]
      exact opened
    apply wp_mono (autonegGet_opened still _) (fun _ _ never => never)
    rintro rc after ⟨tree, staged⟩
    exact ⟨tree.trans reads.tree, staged.trans reads.staged⟩

theorem Call.run_any_wp (state : SavedState) (call : Call) :
    (call.run answer state).wp (fun _ after => after.tree = cfg.tree.applyAll (call.settings state cfg.tree))
      (fun _ after => after.tree = cfg.tree) cfg := by
  by_cases closed : cfg.staged = []
  · exact wp_mono (Call.run_wp answer closed state call) (fun _ _ finished => finished.tree)
      (fun _ _ stopped => stopped.tree)
  · have opened : cfg.opened = true := by simpa [Cfg.opened] using closed
    exact wp_mono (Call.run_opened opened state call) (fun _ _ never => never.elim) (fun _ _ same => same.1)

theorem stateSave_any_wp : (stateSave answer).wp
    (fun state after => state = snapshot cfg.tree ∧ after.tree = cfg.tree ∧ after.staged = cfg.staged)
    (fun _ after => after.tree = cfg.tree ∧ after.staged = cfg.staged) cfg := by
  by_cases closed : cfg.staged = []
  · exact wp_mono (stateSave_wp closed) (fun _ _ saved => ⟨saved.1, saved.2.tree, saved.2.staged⟩)
      (fun _ _ reads => ⟨reads.tree, reads.staged⟩)
  · have opened : cfg.opened = true := by simpa [Cfg.opened] using closed
    have opened' : cfg.entered.opened = true := opened
    apply wp_enterCall
    exact wp_mono (autonegGet_opened opened' _) (fun _ _ never => never.elim) (fun _ _ same => same)

end

/-- What is known of the configurations committed on the two sides, some time after the reports of `past`. -/
structure Bench.Holds (past : List Observation) (held : Side → PhyTree → Prop) (bench : Bench) : Prop where
  trees : ∀ side, held side (bench.cfg side).tree
  judged : bench.Judged
  seen : past <+: bench.seen

def heldOn (side : Side) (now : PhyTree → Prop) (held : Side → PhyTree → Prop) (other : Side) : PhyTree → Prop :=
  if other = side then now else held other

section
variable {answer : Side → Nat → Command → Option TeErrno} {bench : Bench} {past : List Observation}
  {held : Side → PhyTree → Prop}

theorem onSide_wp {α : Type} {call : PhyScript α} {done : Except TeErrno α → Bench → Prop} {failed : Jump → Bench → Prop}
    (side : Side) (holds : call.wp (fun a after => done (.ok a) (bench.setCfg side after))
      (fun rc after => done (.error rc) (bench.setCfg side after)) (bench.cfg side)) :
    (onSide side call).wp done failed bench := by
  rw [onSide, wp_zoom, wp_attempt]
  exact holds

theorem Bench.Holds.setCfg (holds : bench.Holds past held) {side : Side} {cfg : Cfg} {now : PhyTree → Prop}
    (here : now cfg.tree) : (bench.setCfg side cfg).Holds past (heldOn side now held) := by
  refine ⟨?_, holds.judged, holds.seen⟩
  intro other
  unfold heldOn Bench.setCfg
  by_cases same : other = side
  · simpa only [if_pos same] using here
  · simpa only [if_neg same] using holds.trees other

theorem Checks.holds {after : Bench} (checks : Checks bench after) (holds : bench.Holds past held) : after.Holds past held := by
  refine ⟨?_, checks.judged holds.judged, holds.seen.trans checks.seen⟩
  rw [checks.cfg]
  exact holds.trees

theorem call_wp (answer : Side → Nat → Command → Option TeErrno) (holds : bench.Holds past held) (side : Side)
    (state : SavedState) (call : Call) {now : PhyTree → Prop}
    (effect : ∀ tree, held side tree → now (tree.applyAll (call.settings state tree))) :
    (onSide side (call.run (answer side) state)).wp (fun status after =>
      (status = .ok () → after.Holds past (heldOn side now held)) ∧ ∀ rc, status = .error rc → after.Holds past held)
      (fun _ _ => False) bench := by
  apply onSide_wp
  apply wp_mono (Call.run_any_wp state call)
  · intro _ after tree
    refine ⟨fun _ => holds.setCfg ?_, fun _ wrong => nomatch wrong⟩
    rw [tree]
    exact effect _ (holds.trees side)
  · intro rc after tree
    refine ⟨fun wrong => (nomatch wrong), fun _ _ => ⟨?_, holds.judged, holds.seen⟩⟩
    intro other
    unfold Bench.setCfg
    by_cases same : other = side
    · simp only [if_pos same]
      rw [tree, same]
      exact holds.trees side
    · simp only [if_neg same]
      exact holds.trees other

theorem stateSaveOrSkip_wp {base : Side → PhyTree} (holds : bench.Holds past (fun side tree => tree = base side))
    (who : String) (side : Side) :
    (stateSaveOrSkip answer who side).wp (fun state after => state = snapshot (base side) ∧
      after.Holds past (fun side tree => tree = base side)) (fun _ after => after.Judged) bench := by
  have same : ∀ cfg, cfg.tree = (bench.cfg side).tree → (bench.setCfg side cfg).Holds past (fun side tree => tree = base side) := by
    intro cfg tree
    refine ⟨?_, holds.judged, holds.seen⟩
    intro other
    unfold Bench.setCfg
    by_cases here : other = side
    · simp only [if_pos here]
      rw [tree, here]
      exact holds.trees side
    · simp only [if_neg here]
      exact holds.trees other
  unfold stateSaveOrSkip
  rw [wp_bind]
  apply onSide_wp
  apply wp_mono stateSave_any_wp
  · intro state after ⟨taken, tree, _⟩
    refine ⟨?_, (same after tree).trees, holds.judged, holds.seen⟩
    rw [taken, holds.trees side]
  · intro rc after tree
    change Script.wp (if _ then _ else _) _ _ _
    split <;> exact holds.judged

theorem testPhyApplyAutonegModes_wp {base : Side → PhyTree} (holds : bench.Holds past held) (side : Side)
    (same : ∀ tree, held side tree → tree.names = (base side).names) (prefMode : String) (fallbackMode : Option String)
    (place : String) :
    (testPhyApplyAutonegModes answer side (snapshot (base side)) prefMode fallbackMode place).wp
      (fun _ after => after.Holds past (heldOn side (Advertising (base side) (namedWanted prefMode fallbackMode)) held))
      (fun _ after => after.Judged) bench := by
  have called := call_wp answer holds side (snapshot (base side)) (.autonegModes prefMode fallbackMode)
    (fun tree here => autonegModes_advertising (same tree here) prefMode fallbackMode)
  refine wp_seq called ?_ (fun _ _ never => never.elim)
  intro status after ⟨done, refused⟩
  cases status with
  | ok _ => exact done rfl
  | error rc =>
    change Script.wp (if _ then _ else _) _ _ _
    split <;> exact (refused rc rfl).judged

end

end NetDrv.Phy
