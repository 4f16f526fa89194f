import NetDrv.Phy.BenchChecks

/-! The verdicts of the PHY tests. Each check of a test compares a report with a value
written down in the test; these values are proved to be what the ends of a link are to
report under the configurations committed at that moment, so that a run leaves an error
verdict behind if and only if it was told something a conforming link would not tell. -/

namespace NetDrv.Phy
open Script

structure CommonMode (base : Side → PhyTree) (mode : ModeInfo) : Prop where
  named : ∀ side, mode.name ∈ (base side).names
  link : isLinkName mode.name = true
  pair : modePair mode.name = mode.pair

/-- What `autoneg_advertise` has chosen. -/
structure Chosen (base : Side → PhyTree) (pref fallback : ModeInfo) : Prop where
  prefCommon : CommonMode base pref
  fallbackCommon : CommonMode base fallback
  above : PairOutranks pref.pair fallback.pair

theorem modePair_ofName (name : String) (advertised : Bool) :
    modePair name = (ModeInfo.ofName name advertised).pair := by
  unfold modePair ModeInfo.ofName
  split <;> rfl

theorem snapshot_unique (tree : PhyTree) : ((snapshot tree).modes.map ModeInfo.name).Nodup := by
  have names : (snapshot tree).modes.map ModeInfo.name = tree.names := by
    simp [snapshot, Function.comp_def]
  rw [names]
  exact tree.unique

section
variable {base : Side → PhyTree} {pref fallback : ModeInfo}

theorem commonMode_of_snapshots {mode peer : ModeInfo} (here : mode ∈ (snapshot (base .iut)).modes)
    (there : peer ∈ (snapshot (base .tst)).modes) (same : peer.name = mode.name) (link : isLinkMode mode = true) :
    CommonMode base mode := by
  obtain ⟨name, named, rfl⟩ := List.mem_map.mp here
  obtain ⟨name', named', rfl⟩ := List.mem_map.mp there
  rw [ofName_name, ofName_name] at same
  refine ⟨?_, ?_, ?_⟩
  · intro side
    rw [ofName_name]
    cases side with
    | iut => exact named
    | tst => exact same ▸ named'
  · rw [ofName_name, ← isLinkMode_ofName name ((base .iut).advertised name)]
    exact link
  · rw [ofName_name]
    exact modePair_ofName name _

theorem commonMode_of_mem {mode : ModeInfo} (mem : mode ∈ commonModes (snapshot (base .iut)) (snapshot (base .tst))) :
    CommonMode base mode := by
  simp only [commonModes, List.mem_filter, Bool.and_eq_true, SavedState.advertises, List.any_eq_true,
    decide_eq_true_eq] at mem
  obtain ⟨here, ⟨link, -⟩, peer, there, ⟨same, -⟩, -⟩ := mem
  exact commonMode_of_snapshots here there same link

theorem twoHighest_of_chooseModes {iut tst : PhyTree} {pref fallback : ModeInfo}
    (choice : chooseModes (snapshot iut) (snapshot tst) = .ok (pref, fallback)) :
    TwoHighest (commonModes (snapshot iut) (snapshot tst)) pref fallback := by
  rcases chooseModes_cases (snapshot iut) (snapshot_unique tst) with ⟨pref', fallback', -, highest, -, chosen⟩ | ⟨-, skipped⟩
  · rw [chosen] at choice
    obtain ⟨rfl, rfl⟩ := Prod.mk.inj (Except.ok.inj choice)
    exact highest
  · rw [skipped] at choice
    cases choice

theorem chosen_of_chooseModes (run : chooseModes (snapshot (base .iut)) (snapshot (base .tst)) = .ok (pref, fallback)) :
    Chosen base pref fallback := by
  have highest := twoHighest_of_chooseModes run
  have first := List.mem_of_find?_eq_some highest.pref_first
  have second := List.mem_of_find?_eq_some highest.fallback_first
  exact ⟨commonMode_of_mem first, commonMode_of_mem second,
    highest.pref_highest fallback second highest.fallback_lower⟩

theorem Chosen.pair_ne (chosen : Chosen base pref fallback) : pref.pair ≠ fallback.pair := by
  intro same
  have above := chosen.above
  rw [same] at above
  exact above.asymm above

theorem Chosen.name_ne (chosen : Chosen base pref fallback) : pref.name ≠ fallback.name := by
  intro same
  apply chosen.pair_ne
  rw [← chosen.prefCommon.pair, ← chosen.fallbackCommon.pair, same]

theorem Advertising.offers {root tree : PhyTree} {wanted : String → Bool} (advertising : Advertising root wanted tree)
    (name : String) : tree.offers name = (root.names.contains name && isLinkName name && wanted name) := by
  unfold PhyTree.offers
  rw [advertising.autoneg, advertising.names]
  by_cases member : name ∈ root.names
  · by_cases link : isLinkName name = true
    · simp [advertising.advertised name member link]
    · simp [link]
  · simp [member]

theorem Advertising.offers_common {side : Side} {tree : PhyTree} {wanted : String → Bool} {mode : ModeInfo}
    (advertising : Advertising (base side) wanted tree) (common : CommonMode base mode) :
    tree.offers mode.name = wanted mode.name := by
  rw [advertising.offers]
  simp [common.named side, common.link]

theorem Advertising.advertised_common {side : Side} {tree : PhyTree} {wanted : String → Bool} {mode : ModeInfo}
    (advertising : Advertising (base side) wanted tree) (common : CommonMode base mode) :
    tree.advertised mode.name = wanted mode.name :=
  advertising.advertised mode.name (common.named side) common.link

theorem HighestOffered.symm {own peer : PhyTree} {pair : Speed × Duplex} (highest : HighestOffered own peer pair) :
    HighestOffered peer own pair := by
  obtain ⟨name, mine, yours, same⟩ := highest.offered
  exact ⟨⟨name, yours, mine, same⟩, fun name mine yours => highest.highest name yours mine⟩

theorem highest_pref (chosen : Chosen base pref fallback) {side side' : Side} {own peer : PhyTree}
    (mine : Advertising (base side) (namedWanted pref.name (some fallback.name)) own)
    (yours : Advertising (base side') (namedWanted pref.name (some fallback.name)) peer) :
    HighestOffered own peer pref.pair := by
  have wanted : namedWanted pref.name (some fallback.name) pref.name = true := by simp [namedWanted]
  refine ⟨⟨pref.name, ?_, ?_, chosen.prefCommon.pair⟩, ?_⟩
  · rw [mine.offers_common chosen.prefCommon, wanted]
  · rw [yours.offers_common chosen.prefCommon, wanted]
  · intro name offered _ differs
    rw [mine.offers] at offered
    simp only [namedWanted, Bool.and_eq_true, Bool.or_eq_true, beq_iff_eq, Option.some.injEq] at offered
    rcases offered.2 with rfl | rfl
    · exact absurd chosen.prefCommon.pair differs
    · rw [chosen.fallbackCommon.pair]
      exact chosen.above

theorem highest_fallback (chosen : Chosen base pref fallback) {side side' : Side} {own peer : PhyTree}
    (mine : Advertising (base side) (namedWanted fallback.name none) own)
    (yours : Advertising (base side') (namedWanted pref.name (some fallback.name)) peer) :
    HighestOffered own peer fallback.pair := by
  refine ⟨⟨fallback.name, ?_, ?_, chosen.fallbackCommon.pair⟩, ?_⟩
  · rw [mine.offers_common chosen.fallbackCommon]
    simp [namedWanted]
  · rw [yours.offers_common chosen.fallbackCommon]
    simp [namedWanted]
  · intro name offered _ differs
    rw [mine.offers] at offered
    simp only [namedWanted, Bool.and_eq_true, Bool.or_eq_true, beq_iff_eq, reduceCtorEq, or_false] at offered
    rw [offered.2] at differs
    exact absurd chosen.fallbackCommon.pair differs

theorem resolves_on {own peer : PhyTree} {pair : Speed × Duplex} (mine : own.autoneg = .on) (yours : peer.autoneg = .on)
    (highest : HighestOffered own peer pair) : Resolves own peer pair := by
  simpa only [Resolves, mine, yours] using highest

theorem Forced.resolves {own peer : PhyTree} {speed : Speed} {duplex : Duplex} (forced : Forced speed duplex own) :
    Resolves own peer (speed, duplex) := by
  simp only [Resolves, forced.autoneg, forced.speedAdmin, forced.duplexAdmin]

end

def BothOffered (base : Side → PhyTree) (pref fallback : ModeInfo) (side : Side) : PhyTree → Prop :=
  Advertising (base side) (namedWanted pref.name (some fallback.name))

def PrefWithdrawn (base : Side → PhyTree) (pref fallback : ModeInfo) (changed : Side) : Side → PhyTree → Prop :=
  heldOn changed (Advertising (base changed) (namedWanted fallback.name none)) (BothOffered base pref fallback)

section
variable {base : Side → PhyTree} {pref fallback : ModeInfo} {bench : Bench} {past : List Observation} (link : Link)

theorem BothOffered.resolves (chosen : Chosen base pref fallback) {side : Side} {own peer : PhyTree}
    (mine : BothOffered base pref fallback side own) (yours : BothOffered base pref fallback side.peer peer) :
    Resolves own peer (pref.speed, pref.duplex) :=
  resolves_on mine.autoneg yours.autoneg (highest_pref chosen mine yours)

theorem initialSet_correct (chosen : Chosen base pref fallback) (holds : bench.Holds past (BothOffered base pref fallback)) :
    ∀ check ∈ initialSet pref fallback, check.Correct bench := by
  have on : ∀ side, (bench.cfg side).tree.autoneg = .on := fun side => (holds.trees side).autoneg
  have wanted : namedWanted pref.name (some fallback.name) pref.name = true ∧
      namedWanted pref.name (some fallback.name) fallback.name = true := by simp [namedWanted]
  have prefMine : ∀ side, (bench.cfg side).tree.advertised pref.name = true := fun side =>
    ((holds.trees side).advertised_common chosen.prefCommon).trans wanted.1
  have fallbackMine : ∀ side, (bench.cfg side).tree.advertised fallback.name = true := fun side =>
    ((holds.trees side).advertised_common chosen.fallbackCommon).trans wanted.2
  have prefOffered : ∀ side, (bench.cfg side).tree.offers pref.name = true := fun side =>
    ((holds.trees side).offers_common chosen.prefCommon).trans wanted.1
  have fallbackOffered : ∀ side, (bench.cfg side).tree.offers fallback.name = true := fun side =>
    ((holds.trees side).offers_common chosen.fallbackCommon).trans wanted.2
  have resolves : ∀ side, Resolves (bench.cfg side).tree (bench.cfg side.peer).tree (pref.speed, pref.duplex) :=
    fun side => BothOffered.resolves chosen (holds.trees side) (holds.trees side.peer)
  simp only [initialSet, List.forall_mem_cons, List.not_mem_nil, IsEmpty.forall_iff, implies_true, and_true]
  exact ⟨on .iut, on .tst, on .tst, on .iut, prefMine .iut, fallbackMine .iut, prefMine .tst, fallbackMine .tst,
    prefOffered .tst, fallbackOffered .tst, prefOffered .iut, fallbackOffered .iut, resolves .iut, resolves .tst⟩

theorem Side.peer_peer (side : Side) : side.peer.peer = side := by cases side <;> rfl

theorem Side.peer_ne (side : Side) : side.peer ≠ side := by cases side <;> decide

theorem heldOn_same {side : Side} {now : PhyTree → Prop} {held : Side → PhyTree → Prop} {tree : PhyTree}
    (here : heldOn side now held side tree) : now tree := by
  simpa only [heldOn, if_true] using here

theorem heldOn_peer {side : Side} {now : PhyTree → Prop} {held : Side → PhyTree → Prop} {tree : PhyTree}
    (here : heldOn side now held side.peer tree) : held side.peer tree := by
  simpa only [heldOn, if_neg side.peer_ne] using here

theorem PrefWithdrawn.resolves (chosen : Chosen base pref fallback) {changed side : Side} {own peer : PhyTree}
    (mine : PrefWithdrawn base pref fallback changed side own)
    (yours : PrefWithdrawn base pref fallback changed side.peer peer) :
    Resolves own peer (fallback.speed, fallback.duplex) := by
  by_cases same : side = changed
  · subst same
    have withdrawn := heldOn_same mine
    have offered := heldOn_peer yours
    exact resolves_on withdrawn.autoneg offered.autoneg (highest_fallback chosen withdrawn offered)
  · have other : side = changed.peer := by cases side <;> cases changed <;> first | rfl | exact absurd rfl same
    subst other
    rw [changed.peer_peer] at yours
    have withdrawn := heldOn_same yours
    have offered := heldOn_peer mine
    exact resolves_on offered.autoneg withdrawn.autoneg (highest_fallback chosen withdrawn offered).symm

theorem changedSet_correct (chosen : Chosen base pref fallback) (changed : Side)
    (holds : bench.Holds past (PrefWithdrawn base pref fallback changed)) :
    ∀ check ∈ changedSet changed pref fallback, check.Correct bench := by
  have withdrawn : Advertising (base changed) (namedWanted fallback.name none) (bench.cfg changed).tree :=
    heldOn_same (holds.trees changed)
  have offered : BothOffered base pref fallback changed.peer (bench.cfg changed.peer).tree :=
    heldOn_peer (holds.trees changed.peer)
  have on : ∀ side, (bench.cfg side).tree.autoneg = .on := by
    cases changed with
    | iut => exact fun side => by cases side <;> [exact withdrawn.autoneg; exact offered.autoneg]
    | tst => exact fun side => by cases side <;> [exact offered.autoneg; exact withdrawn.autoneg]
  have resolves : ∀ side, Resolves (bench.cfg side).tree (bench.cfg side.peer).tree (fallback.speed, fallback.duplex) :=
    fun side => PrefWithdrawn.resolves chosen (holds.trees side) (holds.trees side.peer)
  have gone : namedWanted fallback.name none pref.name = false := by simpa [namedWanted] using chosen.name_ne
  have left : namedWanted fallback.name none fallback.name = true := by simp [namedWanted]
  have wanted : namedWanted pref.name (some fallback.name) pref.name = true ∧
      namedWanted pref.name (some fallback.name) fallback.name = true := by simp [namedWanted]
  have back : bench.cfg changed.peer.peer = bench.cfg changed := by rw [changed.peer_peer]
  simp only [changedSet, List.forall_mem_cons, List.not_mem_nil, IsEmpty.forall_iff, implies_true, and_true]
  refine ⟨on .iut, on .tst, on .tst, on .iut, (withdrawn.advertised_common chosen.prefCommon).trans gone,
    (withdrawn.advertised_common chosen.fallbackCommon).trans left,
    (offered.advertised_common chosen.prefCommon).trans wanted.1,
    (offered.advertised_common chosen.fallbackCommon).trans wanted.2,
    (offered.offers_common chosen.prefCommon).trans wanted.1,
    (offered.offers_common chosen.fallbackCommon).trans wanted.2, ?_, ?_, resolves .iut, resolves .tst⟩
  · change (bench.cfg changed.peer.peer).tree.offers pref.name = false
    rw [back]
    exact (withdrawn.offers_common chosen.prefCommon).trans gone
  · change (bench.cfg changed.peer.peer).tree.offers fallback.name = true
    rw [back]
    exact (withdrawn.offers_common chosen.fallbackCommon).trans left

end

section
variable (answer : Side → Nat → Command → Option TeErrno) (link : Link) {base : Side → PhyTree} {bench : Bench}
  {past : List Observation}

/-- A side reported its operational mode while the link was to resolve to this pair. -/
def Bench.ReportsWhile (bench : Bench) (side : Side) (pair : Speed × Duplex) : Prop :=
  ∃ own peer, bench.ReportsMode side own peer ∧ ∀ other, Resolves own peer other ↔ other = pair

theorem reportsWhile_of_resolves {side : Side} {own peer : PhyTree} {pair : Speed × Duplex}
    (reports : bench.ReportsMode side own peer) (resolves : Resolves own peer pair) : bench.ReportsWhile side pair := by
  refine ⟨own, peer, reports, ?_⟩
  intro other
  constructor
  · exact fun found => found.unique resolves
  · intro same
    rw [same]
    exact resolves

theorem Bench.ReportsWhile.later {after : Bench} {side : Side} {pair : Speed × Duplex}
    (reports : bench.ReportsWhile side pair) (seen : bench.seen <+: after.seen) : after.ReportsWhile side pair := by
  obtain ⟨own, peer, ⟨speed, duplex, mem⟩, only⟩ := reports
  exact ⟨own, peer, ⟨speed, duplex, seen.subset mem⟩, only⟩

theorem wp_holding {α β : Type} {held : Side → PhyTree → Prop} {x : BenchScript α} {rest : α → BenchScript β}
    {done : β → Bench → Prop} (checking : Checking bench x) (holds : bench.Holds past held)
    (goOn : ∀ a after, after.Holds past held → (rest a).wp done (fun _ last => last.Judged) after) :
    (x >>= rest).wp done (fun _ last => last.Judged) bench := by
  refine wp_seq (keeps_iff_wp.mp checking bench (Checks.refl bench)) ?_ (fun _ _ checks => checks.judged holds.judged)
  intro a after checks
  exact goOn a after (checks.holds holds)

theorem settleAndCheck_wp {held : Side → PhyTree → Prop} {checks : List Check} (holds : bench.Holds past held)
    (correct : ∀ now : Bench, now.Holds past held → ∀ check ∈ checks, check.Correct now) :
    (settleAndCheck link checks).wp (fun _ after => after.Holds past held ∧
      ∀ place side speed duplex, .operMode place side speed duplex ∈ checks → after.ReportsWhile side (speed, duplex))
      (fun _ after => after.Judged) bench := by
  apply wp_holding (keeps_waitUp Checks.tick link .iut) holds
  intro _ now holds
  apply wp_holding (keeps_waitUp Checks.tick link .tst) holds
  intro _ now holds
  refine wp_seq (checks_wp link (correct now holds)) ?_ (fun _ _ checked => checked.judged holds.judged)
  intro _ next ⟨checked, reported⟩
  have sending : Checking next (connCheck link) := keeps_connCheck Checks.tick link
  apply wp_mono (keeps_iff_wp.mp sending next (Checks.refl next))
  · intro _ after sent
    refine ⟨(checked.trans sent).holds holds, ?_⟩
    intro place side speed duplex member
    exact reportsWhile_of_resolves (sent.reportsMode (reported place side speed duplex member))
      (correct now holds _ member)
  · exact fun _ after sent => (checked.trans sent).judged holds.judged

theorem wp_genConnection {held : Side → PhyTree → Prop} {rest : BenchScript Unit} {done : Unit → Bench → Prop}
    (holds : bench.Holds past held)
    (goOn : ∀ after, after.Holds past held → rest.wp done (fun _ last => last.Judged) after) :
    Script.wp (do ofExcept (← ask link.genConnection); rest) done (fun _ last => last.Judged) bench := by
  apply wp_holding (keeps_ask Checks.tick _) holds
  intro connected now holds
  apply wp_holding (keeps_ofExcept connected) holds
  intro _ after holds
  exact goOn after holds

theorem autonegAdvertise_wp (changed : Side) (ifDown : Bool) (holds : bench.Holds past (fun side tree => tree = base side)) :
    (autonegAdvertise answer link changed ifDown).wp (fun _ after => after.Judged ∧
      ∃ pref fallback, chooseModes (snapshot (base .iut)) (snapshot (base .tst)) = .ok (pref, fallback) ∧
        ∀ side, after.ReportsWhile side pref.pair ∧ after.ReportsWhile side fallback.pair)
      (fun _ after => after.Judged) bench := by
  refine wp_seq (stateSaveOrSkip_wp holds "IUT" .iut) ?_ (fun _ _ failed => failed)
  intro iutSaved now ⟨iutIs, holds⟩
  refine wp_seq (stateSaveOrSkip_wp holds "Tester" .tst) ?_ (fun _ _ failed => failed)
  intro tstSaved now ⟨tstIs, holds⟩
  rw [iutIs, tstIs, wp_bind]
  cases choice : chooseModes (snapshot (base .iut)) (snapshot (base .tst)) with
  | error jump => exact holds.judged
  | ok modes =>
    obtain ⟨pref, fallback⟩ := modes
    have chosen := chosen_of_chooseModes choice
    apply wp_genConnection link holds
    intro now holds
    refine wp_seq (testPhyApplyAutonegModes_wp holds .iut (fun _ same => congrArg PhyTree.names same) _ _ _) ?_
      (fun _ _ failed => failed)
    intro _ now holds
    refine wp_seq (testPhyApplyAutonegModes_wp holds .tst (fun _ same => congrArg PhyTree.names same) _ _ _) ?_
      (fun _ _ failed => failed)
    intro _ now holds
    have both : now.Holds past (BothOffered base pref fallback) := by
      refine ⟨?_, holds.judged, holds.seen⟩
      intro side
      cases side with
      | iut => exact holds.trees .iut
      | tst => exact holds.trees .tst
    refine wp_seq (settleAndCheck_wp link both (fun now here => initialSet_correct chosen here)) ?_
      (fun _ _ failed => failed)
    intro _ first ⟨both, reports⟩
    have initially : ∀ side, first.ReportsWhile side pref.pair := by
      intro side
      cases side with
      | iut => exact reports (.text "IUT initial") .iut _ _ (by simp [initialSet])
      | tst => exact reports (.text "Tester initial") .tst _ _ (by simp [initialSet])
    have fresh : first.Holds first.seen (BothOffered base pref fallback) := ⟨both.trees, both.judged, List.prefix_rfl⟩
    have state : (if changed = .iut then snapshot (base .iut) else snapshot (base .tst)) = snapshot (base changed) := by
      cases changed <;> rfl
    rw [state]
    refine wp_seq (testPhyApplyAutonegModes_wp fresh changed (fun _ offered => offered.names) _ _ _) ?_
      (fun _ _ failed => failed)
    intro _ now holds
    apply wp_holding (keeps_restart Checks.tick link ifDown) holds
    intro _ now holds
    apply wp_weaken (settleAndCheck_wp link holds (fun now here => changedSet_correct chosen changed here))
    intro _ after ⟨holds, reports⟩
    refine ⟨holds.judged, pref, fallback, rfl, ?_⟩
    intro side
    refine ⟨(initially side).later holds.seen, ?_⟩
    cases side with
    | iut => exact reports (.text "IUT after advertise change") .iut _ _ (by simp [changedSet])
    | tst => exact reports (.text "Tester after advertise change") .tst _ _ (by simp [changedSet])

def BothForced (mode : ModeInfo) (_ : Side) : PhyTree → Prop := Forced mode.speed mode.duplex

def Anything (_ : Side) (_ : PhyTree) : Prop := True

theorem Bench.Holds.forget {held : Side → PhyTree → Prop} (holds : bench.Holds past held) :
    bench.Holds past Anything := ⟨fun _ => trivial, holds.judged, holds.seen⟩

theorem fixedModeSet_correct {mode : ModeInfo} (holds : bench.Holds past (BothForced mode)) :
    ∀ check ∈ fixedModeSet mode, check.Correct bench := by
  have off : ∀ side, (bench.cfg side).tree.autoneg = .off := fun side => (holds.trees side).autoneg
  simp only [fixedModeSet, List.forall_mem_cons, List.not_mem_nil, IsEmpty.forall_iff, implies_true, and_true]
  exact ⟨off .iut, off .tst, off .tst, off .iut, (holds.trees .iut).resolves, (holds.trees .tst).resolves⟩

theorem tryFixedMode_wp {held : Side → PhyTree → Prop} (holds : bench.Holds past held) (side : Side) (mode : ModeInfo)
    (who : String) :
    (tryFixedMode answer side mode who).wp (fun accepted after => if accepted
        then after.Holds past (heldOn side (Forced mode.speed mode.duplex) held) else after.Holds past held)
      (fun _ after => after.Holds past held) bench := by
  -- the call does not look at the saved state, so any will do
  have called := call_wp answer holds side ⟨.on, .unknown, .unknown, [], true⟩ (.fixedMode mode.speed mode.duplex)
    (fun tree _ => fixedMode_forced _ tree mode.speed mode.duplex)
  refine wp_seq called ?_ (fun _ _ never => never.elim)
  intro status after ⟨done, refused⟩
  cases status with
  | ok _ => exact done rfl
  | error rc =>
    change Script.wp (if _ then _ else _) _ _ _
    split <;> exact refused rc rfl

theorem switchFixedMode_wp (holds : bench.Holds past Anything) (mode : ModeInfo) :
    (switchFixedMode answer link mode).wp (fun accepted after => after.Holds past Anything ∧
      (accepted = true → ∀ side, after.ReportsWhile side mode.pair)) (fun _ after => after.Judged) bench := by
  refine wp_seq (tryFixedMode_wp answer holds .iut mode "IUT") ?_ (fun _ _ failed => failed.judged)
  intro accepted now tried
  cases accepted with
  | false => exact ⟨tried, fun wrong => nomatch wrong⟩
  | true =>
    refine wp_seq (tryFixedMode_wp answer tried .tst mode "Tester") ?_ (fun _ _ failed => failed.judged)
    intro accepted next tried
    cases accepted with
    | false => exact ⟨Bench.Holds.forget tried, fun wrong => nomatch wrong⟩
    | true =>
      have both : next.Holds past (BothForced mode) := by
        refine ⟨?_, tried.judged, tried.seen⟩
        intro side
        cases side with
        | iut => exact tried.trees .iut
        | tst => exact tried.trees .tst
      refine wp_seq (settleAndCheck_wp link both (fun now here => fixedModeSet_correct here)) ?_
        (fun _ _ failed => failed)
      intro _ after ⟨holds, reports⟩
      refine ⟨holds.forget, fun _ side => ?_⟩
      cases side with
      | iut => exact reports (.fixedMode "IUT" mode.speed mode.duplex) .iut _ _ (by simp [fixedModeSet])
      | tst => exact reports (.fixedMode "Tester" mode.speed mode.duplex) .tst _ _ (by simp [fixedModeSet])

theorem switchAll_wp (holds : bench.Holds past Anything) (modes : List ModeInfo) :
    (switchAll answer link modes).wp (fun tested after => after.Holds past Anything ∧ tested.Sublist modes ∧
      ∀ mode ∈ tested, ∀ side, after.ReportsWhile side mode.pair) (fun _ after => after.Judged) bench := by
  induction modes generalizing bench past with
  | nil => exact ⟨holds, List.Sublist.refl _, by simp⟩
  | cons mode modes ih =>
    refine wp_seq (switchFixedMode_wp answer link holds mode) ?_ (fun _ _ failed => failed)
    intro accepted now ⟨holds, reports⟩
    have fresh : now.Holds now.seen Anything := ⟨holds.trees, holds.judged, List.prefix_rfl⟩
    refine wp_seq (ih fresh) ?_ (fun _ _ failed => failed)
    intro tested after ⟨later, sublist, each⟩
    refine ⟨⟨later.trees, later.judged, holds.seen.trans later.seen⟩, ?_⟩
    cases accepted with
    | false => exact ⟨sublist.cons mode, each⟩
    | true =>
      refine ⟨sublist.cons_cons mode, ?_⟩
      intro other member
      rcases List.mem_cons.mp member with rfl | rest
      · exact fun side => (reports rfl side).later later.seen
      · exact each other rest

theorem commonMode_of_link {mode : ModeInfo}
    (mem : mode ∈ commonLinkModes (snapshot (base .iut)) (snapshot (base .tst))) : CommonMode base mode := by
  simp only [commonLinkModes, List.mem_filter, Bool.and_eq_true, SavedState.hasLinkMode, Option.any_eq_true] at mem
  obtain ⟨here, link, peer, search, -⟩ := mem
  obtain ⟨there, same⟩ := findModeByName_spec search
  exact commonMode_of_snapshots here there same link

theorem linkFixedMode_wp (holds : bench.Holds past (fun side tree => tree = base side)) :
    (linkFixedMode answer link).wp (fun _ after => after.Judged ∧
      ∃ tested : List ModeInfo, 2 ≤ tested.length ∧ (tested.map ModeInfo.pair).Nodup ∧
        ∀ mode ∈ tested, CommonMode base mode ∧ ∀ side, after.ReportsWhile side mode.pair)
      (fun _ after => after.Judged) bench := by
  refine wp_seq (stateSaveOrSkip_wp holds "IUT" .iut) ?_ (fun _ _ failed => failed)
  intro iutSaved now ⟨iutIs, holds⟩
  refine wp_seq (stateSaveOrSkip_wp holds "Tester" .tst) ?_ (fun _ _ failed => failed)
  intro tstSaved now ⟨tstIs, holds⟩
  rw [iutIs, tstIs]
  obtain ⟨out, run, -, entries⟩ := findCommonModeCandidates_eq (snapshot (base .iut)) (snapshot (base .tst))
  have kept : Firsts.Kept ModeInfo.pair (commonLinkModes (snapshot (base .iut)) (snapshot (base .tst))) out.entries :=
    entries ▸ Firsts.kept_foldl ModeInfo.pair _
  rw [run]
  apply wp_holding (keeps_when_fail (out.candidatesNum == 0) (.skip "No common supported PHY modes found")) holds
  intro _ now holds
  apply wp_genConnection link holds
  intro now holds
  refine wp_seq (switchAll_wp answer link holds.forget out.entries) ?_ (fun _ _ failed => failed)
  intro tested after ⟨holds, sublist, each⟩
  apply wp_when
  · exact fun _ => holds.judged
  · intro enough
    simp only [decide_eq_false_iff_not, not_le] at enough
    refine ⟨holds.judged, tested, enough, kept.distinct.sublist (sublist.map _), ?_⟩
    intro mode member
    exact ⟨commonMode_of_link (kept.mem (sublist.subset member)), each mode member⟩

def OneForced (base : Side → PhyTree) (forced : ForcedModeInfo) : Side → PhyTree → Prop :=
  heldOn .tst (Forced (.mbps forced.speed) forced.duplex)
    (heldOn .iut (Advertising (base .iut) (namedWanted forced.fullModeName (some forced.halfModeName)))
      (fun side tree => tree = base side))

/-- What each side is to end up with: parallel detection finds the speed but not the duplex. -/
def ForcedModeInfo.detected (forced : ForcedModeInfo) : Side → Speed × Duplex
  | .iut => (.mbps forced.speed, .half)
  | .tst => (.mbps forced.speed, forced.duplex)

theorem OneForced.resolves {forced : ForcedModeInfo} {side : Side} {own peer : PhyTree}
    (mine : OneForced base forced side own) (yours : OneForced base forced side.peer peer) :
    Resolves own peer (forced.detected side) := by
  cases side with
  | iut =>
    have negotiates : own.autoneg = .on := Advertising.autoneg mine
    have fixed : Forced (.mbps forced.speed) forced.duplex peer := yours
    simp only [Resolves, negotiates, fixed.autoneg, fixed.speedAdmin, ForcedModeInfo.detected]
  | tst =>
    have fixed : Forced (.mbps forced.speed) forced.duplex own := mine
    exact fixed.resolves

theorem detectedSet_correct {forced : ForcedModeInfo} (holds : bench.Holds past (OneForced base forced)) :
    ∀ check ∈ detectedSet forced, check.Correct bench := by
  have on : (bench.cfg .iut).tree.autoneg = .on := Advertising.autoneg (holds.trees .iut)
  have off : (bench.cfg .tst).tree.autoneg = .off := Forced.autoneg (holds.trees .tst)
  simp only [detectedSet, List.forall_mem_cons, List.not_mem_nil, IsEmpty.forall_iff, implies_true, and_true]
  exact ⟨on, off, off, OneForced.resolves (holds.trees .iut) (holds.trees .tst),
    OneForced.resolves (holds.trees .tst) (holds.trees .iut)⟩

theorem wp_checkedCall {held : Side → PhyTree → Prop} {now : PhyTree → Prop} {rest : BenchScript Unit}
    {done : Unit → Bench → Prop} (holds : bench.Holds past held) (side : Side) (state : SavedState) (call : Call)
    (effect : ∀ tree, held side tree → now (tree.applyAll (call.settings state tree)))
    (goOn : ∀ after, after.Holds past (heldOn side now held) → rest.wp done (fun _ last => last.Judged) after) :
    Script.wp (do checkRc (← onSide side (call.run (answer side) state)); rest) done
      (fun _ last => last.Judged) bench := by
  refine wp_seq (call_wp answer holds side state call effect) ?_ (fun _ _ never => never.elim)
  intro status after ⟨applied, refused⟩
  cases status with
  | ok _ => exact goOn after (applied rfl)
  | error rc => exact (refused rc rfl).judged

theorem parallelDetect_wp (holds : bench.Holds past (fun side tree => tree = base side)) :
    (parallelDetect answer link).wp (fun _ after => after.Judged ∧
      ∃ forced, findCommonForcedMode (snapshot (base .iut)) (snapshot (base .tst)) = some forced ∧
        ∀ side, after.ReportsWhile side (forced.detected side)) (fun _ after => after.Judged) bench := by
  refine wp_seq (stateSaveOrSkip_wp holds "IUT" .iut) ?_ (fun _ _ failed => failed)
  intro iutSaved now ⟨iutIs, holds⟩
  refine wp_seq (stateSaveOrSkip_wp holds "Tester" .tst) ?_ (fun _ _ failed => failed)
  intro tstSaved now ⟨tstIs, holds⟩
  rw [iutIs, tstIs]
  apply wp_holding (keeps_checkTpPortOrSkip Checks.tick link .iut) holds
  intro _ now holds
  apply wp_holding (keeps_checkTpPortOrSkip Checks.tick link .tst) holds
  intro _ now holds
  cases choice : findCommonForcedMode (snapshot (base .iut)) (snapshot (base .tst)) with
  | none => exact holds.judged
  | some forced =>
    apply wp_genConnection link holds
    intro now holds
    apply wp_checkedCall answer holds .iut (snapshot (base .iut))
      (.autonegModes forced.fullModeName (some forced.halfModeName))
      (fun tree same => autonegModes_advertising (congrArg PhyTree.names same) _ _)
    intro now holds
    apply wp_checkedCall answer holds .tst (snapshot (base .tst)) (.fixedMode (.mbps forced.speed) forced.duplex)
      (fun tree _ => fixedMode_forced _ tree _ _)
    intro now holds
    apply wp_weaken (settleAndCheck_wp link holds (fun now here => detectedSet_correct here))
    intro _ after ⟨holds, reports⟩
    refine ⟨holds.judged, forced, rfl, ?_⟩
    intro side
    cases side with
    | iut => exact reports (.text "IUT") .iut _ _ (by simp [detectedSet])
    | tst => exact reports (.text "Tester") .tst _ _ (by simp [detectedSet])

end

/-- A side reported the pair while the link was to resolve to it. -/
def Bench.Ran (bench : Bench) (side : Side) (pair : Speed × Duplex) : Prop :=
  ∃ own peer, ⟨side, own, peer, .modeOper pair.1 pair.2⟩ ∈ bench.seen ∧ Resolves own peer pair

theorem Bench.ReportsWhile.ran {bench : Bench} {side : Side} {pair : Speed × Duplex}
    (reports : bench.ReportsWhile side pair) (agree : ∀ observation ∈ bench.seen, observation.Agrees) :
    bench.Ran side pair := by
  obtain ⟨own, peer, ⟨speed, duplex, mem⟩, only⟩ := reports
  have resolves : Resolves own peer (speed, duplex) := agree _ mem
  have same : (speed, duplex) = pair := (only (speed, duplex)).mp resolves
  rw [← same]
  exact ⟨own, peer, mem, resolves⟩

/-- What a test has shown once it ends without a verdict. -/
def PhyTest.Shows (iut tst : PhyTree) (bench : Bench) : PhyTest → Prop
  | .autonegAdvertise _ _ => ∃ pref fallback, TwoHighest (commonModes (snapshot iut) (snapshot tst)) pref fallback ∧
      ∀ side, bench.Ran side pref.pair ∧ bench.Ran side fallback.pair
  | .linkFixedMode => ∃ tested : List ModeInfo, 2 ≤ tested.length ∧ (tested.map ModeInfo.pair).Nodup ∧
      ∀ mode ∈ tested, mode.name ∈ iut.names ∧ mode.name ∈ tst.names ∧ ∀ side, bench.Ran side mode.pair
  | .parallelDetect => ∃ forced, findCommonForcedMode (snapshot iut) (snapshot tst) = some forced ∧
      bench.Ran .iut (.mbps forced.speed, .half) ∧ bench.Ran .tst (.mbps forced.speed, forced.duplex)

section
variable (answer : Side → Nat → Command → Option TeErrno) (link : Link) (test : PhyTest) (iut tst : Cfg)

theorem steps_wp : (test.steps answer link).wp (fun _ after => after.Judged ∧
    ((∀ observation ∈ after.seen, observation.Agrees) → test.Shows iut.tree tst.tree after))
    (fun _ after => after.Judged) (Bench.start iut tst) := by
  let base : Side → PhyTree := fun side => ((Bench.start iut tst).cfg side).tree
  have holds : (Bench.start iut tst).Holds [] (fun side tree => tree = base side) :=
    ⟨fun _ => rfl, by simp [Bench.Judged, Bench.start], List.prefix_rfl⟩
  cases test with
  | autonegAdvertise changed ifDown =>
    apply wp_weaken (autonegAdvertise_wp answer link changed ifDown holds)
    intro _ after ⟨judged, pref, fallback, choice, reports⟩
    refine ⟨judged, fun agree => ⟨pref, fallback, twoHighest_of_chooseModes choice, ?_⟩⟩
    exact fun side => ⟨(reports side).1.ran agree, (reports side).2.ran agree⟩
  | linkFixedMode =>
    apply wp_weaken (linkFixedMode_wp answer link holds)
    intro _ after ⟨judged, tested, enough, distinct, each⟩
    refine ⟨judged, fun agree => ⟨tested, enough, distinct, ?_⟩⟩
    intro mode member
    obtain ⟨common, reports⟩ := each mode member
    exact ⟨common.named .iut, common.named .tst, fun side => (reports side).ran agree⟩
  | parallelDetect =>
    apply wp_weaken (parallelDetect_wp answer link holds)
    intro _ after ⟨judged, forced, choice, reports⟩
    exact ⟨judged, fun agree => ⟨forced, choice, (reports .iut).ran agree, (reports .tst).ran agree⟩⟩

/-- A test that reaches its end without a verdict has seen both sides run in the modes it is about. -/
theorem phyTest_passed_shows (after : Bench) (passed : test.steps answer link (Bench.start iut tst) = (.ok (), after))
    (clean : after.verdicts = []) : test.Shows iut.tree tst.tree after := by
  obtain ⟨judged, shows⟩ := wp_ok (steps_wp answer link test iut tst) passed
  exact shows (judged.mp (by simp [clean]))

end

theorem negotiating_nodup : ["1000baseT_Full", "100baseT_Full", "Pause"].Nodup := by decide

def negotiating : Cfg :=
  ⟨⟨.on, .unknown, .unknown, ["1000baseT_Full", "100baseT_Full", "Pause"], negotiating_nodup, fun _ => true⟩, [], 0, []⟩

/-- A link on which the change of the IUT shows from the 40th question on. -/
def settling : Link where
  autonegGet _ _ := .ok .on
  modeAdvGet moment side name := .ok (moment < 40 || side == .tst || name != "1000baseT_Full")
  sync _ _ := .ok ()
  lpModes _ _ := .ok 1
  lpAutonegGet _ _ := .ok .on
  lpAdvertised moment side name := .ok (moment < 40 || side == .iut || name != "1000baseT_Full")
  modeOperGet moment _ := .ok (if moment < 40 then (.mbps 1000, .full) else (.mbps 100, .full))
  portGet _ _ := .ok .tp
  stateWaitUp _ _ := .ok ()
  ifDown _ _ := .ok ()
  ifUp _ _ := .ok ()
  genConnection _ := .ok ()
  sendRecv _ _ := .ok ()

theorem phyTest_passed_shows_settling :
    let run := (PhyTest.autonegAdvertise .iut true).steps (fun _ => noFailure) settling
      (Bench.start negotiating negotiating)
    run.2.verdicts = [] ∧ (PhyTest.autonegAdvertise .iut true).Shows negotiating.tree negotiating.tree run.2 := by
  intro run
  have passed : run.1 = .ok () := by decide +kernel
  have clean : run.2.verdicts = [] := by decide +kernel
  -- from here on the run is only a name, so that nothing evaluates it again
  have same : (PhyTest.autonegAdvertise .iut true).steps (fun _ => noFailure) settling
      (Bench.start negotiating negotiating) = run := rfl
  clear_value run
  have whole : run = (.ok (), run.2) := Prod.ext passed rfl
  exact ⟨clean, phyTest_passed_shows (fun _ => noFailure) settling (.autonegAdvertise .iut true) negotiating
    negotiating run.2 (same.trans whole) clean⟩

end NetDrv.Phy
