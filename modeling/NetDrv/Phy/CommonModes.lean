import NetDrv.Lib.TopTwo
import NetDrv.Phy.Mode
import Mathlib.Data.Prod.Lex
import Mathlib.Data.List.Find
import Mathlib.Data.List.Nodup

/-! `ethtool/autoneg_advertise` chooses two modes that both sides advertise: the one
autonegotiation has to prefer, and the one it has to fall back to when the first is no
longer advertised. Modes are compared by speed and duplex, so modes of different names
may be of one priority. -/

namespace NetDrv.Phy

/-- The `int` that stands for a speed; `TE_PHY_SPEED_UNKNOWN` is negative. -/
def Speed.id : Speed → Int
  | .unknown => -1
  | .mbps value => value

def pairPriorityCmp (speed1 : Speed) (duplex1 : Duplex) (speed2 : Speed) (duplex2 : Duplex) : Int :=
  if speed1.id ≠ speed2.id then
    if speed1.id > speed2.id then 1 else -1
  else if duplex1 ≠ duplex2 then
    if duplex1 = .full then 1
    else if duplex2 = .full then -1
    else 0
  else 0

def ModeInfo.priorityCmp (mode1 mode2 : ModeInfo) : Int :=
  pairPriorityCmp mode1.speed mode1.duplex mode2.speed mode2.duplex

/-- `update_common_nodes()`: the preferred mode and the fallback, `none` as long as there is none. -/
def updateCommonNodes (newMode : ModeInfo) (modes : Option ModeInfo × Option ModeInfo) :
    Option ModeInfo × Option ModeInfo :=
  let (preferredMode, fallbackMode) := modes
  if preferredMode.any (fun mode => newMode.priorityCmp mode = 0) then modes
  else if fallbackMode.any (fun mode => newMode.priorityCmp mode = 0) then modes
  else if preferredMode.all (fun mode => newMode.priorityCmp mode > 0) then
    (some newMode, if preferredMode.isSome then preferredMode else fallbackMode)
  else if fallbackMode.all (fun mode => newMode.priorityCmp mode > 0) then (preferredMode, some newMode)
  else modes

def SavedState.findModeByName (state : SavedState) (name : String) : Option ModeInfo :=
  state.modes.find? (fun mode => mode.name = name)

/-- The body of the loop of `find_common_advertised_modes()`. -/
def considerMode (tst : SavedState) (modes : Option ModeInfo × Option ModeInfo) (mode : ModeInfo) :
    Option ModeInfo × Option ModeInfo :=
  if !isLinkMode mode || !mode.advertised then modes
  else
    match tst.findModeByName mode.name with
    | none => modes
    | some peerMode =>
      if !isLinkMode peerMode || !peerMode.advertised then modes
      else updateCommonNodes mode modes

/-- `find_common_advertised_modes()`: what it returns, and the two modes it found. -/
def findCommonAdvertisedModes (iut tst : SavedState) : Bool × Option ModeInfo × Option ModeInfo :=
  let modes := iut.modes.foldl (considerMode tst) (none, none)
  (modes.1.isSome && modes.2.isSome, modes)

/-- The step of the test that chooses the modes, with the check that follows it. -/
def chooseModes (iut tst : SavedState) : Except Jump (ModeInfo × ModeInfo) :=
  match findCommonAdvertisedModes iut tst with
  | (true, some pref, some fallback) =>
    if pref.priorityCmp fallback ≤ 0 then
      .error (.verdict "Failed to choose preferred and lower-priority PHY modes")
    else .ok (pref, fallback)
  | _ => .error (.skip "At least two common advertised PHY modes with different priorities are required")

def ModeInfo.pair (mode : ModeInfo) : Speed × Duplex := (mode.speed, mode.duplex)

def ModeInfo.Outranks (mode1 mode2 : ModeInfo) : Prop :=
  mode2.speed.id < mode1.speed.id ∨
    mode1.speed = mode2.speed ∧ mode1.duplex = .full ∧ mode2.duplex = .half

/-- Whether a state has a link mode of this name and advertises it. -/
def SavedState.advertises (state : SavedState) (name : String) : Bool :=
  state.modes.any (fun mode => mode.name = name && isLinkMode mode && mode.advertised)

/-- The link modes advertised on both sides, in the order of the IUT. -/
def commonModes (iut tst : SavedState) : List ModeInfo :=
  iut.modes.filter (fun mode => isLinkMode mode && mode.advertised && tst.advertises mode.name)

/-- What the two modes chosen among `common` are to be. -/
structure TwoHighest (common : List ModeInfo) (pref fallback : ModeInfo) : Prop where
  pref_first : common.find? (fun mode => mode.pair = pref.pair) = some pref
  pref_highest : ∀ mode ∈ common, mode.pair ≠ pref.pair → pref.Outranks mode
  fallback_first : common.find? (fun mode => mode.pair = fallback.pair) = some fallback
  fallback_lower : fallback.pair ≠ pref.pair
  fallback_highest : ∀ mode ∈ common, mode.pair ≠ pref.pair → mode.pair ≠ fallback.pair → fallback.Outranks mode

def ModeInfo.rank (mode : ModeInfo) : Int ×ₗ Bool := toLex (mode.speed.id, mode.duplex = .full)

section
variable {a b : ModeInfo}

theorem rank_lt_iff : a.rank < b.rank ↔
    a.speed.id < b.speed.id ∨ a.speed.id = b.speed.id ∧ a.duplex ≠ .full ∧ b.duplex = .full := by
  simp [ModeInfo.rank, Prod.Lex.toLex_lt_toLex, Bool.lt_iff]

theorem rank_eq_iff : a.rank = b.rank ↔ a.speed.id = b.speed.id ∧ (a.duplex = .full ↔ b.duplex = .full) := by
  simp [ModeInfo.rank]

theorem priorityCmp_pos : 0 < a.priorityCmp b ↔ b.rank < a.rank := by
  rw [rank_lt_iff, ModeInfo.priorityCmp, pairPriorityCmp]
  grind

theorem priorityCmp_eq_zero : a.priorityCmp b = 0 ↔ a.rank = b.rank := by
  rw [rank_eq_iff, ModeInfo.priorityCmp, pairPriorityCmp]
  grind

theorem Speed.id_inj {speed1 speed2 : Speed} : speed1.id = speed2.id ↔ speed1 = speed2 := by
  cases speed1 with
  | unknown => cases speed2 <;> simp [Speed.id]
  | mbps value =>
    cases speed2 with
    | unknown => simp [Speed.id]
    | mbps other => simp only [Speed.id, Int.ofNat_inj, Speed.mbps.injEq]

theorem isLinkMode_duplex (link : isLinkMode a = true) : a.duplex = .half ∨ a.duplex = .full := by
  cases h : a.duplex <;> simp [isLinkMode, h] at link ⊢

theorem rank_eq_iff_pair (left : isLinkMode a = true) (right : isLinkMode b = true) :
    a.rank = b.rank ↔ a.pair = b.pair := by
  rw [rank_eq_iff, Speed.id_inj, ModeInfo.pair, ModeInfo.pair, Prod.mk.injEq]
  have := isLinkMode_duplex left
  have := isLinkMode_duplex right
  grind

theorem rank_lt_iff_outranks (left : isLinkMode a = true) (right : isLinkMode b = true) :
    b.rank < a.rank ↔ a.Outranks b := by
  rw [rank_lt_iff, ModeInfo.Outranks, Speed.id_inj]
  have := isLinkMode_duplex left
  have := isLinkMode_duplex right
  grind

theorem updateCommonNodes_eq {items : List ModeInfo} {modes : Option ModeInfo × Option ModeInfo}
    (newMode : ModeInfo) (kept : TopTwo.Kept ModeInfo.rank items modes) :
    updateCommonNodes newMode modes = TopTwo.keep ModeInfo.rank modes newMode := by
  cases kept with
  | empty _ => rfl
  | one best _ _ => simp [updateCommonNodes, TopTwo.keep, priorityCmp_eq_zero, priorityCmp_pos]
  | two best second _ _ => simp [updateCommonNodes, TopTwo.keep, priorityCmp_eq_zero, priorityCmp_pos]

end

section
variable {iut tst : SavedState}

theorem findModeByName_spec {name : String} {peer : ModeInfo} (search : tst.findModeByName name = some peer) :
    peer ∈ tst.modes ∧ peer.name = name := by
  rw [SavedState.findModeByName, List.find?_eq_some_iff_append] at search
  obtain ⟨named, before, after, split, -⟩ := search
  exact ⟨by simp [split], of_decide_eq_true named⟩

theorem findModeByName_of_mem {mode : ModeInfo} (mem : mode ∈ tst.modes) :
    ∃ peer, tst.findModeByName mode.name = some peer := by
  rw [← Option.isSome_iff_exists, SavedState.findModeByName, List.find?_isSome]
  exact ⟨mode, mem, decide_eq_true rfl⟩

theorem advertises_iff (unique : (tst.modes.map ModeInfo.name).Nodup) (name : String) :
    tst.advertises name = true ↔
      ∃ peer, tst.findModeByName name = some peer ∧ isLinkMode peer = true ∧ peer.advertised = true := by
  simp only [SavedState.advertises, List.any_eq_true, Bool.and_eq_true, decide_eq_true_eq]
  constructor
  · intro ⟨mode, mem, ⟨named, link⟩, advertised⟩
    obtain ⟨peer, search⟩ := findModeByName_of_mem mem
    rw [named] at search
    have spec := findModeByName_spec search
    have same : peer = mode := List.inj_on_of_nodup_map unique spec.1 mem (spec.2.trans named.symm)
    exact ⟨peer, search, same ▸ link, same ▸ advertised⟩
  · intro ⟨peer, search, link, advertised⟩
    have spec := findModeByName_spec search
    exact ⟨peer, spec.1, ⟨spec.2, link⟩, advertised⟩

theorem considerMode_eq (unique : (tst.modes.map ModeInfo.name).Nodup) (modes : Option ModeInfo × Option ModeInfo)
    (mode : ModeInfo) :
    considerMode tst modes mode =
      if isLinkMode mode && mode.advertised && tst.advertises mode.name then updateCommonNodes mode modes
      else modes := by
  have peer := advertises_iff unique mode.name
  unfold considerMode
  cases search : tst.findModeByName mode.name with
  | none => grind
  | some peerMode => grind

theorem kept_common (unique : (tst.modes.map ModeInfo.name).Nodup) :
    TopTwo.Kept ModeInfo.rank (commonModes iut tst) (findCommonAdvertisedModes iut tst).2 := by
  have loop : iut.modes.foldl (considerMode tst) (none, none) =
      (commonModes iut tst).foldl (fun modes mode => updateCommonNodes mode modes) (none, none) := by
    rw [commonModes, List.foldl_filter]
    congr 1
    funext modes mode
    exact considerMode_eq unique modes mode
  rw [findCommonAdvertisedModes, loop]
  apply TopTwo.kept_foldl
  intro items kept new inv
  exact updateCommonNodes_eq new inv

theorem isLinkMode_of_mem {mode : ModeInfo} (mem : mode ∈ commonModes iut tst) : isLinkMode mode = true := by
  simp only [commonModes, List.mem_filter, Bool.and_eq_true] at mem
  exact mem.2.1.1

theorem mem_commonModes_perm {iut' tst' : SavedState} (left : iut'.modes.Perm iut.modes)
    (right : tst'.modes.Perm tst.modes) (mode : ModeInfo) :
    mode ∈ commonModes iut' tst' ↔ mode ∈ commonModes iut tst := by
  have same : tst'.advertises mode.name = tst.advertises mode.name := by
    rw [Bool.eq_iff_iff, SavedState.advertises, SavedState.advertises, List.any_eq_true, List.any_eq_true]
    simp only [right.mem_iff]
  rw [commonModes, commonModes, List.mem_filter, List.mem_filter, left.mem_iff, same]

theorem TwoHighest.of_kept {common : List ModeInfo} {pref fallback : ModeInfo}
    (links : ∀ mode ∈ common, isLinkMode mode = true)
    (kept : TopTwo.Kept ModeInfo.rank common (some pref, some fallback)) : TwoHighest common pref fallback := by
  have lower := kept.second_lt
  cases kept with
  | two _ _ first next =>
    have prefLink := links pref first.mem
    have fallbackMem := (TopTwo.mem_others.1 next.mem).1
    have fallbackLink := links fallback fallbackMem
    have classes : ∀ mode ∈ common, ∀ other ∈ common, (mode.rank = other.rank ↔ mode.pair = other.pair) :=
      fun mode mem other memOther => rank_eq_iff_pair (links mode mem) (links other memOther)
    refine ⟨?_, ?_, ?_, ?_, ?_⟩
    · rw [← first.first]
      apply List.find?_congr
      intro mode mem
      rw [Bool.eq_iff_iff, decide_eq_true_iff, decide_eq_true_iff]
      exact (classes mode mem pref first.mem).symm
    · intro mode mem other
      rw [← rank_lt_iff_outranks prefLink (links mode mem)]
      apply lt_of_le_of_ne (first.highest mode mem)
      rw [Ne, classes mode mem pref first.mem]
      exact other
    · have found := next.first
      rw [TopTwo.others, List.find?_filter] at found
      rw [← found]
      apply List.find?_congr
      intro mode mem
      have same := classes mode mem fallback fallbackMem
      grind
    · rw [Ne, ← classes fallback fallbackMem pref first.mem]
      exact lower.ne
    · intro mode mem notPref notFallback
      rw [← rank_lt_iff_outranks fallbackLink (links mode mem)]
      rw [Ne, ← classes mode mem pref first.mem] at notPref
      rw [Ne, ← classes mode mem fallback fallbackMem] at notFallback
      exact lt_of_le_of_ne (next.highest mode (TopTwo.mem_others.2 ⟨mem, notPref⟩)) notFallback

theorem findCommonAdvertisedModes_found (iut : SavedState) (unique : (tst.modes.map ModeInfo.name).Nodup) :
    (findCommonAdvertisedModes iut tst).1 = true ↔
      ∃ mode1 ∈ commonModes iut tst, ∃ mode2 ∈ commonModes iut tst, mode1.pair ≠ mode2.pair := by
  have kept : TopTwo.Kept ModeInfo.rank (commonModes iut tst) (findCommonAdvertisedModes iut tst).2 := kept_common unique
  have ranks : (findCommonAdvertisedModes iut tst).1 = true ↔ (findCommonAdvertisedModes iut tst).2.2.isSome := by
    have both : (findCommonAdvertisedModes iut tst).1 = ((findCommonAdvertisedModes iut tst).2.1.isSome &&
      (findCommonAdvertisedModes iut tst).2.2.isSome) := rfl
    rw [both]
    generalize (findCommonAdvertisedModes iut tst).2 = modes at kept
    cases kept <;> simp
  rw [ranks, kept.second_isSome]
  constructor
  · intro ⟨mode1, left, mode2, right, differ⟩
    rw [Ne, rank_eq_iff_pair (isLinkMode_of_mem left) (isLinkMode_of_mem right)] at differ
    exact ⟨mode1, left, mode2, right, differ⟩
  · intro ⟨mode1, left, mode2, right, differ⟩
    rw [Ne, ← rank_eq_iff_pair (isLinkMode_of_mem left) (isLinkMode_of_mem right)] at differ
    exact ⟨mode1, left, mode2, right, differ⟩

theorem chooseModes_cases (iut : SavedState) (unique : (tst.modes.map ModeInfo.name).Nodup) :
    (∃ pref fallback, findCommonAdvertisedModes iut tst = (true, some pref, some fallback) ∧
      TwoHighest (commonModes iut tst) pref fallback ∧ 0 < pref.priorityCmp fallback ∧
      chooseModes iut tst = .ok (pref, fallback)) ∨
    (findCommonAdvertisedModes iut tst).1 = false ∧
      chooseModes iut tst =
        .error (.skip "At least two common advertised PHY modes with different priorities are required") := by
  have kept : TopTwo.Kept ModeInfo.rank (commonModes iut tst) (findCommonAdvertisedModes iut tst).2 := kept_common unique
  have both : findCommonAdvertisedModes iut tst = ((findCommonAdvertisedModes iut tst).2.1.isSome &&
    (findCommonAdvertisedModes iut tst).2.2.isSome, (findCommonAdvertisedModes iut tst).2) := rfl
  generalize (findCommonAdvertisedModes iut tst).2 = modes at kept both
  unfold chooseModes
  rw [both]
  cases kept with
  | empty _ => exact .inr ⟨rfl, rfl⟩
  | one _ _ _ => exact .inr ⟨rfl, rfl⟩
  | two pref fallback first next =>
    have kept := TopTwo.Kept.two pref fallback first next
    have above : 0 < pref.priorityCmp fallback := priorityCmp_pos.2 kept.second_lt
    refine .inl ⟨pref, fallback, rfl, TwoHighest.of_kept (fun mode => isLinkMode_of_mem) kept, above, ?_⟩
    simp [not_le.2 above]

theorem Outranks.asymm {mode1 mode2 : ModeInfo} (higher : mode1.Outranks mode2) : ¬mode2.Outranks mode1 := by
  unfold ModeInfo.Outranks at *
  grind

theorem TwoHighest.unique {common again : List ModeInfo} {pref fallback pref' fallback' : ModeInfo}
    (here : TwoHighest common pref fallback) (there : TwoHighest again pref' fallback')
    (same : ∀ mode, mode ∈ again ↔ mode ∈ common) :
    pref'.pair = pref.pair ∧ fallback'.pair = fallback.pair := by
  have prefMem := List.mem_of_find?_eq_some here.pref_first
  have fallbackMem := List.mem_of_find?_eq_some here.fallback_first
  have prefMem' := List.mem_of_find?_eq_some there.pref_first
  have fallbackMem' := List.mem_of_find?_eq_some there.fallback_first
  have first : pref'.pair = pref.pair := by
    by_contra differ
    apply Outranks.asymm (here.pref_highest pref' ((same pref').1 prefMem') differ)
    exact there.pref_highest pref ((same pref).2 prefMem) (Ne.symm differ)
  refine ⟨first, ?_⟩
  by_contra differ
  have notPref' : fallback'.pair ≠ pref.pair := first ▸ there.fallback_lower
  have notPref : fallback.pair ≠ pref'.pair := first ▸ here.fallback_lower
  apply Outranks.asymm (here.fallback_highest fallback' ((same fallback').1 fallbackMem') notPref' differ)
  exact there.fallback_highest fallback ((same fallback).2 fallbackMem) notPref (Ne.symm differ)

end

/-- The classes of the two modes, or why there are none. -/
def chosenPairs (iut tst : SavedState) : Except Jump ((Speed × Duplex) × Speed × Duplex) :=
  (chooseModes iut tst).map (fun modes => (modes.1.pair, modes.2.pair))

theorem chosenPairs_perm {iut tst iut' tst' : SavedState} (unique : (tst.modes.map ModeInfo.name).Nodup)
    (left : iut'.modes.Perm iut.modes) (right : tst'.modes.Perm tst.modes) :
    chosenPairs iut' tst' = chosenPairs iut tst := by
  have unique' : (tst'.modes.map ModeInfo.name).Nodup := (right.map ModeInfo.name).nodup_iff.2 unique
  have same := mem_commonModes_perm left right
  have found := findCommonAdvertisedModes_found iut unique
  have found' := findCommonAdvertisedModes_found iut' unique'
  simp only [same, ← found] at found'
  unfold chosenPairs
  rcases chooseModes_cases iut unique with ⟨pref, fallback, run, highest, -, chosen⟩ | ⟨none, chosen⟩
  · rcases chooseModes_cases iut' unique' with ⟨pref', fallback', -, highest', -, chosen'⟩ | ⟨none', -⟩
    · obtain ⟨first, second⟩ := highest.unique highest' same
      rw [chosen, chosen', Except.map, Except.map, first, second]
    · simp [run, none'] at found'
  · rcases chooseModes_cases iut' unique' with ⟨pref', fallback', run', -, -, -⟩ | ⟨-, chosen'⟩
    · simp [run', none] at found'
    · rw [chosen, chosen']

/-- The choice of the two modes, for any two saved states. -/
theorem findCommonAdvertisedModes_spec (iut tst : SavedState) (unique : (tst.modes.map ModeInfo.name).Nodup) :
    ((findCommonAdvertisedModes iut tst).1 = true ↔
      ∃ mode1 ∈ commonModes iut tst, ∃ mode2 ∈ commonModes iut tst, mode1.pair ≠ mode2.pair) ∧
    ((findCommonAdvertisedModes iut tst).1 = true →
      ∃ pref fallback, (findCommonAdvertisedModes iut tst).2 = (some pref, some fallback) ∧
        TwoHighest (commonModes iut tst) pref fallback ∧
        0 < pairPriorityCmp pref.speed pref.duplex fallback.speed fallback.duplex) ∧
    (∀ message, chooseModes iut tst ≠ .error (.verdict message)) ∧
    ∀ iut' tst', iut'.modes.Perm iut.modes → tst'.modes.Perm tst.modes →
      chosenPairs iut' tst' = chosenPairs iut tst := by
  refine ⟨findCommonAdvertisedModes_found iut unique, ?_, ?_, ?_⟩
  · intro found
    rcases chooseModes_cases iut unique with ⟨pref, fallback, run, highest, above, -⟩ | ⟨none, -⟩
    · exact ⟨pref, fallback, by rw [run], highest, above⟩
    · rw [none] at found
      cases found
  · intro message
    rcases chooseModes_cases iut unique with ⟨_, _, _, _, _, chosen⟩ | ⟨-, chosen⟩
    · simp [chosen]
    · simp [chosen]
  · intro iut' tst' left right
    exact chosenPairs_perm unique left right

/-- A state with two modes of one class, and the highest class last. -/
def fiveModes : SavedState where
  autoneg := .on
  speedAdmin := .unknown
  duplexAdmin := .unknown
  modes := [ModeInfo.ofName "100baseT_Half" true, ModeInfo.ofName "Pause" true, ModeInfo.ofName "1000baseT_Full" true,
    ModeInfo.ofName "1000baseX_Full" true, ModeInfo.ofName "2500baseT_Full" true]
  saved := true

theorem findCommonAdvertisedModes_fiveModes :
    (fiveModes.modes.map ModeInfo.name).Nodup ∧ (findCommonAdvertisedModes fiveModes fiveModes).1 = true ∧
    ∃ pref fallback, (findCommonAdvertisedModes fiveModes fiveModes).2 = (some pref, some fallback) ∧
      TwoHighest (commonModes fiveModes fiveModes) pref fallback ∧
      0 < pairPriorityCmp pref.speed pref.duplex fallback.speed fallback.duplex := by
  have unique : (fiveModes.modes.map ModeInfo.name).Nodup := by decide
  have found : (findCommonAdvertisedModes fiveModes fiveModes).1 = true := by decide
  exact ⟨unique, found, (findCommonAdvertisedModes_spec fiveModes fiveModes unique).2.1 found⟩

end NetDrv.Phy
