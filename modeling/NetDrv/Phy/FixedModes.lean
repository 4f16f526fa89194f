import NetDrv.Lib.Firsts
import NetDrv.Phy.CommonModes
import NetDrv.Phy.Restore

/-! `ethtool/link_fixed_mode` forces every speed and duplex both sides support. Its
candidates are looked up by name on the peer but told apart by speed and duplex, so a mode
the peer lacks must not stand in the way of a later one of the same pair. -/

namespace NetDrv.Phy

def isModePairSelected (modes : List ModeInfo) (mode : ModeInfo) : Bool :=
  modes.any (fun selected => selected.speed = mode.speed && selected.duplex = mode.duplex)

/-- The body of the loop of `find_common_mode_candidates()`. `found_modes` has room for
`modesNum` entries; `none` is a write past them. -/
def considerCandidate (modesNum : Nat) (tst : SavedState) (found : List ModeInfo) (mode : ModeInfo) :
    Option (List ModeInfo) :=
  if !isLinkMode mode then some found
  else
    match tst.findModeByName mode.name with
    | none => some found
    | some peerMode =>
      if !isLinkMode peerMode then some found
      else if isModePairSelected found mode then some found
      else if found.length < modesNum then some (found ++ [mode])
      else none

/-- What `find_common_mode_candidates()` stores: the array, which may be `NULL`, and its size. -/
structure Candidates where
  candidates : Option (List ModeInfo)
  candidatesNum : Nat
  deriving DecidableEq, Repr

def findCommonModeCandidates (iut tst : SavedState) : Option Candidates :=
  if iut.modes.length = 0 then some ⟨none, 0⟩
  else
    match iut.modes.foldlM (considerCandidate iut.modes.length tst) [] with
    | none => none
    | some foundModes =>
      if foundModes.length = 0 then some ⟨none, 0⟩
      else some ⟨some foundModes, foundModes.length⟩

def Candidates.entries (out : Candidates) : List ModeInfo := (out.candidates.getD []).take out.candidatesNum

def SavedState.hasLinkMode (state : SavedState) (name : String) : Bool := (state.findModeByName name).any isLinkMode

/-- The link modes of the IUT which are link modes on the Tester too. -/
def commonLinkModes (iut tst : SavedState) : List ModeInfo :=
  iut.modes.filter (fun mode => isLinkMode mode && tst.hasLinkMode mode.name)

/-- Whether the modes are as `net_drv_phy_state_save()` describes them. -/
def SavedState.Described (state : SavedState) : Prop :=
  ∀ mode ∈ state.modes, mode = ModeInfo.ofName mode.name mode.advertised

theorem snapshot_described (tree : PhyTree) : (snapshot tree).Described := by
  intro mode mem
  obtain ⟨name, -, same⟩ := List.mem_map.1 mem
  rw [← same, ofName_name, ofName_advertised]

section
variable {iut tst : SavedState}

theorem hasLinkMode_iff (described : tst.Described) (name : String) :
    tst.hasLinkMode name = true ↔ ∃ peer ∈ tst.modes, peer.name = name ∧ isLinkMode peer = true := by
  have told : ∀ mode ∈ tst.modes, isLinkMode mode = isLinkName mode.name := by
    intro mode mem
    rw [← isLinkMode_ofName mode.name mode.advertised, ← described mode mem]
  rw [SavedState.hasLinkMode, Option.any_eq_true]
  constructor
  · intro ⟨peer, search, link⟩
    have spec := findModeByName_spec search
    exact ⟨peer, spec.1, spec.2, link⟩
  · intro ⟨mode, mem, named, link⟩
    obtain ⟨peer, search⟩ := findModeByName_of_mem mem
    rw [named] at search
    have spec := findModeByName_spec search
    refine ⟨peer, search, ?_⟩
    calc isLinkMode peer = isLinkName name := by rw [told peer spec.1, spec.2]
      _ = isLinkMode mode := by rw [told mode mem, named]
      _ = true := link

theorem isModePairSelected_eq (modes : List ModeInfo) (mode : ModeInfo) :
    isModePairSelected modes mode = modes.any (fun selected => selected.pair = mode.pair) := by
  simp [isModePairSelected, ModeInfo.pair]

theorem considerCandidate_eq {modesNum : Nat} {found : List ModeInfo} (mode : ModeInfo)
    (room : found.length < modesNum) :
    considerCandidate modesNum tst found mode =
      some (if isLinkMode mode && tst.hasLinkMode mode.name then Firsts.keep ModeInfo.pair found mode else found) := by
  unfold considerCandidate SavedState.hasLinkMode Firsts.keep
  rw [isModePairSelected_eq]
  cases isLinkMode mode with
  | false => rfl
  | true =>
    cases tst.findModeByName mode.name with
    | none => rfl
    | some peer => cases link : isLinkMode peer <;> grind

theorem considerCandidate_foldlM {modesNum : Nat} (modes found : List ModeInfo)
    (room : found.length + modes.length ≤ modesNum) :
    modes.foldlM (considerCandidate modesNum tst) found =
      some ((modes.filter (fun mode => isLinkMode mode && tst.hasLinkMode mode.name)).foldl
        (Firsts.keep ModeInfo.pair) found) := by
  induction modes generalizing found with
  | nil => rfl
  | cons mode modes ih =>
    rw [List.length_cons] at room
    rw [List.foldlM_cons, considerCandidate_eq mode (by omega), List.filter_cons]
    split
    next common =>
      have grown := Firsts.length_keep_le ModeInfo.pair found mode
      exact ih _ (by omega)
    next other => exact ih found (by omega)

theorem findCommonModeCandidates_eq (iut tst : SavedState) :
    ∃ out, findCommonModeCandidates iut tst = some out ∧ out.candidatesNum = out.entries.length ∧
      out.entries = (commonLinkModes iut tst).foldl (Firsts.keep ModeInfo.pair) [] := by
  unfold findCommonModeCandidates
  split
  next empty =>
    rw [List.length_eq_zero_iff] at empty
    exact ⟨⟨none, 0⟩, rfl, rfl, by rw [commonLinkModes, empty]; rfl⟩
  next =>
    rw [considerCandidate_foldlM iut.modes [] (by simp), ← commonLinkModes]
    generalize (commonLinkModes iut tst).foldl (Firsts.keep ModeInfo.pair) [] = found
    cases found with
    | nil => exact ⟨⟨none, 0⟩, rfl, rfl, rfl⟩
    | cons mode modes =>
      have whole : Candidates.entries ⟨some (mode :: modes), (mode :: modes).length⟩ = mode :: modes := List.take_length
      exact ⟨⟨some (mode :: modes), (mode :: modes).length⟩, rfl, by rw [whole], whole⟩

end

/-- The candidates for any two states: of each pair that is common, the first common mode of
the IUT, and no other. -/
theorem findCommonModeCandidates_spec (iut tst : SavedState) :
    ∃ out, findCommonModeCandidates iut tst = some out ∧
      out.candidatesNum = out.entries.length ∧ out.candidatesNum ≤ iut.modes.length ∧
      (out.entries.map ModeInfo.pair).Nodup ∧
      (∀ mode ∈ commonLinkModes iut tst, ∃ first,
        (commonLinkModes iut tst).find? (fun other => other.pair = mode.pair) = some first ∧
        out.entries.filter (fun entry => entry.pair = mode.pair) = [first]) ∧
      (∀ entry ∈ out.entries, entry ∈ commonLinkModes iut tst) ∧
      (tst.Described → ∀ mode, mode ∈ commonLinkModes iut tst ↔
        mode ∈ iut.modes ∧ isLinkMode mode = true ∧
          ∃ peer ∈ tst.modes, peer.name = mode.name ∧ isLinkMode peer = true) := by
  obtain ⟨out, run, size, entries⟩ := findCommonModeCandidates_eq iut tst
  have kept : Firsts.Kept ModeInfo.pair (commonLinkModes iut tst) out.entries :=
    entries ▸ Firsts.kept_foldl ModeInfo.pair (commonLinkModes iut tst)
  refine ⟨out, run, size, ?_, kept.distinct, ?_, ?_, ?_⟩
  · calc out.candidatesNum = out.entries.length := size
      _ ≤ (commonLinkModes iut tst).length := kept.length_le
      _ ≤ iut.modes.length := List.length_filter_le _ _
  · intro mode mem
    exact kept.filter_eq mem
  · intro entry mem
    exact kept.mem mem
  · intro described mode
    rw [commonLinkModes, List.mem_filter, Bool.and_eq_true, hasLinkMode_iff described]

/-- A peer that lacks the first mode of a class of `fiveModes`, but not the second. -/
def fourModes : SavedState := { fiveModes with modes := fiveModes.modes.filter (fun mode => mode.name ≠ "1000baseT_Full") }

theorem findCommonModeCandidates_fourModes :
    fourModes.Described ∧ ModeInfo.ofName "1000baseX_Full" true ∈ commonLinkModes fiveModes fourModes ∧
    ∃ out, findCommonModeCandidates fiveModes fourModes = some out ∧
      out.entries.filter (fun entry => entry.pair = (.mbps 1000, .full)) = [ModeInfo.ofName "1000baseX_Full" true] := by
  have described : fourModes.Described := by
    unfold SavedState.Described
    decide
  obtain ⟨out, run, -, -, -, exactly, -, common⟩ := findCommonModeCandidates_spec fiveModes fourModes
  have mem : ModeInfo.ofName "1000baseX_Full" true ∈ commonLinkModes fiveModes fourModes := by
    rw [common described]
    decide
  obtain ⟨first, found, alone⟩ := exactly _ mem
  have same : first = ModeInfo.ofName "1000baseX_Full" true := by
    apply Option.some.inj
    rw [← found]
    decide
  exact ⟨described, mem, out, run, same ▸ alone⟩

end NetDrv.Phy
