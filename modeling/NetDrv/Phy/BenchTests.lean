import NetDrv.Phy.Bench
import NetDrv.Phy.FixedModes

/-! The tests `ethtool/autoneg_advertise`, `ethtool/link_fixed_mode` and
`ethtool/parallel_detect` as they run on the bench, up to the jump to their cleanup. -/

namespace NetDrv.Phy
open Script

/-- The checks of `autoneg_advertise` with the initial advertised set. -/
def initialSet (pref fallback : ModeInfo) : List Check :=
  [.autonegState (.text "IUT initial") .iut .on,
    .autonegState (.text "Tester initial") .tst .on,
    .lpAutonegState (.text "IUT initial") .iut .on,
    .lpAutonegState (.text "Tester initial") .tst .on,
    .localModeAdvertised (.text "IUT initial local preferred PHY") .iut pref.name true,
    .localModeAdvertised (.text "IUT initial local lower-priority PHY") .iut fallback.name true,
    .localModeAdvertised (.text "Tester initial local preferred PHY") .tst pref.name true,
    .localModeAdvertised (.text "Tester initial local lower-priority PHY") .tst fallback.name true,
    .partnerModeAdvertised (.text "IUT initial partner preferred PHY") .iut pref.name true,
    .partnerModeAdvertised (.text "IUT initial partner lower-priority PHY") .iut fallback.name true,
    .partnerModeAdvertised (.text "Tester initial partner preferred PHY") .tst pref.name true,
    .partnerModeAdvertised (.text "Tester initial partner lower-priority PHY") .tst fallback.name true,
    .operMode (.text "IUT initial") .iut pref.speed pref.duplex,
    .operMode (.text "Tester initial") .tst pref.speed pref.duplex]

/-- The checks of `autoneg_advertise` after the changed side no longer advertises the preferred mode. -/
def changedSet (changed : Side) (pref fallback : ModeInfo) : List Check :=
  [.autonegState (.text "IUT after advertise change") .iut .on,
    .autonegState (.text "Tester after advertise change") .tst .on,
    .lpAutonegState (.text "IUT after advertise change") .iut .on,
    .lpAutonegState (.text "Tester after advertise change") .tst .on,
    .localModeAdvertised (.text "Changed side local preferred PHY") changed pref.name false,
    .localModeAdvertised (.text "Changed side local lower-priority PHY") changed fallback.name true,
    .localModeAdvertised (.text "Peer side local preferred PHY") changed.peer pref.name true,
    .localModeAdvertised (.text "Peer side local lower-priority PHY") changed.peer fallback.name true,
    .partnerModeAdvertised (.text "Changed side partner preferred PHY") changed pref.name true,
    .partnerModeAdvertised (.text "Changed side partner lower-priority PHY") changed fallback.name true,
    .partnerModeAdvertised (.text "Peer side partner preferred PHY") changed.peer pref.name false,
    .partnerModeAdvertised (.text "Peer side partner lower-priority PHY") changed.peer fallback.name true,
    .operMode (.text "IUT after advertise change") .iut fallback.speed fallback.duplex,
    .operMode (.text "Tester after advertise change") .tst fallback.speed fallback.duplex]

/-- The checks of `link_fixed_mode` after both sides were switched. -/
def fixedModeSet (mode : ModeInfo) : List Check :=
  [.autonegState (.fixedMode "IUT" mode.speed mode.duplex) .iut .off,
    .autonegState (.fixedMode "Tester" mode.speed mode.duplex) .tst .off,
    .lpAutonegState (.fixedMode "IUT" mode.speed mode.duplex) .iut .off,
    .lpAutonegState (.fixedMode "Tester" mode.speed mode.duplex) .tst .off,
    .operMode (.fixedMode "IUT" mode.speed mode.duplex) .iut mode.speed mode.duplex,
    .operMode (.fixedMode "Tester" mode.speed mode.duplex) .tst mode.speed mode.duplex]

/-- `forced_mode_info`. -/
structure ForcedModeInfo where
  fullModeName : String
  halfModeName : String
  speed : Nat
  duplex : Duplex
  deriving DecidableEq, Repr

/-- The checks of `parallel_detect`. -/
def detectedSet (forced : ForcedModeInfo) : List Check :=
  [.autonegState (.text "IUT") .iut .on,
    .autonegState (.text "Tester") .tst .off,
    .lpAutonegState (.text "IUT") .iut .off,
    .operMode (.text "IUT") .iut (.mbps forced.speed) .half,
    .operMode (.text "Tester") .tst (.mbps forced.speed) forced.duplex]

section
variable (answer : Side → Nat → Command → Option TeErrno) (link : Link)

def testPhyApplyAutonegModes (side : Side) (state : SavedState) (prefMode : String) (fallbackMode : Option String)
    (place : String) : BenchScript Unit := do
  match ← onSide side (applyAutonegModes (answer side) state prefMode fallbackMode) with
  | .ok _ => pure ()
  | .error rc =>
    if rc.error = .einval ∨ rc.error = .eopnotsupp then
      fail (.skip s!"Changing advertised PHY modes is not supported on {place}")
    else fail (.fail s!"Failed to change advertised PHY modes on {place}")

/-- What each test does after it changed the configuration: wait for the link, make its checks and
see whether data flows. -/
def settleAndCheck (checks : List Check) : BenchScript Unit := do
  waitUp link .iut
  waitUp link .tst
  forEach checks (Check.run link)
  connCheck link

/-- The steps of `autoneg_advertise`; `changed` is the side the environment calls so. -/
def autonegAdvertise (changed : Side) (ifDown : Bool) : BenchScript Unit := do
  let iutSaved ← stateSaveOrSkip answer "IUT" .iut
  let tstSaved ← stateSaveOrSkip answer "Tester" .tst
  let (pref, fallback) ← ofExcept (chooseModes iutSaved tstSaved)
  ofExcept (← ask link.genConnection)
  testPhyApplyAutonegModes answer .iut iutSaved pref.name (some fallback.name) "IUT"
  testPhyApplyAutonegModes answer .tst tstSaved pref.name (some fallback.name) "Tester"
  settleAndCheck link (initialSet pref fallback)
  testPhyApplyAutonegModes answer changed (if changed = .iut then iutSaved else tstSaved) fallback.name none "one of sides"
  when ifDown (do
    checkRc (← ask (fun moment => link.ifDown moment .iut))
    checkRc (← ask (fun moment => link.ifUp moment .iut)))
  settleAndCheck link (changedSet changed pref fallback)

/-- How an attempt to force a mode ends: the mode is skipped if the driver does not support it. -/
def tryFixedMode (side : Side) (mode : ModeInfo) (who : String) : BenchScript Bool := do
  match ← onSide side (applyFixedMode (answer side) mode.speed mode.duplex) with
  | .ok _ => pure true
  | .error rc =>
    if rc.error = .einval ∨ rc.error = .eopnotsupp then pure false
    else fail (.fail s!"Failed to apply fixed PHY mode on {who}")

/-- The body of the loop of `link_fixed_mode`: whether the mode was tested. -/
def switchFixedMode (mode : ModeInfo) : BenchScript Bool := do
  if ← tryFixedMode answer .iut mode "IUT" then
    if ← tryFixedMode answer .tst mode "Tester" then do
      settleAndCheck link (fixedModeSet mode)
      pure true
    else pure false
  else pure false

/-- The loop of `link_fixed_mode`: the modes that were tested. -/
def switchAll : List ModeInfo → BenchScript (List ModeInfo)
  | [] => pure []
  | mode :: modes => do
      let accepted ← switchFixedMode answer link mode
      let tested ← switchAll modes
      pure (if accepted then mode :: tested else tested)

/-- The steps of `link_fixed_mode`. -/
def linkFixedMode : BenchScript Unit := do
  let iutSaved ← stateSaveOrSkip answer "IUT" .iut
  let tstSaved ← stateSaveOrSkip answer "Tester" .tst
  match findCommonModeCandidates iutSaved tstSaved with
  | none => fail .stop
  | some candidates => do
      when (candidates.candidatesNum == 0) (fail (.skip "No common supported PHY modes found"))
      ofExcept (← ask link.genConnection)
      let tested ← switchAll answer link candidates.entries
      when (tested.length ≤ 1) (fail (.skip "Too few common PHY modes accepted fixed-mode switching"))

def forcedCandidates : List ForcedModeInfo :=
  [⟨"100baseT_Full", "100baseT_Half", 100, .full⟩, ⟨"10baseT_Full", "10baseT_Half", 10, .full⟩]

def findCommonForcedMode (iut tst : SavedState) : Option ForcedModeInfo :=
  forcedCandidates.find? (fun candidate =>
    (iut.findModeByName candidate.halfModeName).isSome && (iut.findModeByName candidate.fullModeName).isSome &&
      (tst.findModeByName candidate.fullModeName).isSome)

def checkTpPortOrSkip (side : Side) : BenchScript Unit := do
  let port ← checkRc (← ask (fun moment => link.portGet moment side))
  when (port != .tp) (fail (.skip "Unsupported PHY for parallel detecting"))

/-- The steps of `parallel_detect`. -/
def parallelDetect : BenchScript Unit := do
  let iutSaved ← stateSaveOrSkip answer "IUT" .iut
  let tstSaved ← stateSaveOrSkip answer "Tester" .tst
  checkTpPortOrSkip link .iut
  checkTpPortOrSkip link .tst
  match findCommonForcedMode iutSaved tstSaved with
  | none => fail (.skip "Parallel detect requires common 10/100 PHY modes")
  | some forced => do
      ofExcept (← ask link.genConnection)
      checkRc (← onSide .iut (applyAutonegModes (answer .iut) iutSaved forced.fullModeName (some forced.halfModeName)))
      checkRc (← onSide .tst (applyFixedMode (answer .tst) (.mbps forced.speed) forced.duplex))
      settleAndCheck link (detectedSet forced)

end

inductive PhyTest where
  | autonegAdvertise (changed : Side) (ifDown : Bool)
  | linkFixedMode
  | parallelDetect
  deriving DecidableEq, Repr

def PhyTest.steps (answer : Side → Nat → Command → Option TeErrno) (link : Link) : PhyTest → BenchScript Unit
  | .autonegAdvertise changed ifDown => NetDrv.Phy.autonegAdvertise answer link changed ifDown
  | .linkFixedMode => NetDrv.Phy.linkFixedMode answer link
  | .parallelDetect => NetDrv.Phy.parallelDetect answer link

end NetDrv.Phy
