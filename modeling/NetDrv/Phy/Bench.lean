import NetDrv.Phy.Link

/-! The bench of the PHY tests: an interface on each side, the Configurator's view of
both, and the link between them. The link and the drivers may answer anything at any
time, so `Link` has one answer for each question and each moment it may be asked at.
Checks do not stop a test: a report that is not the expected one leaves an error
verdict behind, and every report is noted with the configurations it was made under. -/

namespace NetDrv.Phy
open Script

inductive Side where
  | iut
  | tst
  deriving DecidableEq, Repr

def Side.peer : Side → Side
  | .iut => .tst
  | .tst => .iut

inductive Port where
  | tp
  | other
  deriving DecidableEq, Repr

inductive Report where
  | autoneg (value : Autoneg)
  | modeAdv (name : String) (value : Bool)
  | lpAutoneg (value : Autoneg)
  | lpAdvertised (name : String) (value : Bool)
  | modeOper (speed : Speed) (duplex : Duplex)
  deriving DecidableEq, Repr

structure Observation where
  side : Side
  own : PhyTree
  peer : PhyTree
  report : Report

/-- Where a check was made: a text, or the text composed of a side and the mode forced there. -/
inductive Place where
  | text (text : String)
  | fixedMode (who : String) (speed : Speed) (duplex : Duplex)
  deriving DecidableEq, Repr

/-- Error verdicts, with what their texts are composed of. -/
inductive Verdict where
  | autoneg (place : Place) (autoneg expected : Autoneg)
  | lpAutoneg (place : Place) (lpAutoneg expected : Autoneg)
  | operMode (place : Place) (speed : Speed) (duplex : Duplex) (expectedSpeed : Speed) (expectedDuplex : Duplex)
  | localMode (place : Place) (modeName : String) (advertised : Bool)
  | partnerMode (place : Place) (advertised : Bool)
  | notUp (rc : TeErrno)
  deriving DecidableEq, Repr

structure Link where
  autonegGet : Nat → Side → Except TeErrno Autoneg
  modeAdvGet : Nat → Side → String → Except TeErrno Bool
  sync : Nat → Side → Except TeErrno Unit
  /-- The number of instances of `/phy:/lp_advertised:*`. -/
  lpModes : Nat → Side → Except TeErrno Nat
  lpAutonegGet : Nat → Side → Except TeErrno Autoneg
  lpAdvertised : Nat → Side → String → Except TeErrno Bool
  modeOperGet : Nat → Side → Except TeErrno (Speed × Duplex)
  portGet : Nat → Side → Except TeErrno Port
  stateWaitUp : Nat → Side → Except TeErrno Unit
  ifDown : Nat → Side → Except TeErrno Unit
  ifUp : Nat → Side → Except TeErrno Unit
  /-- `GEN_CONNECTION()`. -/
  genConnection : Nat → Except Jump Unit
  /-- Data sent from a side and checked on the other one. -/
  sendRecv : Nat → Side → Except Jump Unit

structure Bench where
  cfg : Side → Cfg
  saved : Side → Option SavedState
  /-- Questions the link was asked so far. -/
  moment : Nat
  seen : List Observation
  verdicts : List Verdict

abbrev BenchScript := Script Jump Bench

def Bench.start (iut tst : Cfg) : Bench :=
  ⟨fun side => match side with | .iut => iut | .tst => tst, fun _ => none, 0, [], []⟩

def Bench.setCfg (side : Side) (cfg : Cfg) (bench : Bench) : Bench :=
  { bench with cfg := fun other => if other = side then cfg else bench.cfg other }

def Bench.setSaved (side : Side) (state : SavedState) (bench : Bench) : Bench :=
  { bench with saved := fun other => if other = side then some state else bench.saved other }

def Bench.tick (bench : Bench) : Bench := { bench with moment := bench.moment + 1 }

def Bench.note (side : Side) (report : Report) (bench : Bench) : Bench :=
  { bench with seen := bench.seen ++ [⟨side, (bench.cfg side).tree, (bench.cfg side.peer).tree, report⟩] }

def Bench.verdict (verdict : Verdict) (bench : Bench) : Bench :=
  { bench with verdicts := bench.verdicts ++ [verdict] }

/-- Run a library call on one side and hand out its status. -/
def onSide {α : Type} (side : Side) (call : PhyScript α) : BenchScript (Except TeErrno α) :=
  zoom (fun bench => bench.cfg side) (Bench.setCfg side) (attempt call)

def checkRc {α : Type} : Except TeErrno α → BenchScript α
  | .ok value => pure value
  | .error rc => fail (.checkRc rc)

def ask {α : Type} (question : Nat → α) : BenchScript α := fun bench => (.ok (question bench.moment), bench.tick)

def errorVerdict (verdict : Verdict) : BenchScript Unit := update (Bench.verdict verdict)

def judge (side : Side) (report : Report) (wrong : Bool) (verdict : Verdict) : BenchScript Unit := do
  update (Bench.note side report)
  when wrong (errorVerdict verdict)

section
variable (answer : Side → Nat → Command → Option TeErrno) (link : Link)

def stateSaveOrSkip (who : String) (side : Side) : BenchScript SavedState := do
  match ← onSide side (stateSave (answer side)) with
  | .ok state => do
      update (Bench.setSaved side state)
      pure state
  | .error rc =>
    if rc.error = .enoent ∨ rc.error = .eopnotsupp then
      fail (.skip s!"PHY link settings are not exposed on {who}")
    else fail (.verdict s!"Failed to save {who} PHY state")

def lpTreeIsExposed (side : Side) : BenchScript Bool := do
  checkRc (← ask (fun moment => link.sync moment side))
  match ← ask (fun moment => link.lpModes moment side) with
  | .ok num => pure (num != 0)
  | .error rc => if rc = teRc .cs .enoent then pure false else fail (.checkRc rc)

def checkAutonegState (place : Place) (side : Side) (expected : Autoneg) : BenchScript Unit := do
  let autoneg ← checkRc (← ask (fun moment => link.autonegGet moment side))
  judge side (.autoneg autoneg) (autoneg != expected)
    (.autoneg place autoneg expected)

def checkLpAutonegState (place : Place) (side : Side) (expected : Autoneg) : BenchScript Unit := do
  when (← lpTreeIsExposed link side) (do
    checkRc (← ask (fun moment => link.sync moment side))
    let lpAutoneg ← checkRc (← ask (fun moment => link.lpAutonegGet moment side))
    judge side (.lpAutoneg lpAutoneg) (lpAutoneg != expected)
      (.lpAutoneg place lpAutoneg expected))

def checkOperMode (place : Place) (side : Side) (expectedSpeed : Speed) (expectedDuplex : Duplex) :
    BenchScript Unit := do
  let (speed, duplex) ← checkRc (← ask (fun moment => link.modeOperGet moment side))
  judge side (.modeOper speed duplex) (speed != expectedSpeed || duplex != expectedDuplex)
    (.operMode place speed duplex expectedSpeed expectedDuplex)

def checkLocalModeAdvertised (place : Place) (side : Side) (modeName : String) (expected : Bool) :
    BenchScript Unit := do
  let advertised ← checkRc (← ask (fun moment => link.modeAdvGet moment side modeName))
  judge side (.modeAdv modeName advertised) (advertised != expected)
    (.localMode place modeName advertised)

def checkPartnerModeAdvertised (place : Place) (side : Side) (modeName : String) (expected : Bool) :
    BenchScript Unit := do
  when (← lpTreeIsExposed link side) (do
    checkRc (← ask (fun moment => link.sync moment side))
    let advertised ← checkRc (← ask (fun moment => link.lpAdvertised moment side modeName))
    judge side (.lpAdvertised modeName advertised) (advertised != expected)
      (.partnerMode place advertised))

inductive Check where
  | autonegState (place : Place) (side : Side) (expected : Autoneg)
  | lpAutonegState (place : Place) (side : Side) (expected : Autoneg)
  | operMode (place : Place) (side : Side) (expectedSpeed : Speed) (expectedDuplex : Duplex)
  | localModeAdvertised (place : Place) (side : Side) (modeName : String) (expected : Bool)
  | partnerModeAdvertised (place : Place) (side : Side) (modeName : String) (expected : Bool)
  deriving DecidableEq, Repr

def Check.run : Check → BenchScript Unit
  | .autonegState place side expected => checkAutonegState link place side expected
  | .lpAutonegState place side expected => checkLpAutonegState link place side expected
  | .operMode place side expectedSpeed expectedDuplex => checkOperMode link place side expectedSpeed expectedDuplex
  | .localModeAdvertised place side modeName expected => checkLocalModeAdvertised link place side modeName expected
  | .partnerModeAdvertised place side modeName expected => checkPartnerModeAdvertised link place side modeName expected

def waitUp (side : Side) : BenchScript Unit := do
  match ← ask (fun moment => link.stateWaitUp moment side) with
  | .ok _ => pure ()
  | .error _ => fail (.verdict "Failed to wait until interface becomes UP")

/-- `net_drv_conn_check()`: data in both directions. -/
def connCheck : BenchScript Unit := do
  ofExcept (← ask (fun moment => link.sendRecv moment .iut))
  ofExcept (← ask (fun moment => link.sendRecv moment .tst))

end

end NetDrv.Phy
