import NetDrv.Phy.Config

/-! The operations of `net_drv_phy.c` that save, change and restore the configuration. -/

namespace NetDrv.Phy
open Script

section
variable (answer : Nat → Command → Option TeErrno)

/-- The loop of `net_drv_phy_state_save()` over the handles it found. -/
def saveModes : List String → PhyScript (List ModeInfo)
  | [] => pure []
  | handle :: handles => do
      let name ← instName answer handle
      let advertised ← modeAdvGet answer name
      let modes ← saveModes handles
      pure (ModeInfo.ofName name advertised :: modes)

/-- `net_drv_phy_state_save()`. A failure hands out nothing: the state then stays without its
`saved` flag, which is all the callers look at. -/
def stateSave : PhyScript SavedState := do
  enterCall
  let autoneg ← autonegGet answer
  let speedAdmin ← speedAdminGet answer
  let duplexAdmin ← duplexAdminGet answer
  let handles ← findModes answer
  let modes ← saveModes answer handles
  pure ⟨autoneg, speedAdmin, duplexAdmin, modes, true⟩

/-- Speed and duplex are compared only if autonegotiation was off. -/
def fixedModeDiffers (state : SavedState) : PhyScript Bool :=
  if state.autoneg = .off then do
    let currentSpeed ← speedAdminGet answer
    let currentDuplex ← duplexAdminGet answer
    pure (currentSpeed != state.speedAdmin || currentDuplex != state.duplexAdmin)
  else pure false

/-- The comparison loop over link modes; it stops at the first difference. -/
def advertisedDiffers (state : SavedState) (wanted : ModeInfo → Bool) : PhyScript Bool :=
  findFirst state.linkModes (fun mode => do
    let currentAdvertised ← modeAdvGet answer mode.name
    pure (currentAdvertised != wanted mode))

def advertise (state : SavedState) (wanted : ModeInfo → Bool) : PhyScript Unit :=
  forEach state.linkModes (fun mode => modeAdvSet answer mode.name (wanted mode))

def stateRestore (state : SavedState) : PhyScript Unit := do
  enterCall
  syncTree answer
  let currentAutoneg ← autonegGet answer
  let fixedChanged ← fixedModeDiffers answer state
  let modesChanged ← advertisedDiffers answer state ModeInfo.advertised
  if fixedChanged || currentAutoneg != state.autoneg || modesChanged then do
    autonegSet answer state.autoneg
    when (state.autoneg == .off) (do
      speedAdminSet answer state.speedAdmin
      duplexAdminSet answer state.duplexAdmin)
    advertise answer state ModeInfo.advertised
    phyCommit answer
  else pure ()

/-- The modes `net_drv_phy_apply_autoneg_modes()` leaves advertised. -/
def shouldAdvertise (mode1Name : String) (mode2Name : Option String) (mode : ModeInfo) : Bool :=
  mode.name == mode1Name || mode2Name == some mode.name

def applyAutonegModes (state : SavedState) (mode1Name : String) (mode2Name : Option String) :
    PhyScript Unit := do
  enterCall
  let currentAutoneg ← autonegGet answer
  let modesChanged ← advertisedDiffers answer state (shouldAdvertise mode1Name mode2Name)
  if currentAutoneg != .on || modesChanged then do
    advertise answer state (shouldAdvertise mode1Name mode2Name)
    autonegSet answer .on
    phyCommit answer
  else pure ()

def applyFixedMode (speed : Speed) (duplex : Duplex) : PhyScript Unit := do
  enterCall
  let currentAutoneg ← autonegGet answer
  let currentSpeed ← speedAdminGet answer
  let currentDuplex ← duplexAdminGet answer
  when (currentAutoneg != .off) (autonegSet answer .off)
  when (currentSpeed != speed) (speedAdminSet answer speed)
  when (currentDuplex != duplex) (duplexAdminSet answer duplex)
  if currentAutoneg != .off || currentSpeed != speed || currentDuplex != duplex then phyCommit answer
  else pure ()

end

/-- A call of the library on an interface whose state was saved before. -/
inductive Call where
  | autonegModes (mode1Name : String) (mode2Name : Option String)
  | fixedMode (speed : Speed) (duplex : Duplex)
  | restore
  deriving DecidableEq, Repr

def Call.run (answer : Nat → Command → Option TeErrno) (state : SavedState) : Call → PhyScript Unit
  | .autonegModes mode1Name mode2Name => applyAutonegModes answer state mode1Name mode2Name
  | .fixedMode speed duplex => applyFixedMode answer speed duplex
  | .restore => stateRestore answer state

end NetDrv.Phy
