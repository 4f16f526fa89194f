import NetDrv.Lib.Script
import NetDrv.Lib.Staged
import NetDrv.Te

/-! The Tx coalescing test. It saves the parameters a profile changes, switches the
adaptive mode off, stages the concrete values of the profile, commits them, and
switches the adaptive mode on if the profile asks for it. Every failure on the way
leads to the same cleanup, which puts the saved values back. -/

namespace NetDrv.TxCoalesce
open Script

structure Param where
  name : String
  value : Nat
  prevValue : Nat
  deriving DecidableEq, Repr

def adaptiveName : String := "use_adaptive_tx_coalesce"

def testCoalesceParam (name : String) (value : Nat) : Param := ⟨name, value, 0⟩

inductive Profile where
  | disabled
  | timeOnly
  | framesOnly
  | timeFrames
  | irq
  | irqUsecs
  | irqFrames
  | adaptive
  | adaptiveLowTime
  | adaptiveLowFrames
  | adaptiveHighTime
  | adaptiveHighFrames
  | adaptiveRate
  | invalid
  deriving DecidableEq, Repr

def profileParams : Profile → List Param
  | .disabled =>
    [testCoalesceParam "tx_coalesce_usecs" 0, testCoalesceParam "tx_max_coalesced_frames" 1]
  | .timeOnly =>
    [testCoalesceParam "tx_coalesce_usecs" 100, testCoalesceParam "tx_max_coalesced_frames" 0]
  | .framesOnly =>
    [testCoalesceParam "tx_coalesce_usecs" 0, testCoalesceParam "tx_max_coalesced_frames" 16]
  | .timeFrames =>
    [testCoalesceParam "tx_coalesce_usecs" 100, testCoalesceParam "tx_max_coalesced_frames" 16]
  | .irq =>
    [testCoalesceParam "tx_coalesce_usecs_irq" 50, testCoalesceParam "tx_max_coalesced_frames_irq" 8]
  | .irqUsecs => [testCoalesceParam "tx_coalesce_usecs_irq" 50]
  | .irqFrames => [testCoalesceParam "tx_max_coalesced_frames_irq" 8]
  | .adaptive => [testCoalesceParam adaptiveName 1]
  | .adaptiveLowTime => [testCoalesceParam "tx_coalesce_usecs_low" 10, testCoalesceParam adaptiveName 1]
  | .adaptiveLowFrames => [testCoalesceParam "tx_max_coalesced_frames_low" 1, testCoalesceParam adaptiveName 1]
  | .adaptiveHighTime => [testCoalesceParam "tx_coalesce_usecs_high" 200, testCoalesceParam adaptiveName 1]
  | .adaptiveHighFrames => [testCoalesceParam "tx_max_coalesced_frames_high" 32, testCoalesceParam adaptiveName 1]
  | .adaptiveRate =>
    [testCoalesceParam "pkt_rate_low" 1000, testCoalesceParam "pkt_rate_high" 10000,
      testCoalesceParam "rate_sample_interval" 1, testCoalesceParam adaptiveName 1]
  | .invalid =>
    [testCoalesceParam "tx_coalesce_usecs" 0, testCoalesceParam "tx_max_coalesced_frames" 0]

def profileEnablesAdaptiveTx : Profile → Bool
  | .adaptive => true
  | .adaptiveLowTime => true
  | .adaptiveLowFrames => true
  | .adaptiveHighTime => true
  | .adaptiveHighFrames => true
  | .adaptiveRate => true
  | _ => false

/-- A coalescing parameter of the interface: of one of its queues, or global with a negative queue id. -/
structure Key where
  queueId : Int
  name : String
  deriving DecidableEq, Repr

def queueIdOf (perQueue : Bool) : Int := if perQueue then 0 else -1

/-- Whether `tapi_cfg_if_coalesce_queues_commit()` called with this flag is about the parameter. -/
def commits (perQueue : Bool) (key : Key) : Bool := decide (0 ≤ key.queueId) == perQueue

/-- What a commit was asked to apply, and the adaptive flag at that time. -/
structure CommitRecord where
  entries : List (Key × Nat)
  adaptive : Nat

/-- The configuration and the variables of `main()`; `commits` records the commits issued and `failed`
that a `CLEANUP_CHECK_RC()` saw an error. -/
structure World where
  settings : Staged Key Nat
  params : List Param
  restorePrevValues : Bool
  restoreAdaptiveTx : Bool
  prevAdaptiveTx : Nat
  commits : List CommitRecord
  failed : Bool

def World.start (profile : Profile) (initial : Key → Nat) : World :=
  ⟨⟨initial, []⟩, profileParams profile, false, false, 0, [], false⟩

abbrev TxScript (α : Type) : Type := Script Jump World α

/-- Answers of the calls that write: a set of the adaptive flag to a value, a local set of a parameter,
and the commit. -/
structure Calls where
  set : Nat → Option TeErrno
  setLocal : String → Option TeErrno
  commit : Option TeErrno

structure Calls.Succeed (calls : Calls) : Prop where
  set : ∀ value, calls.set value = none
  setLocal : ∀ name, calls.setLocal name = none
  commit : calls.commit = none

/-- Answers of the calls of one run. Values are read back from the device after it was configured, and
need not be those it was configured with. -/
structure Env where
  supportGet : Option TeErrno
  saveGet : String → Option TeErrno
  adaptiveGet : Option TeErrno
  body : Calls
  readBack : String → Except TeErrno Nat
  cleanup : Calls
  /-- How `%r` prints a status code. -/
  rcText : TeErrno → String

section
variable (env : Env) (profile : Profile) (perQueue : Bool)

def adaptiveKey : Key := ⟨queueIdOf perQueue, adaptiveName⟩

/-- `tapi_cfg_if_coalesce_queue_set()` of the adaptive flag. -/
def adaptiveSet (calls : Calls) (value : Nat) : TxScript (Option TeErrno) := do
  match calls.set value with
  | some rc => pure (some rc)
  | none =>
    update (fun w => { w with settings := w.settings.set (adaptiveKey perQueue) value })
    pure none

def queueSetLocal (calls : Calls) (name : String) (value : Nat) : TxScript (Option TeErrno) := do
  match calls.setLocal name with
  | some rc => pure (some rc)
  | none =>
    update (fun w => { w with settings := w.settings.stage ⟨queueIdOf perQueue, name⟩ value })
    pure none

/-- `tapi_cfg_if_coalesce_queues_commit()`; what was staged is gone whether it succeeds or not. -/
def queuesCommit (calls : Calls) : TxScript (Option TeErrno) := do
  update (fun w => { w with
    commits := w.commits ++
      [⟨w.settings.chosen (commits perQueue), w.settings.committed (adaptiveKey perQueue)⟩] })
  match calls.commit with
  | some rc =>
    update (fun w => { w with settings := w.settings.discard (commits perQueue) })
    pure (some rc)
  | none =>
    update (fun w => { w with settings := w.settings.commit (commits perQueue) })
    pure none

def orJump (jump : TeErrno → Jump) (x : TxScript (Option TeErrno)) : TxScript Unit := do
  match ← x with
  | some rc => fail (jump rc)
  | none => pure ()

def cleanupCheckRc (x : TxScript (Option TeErrno)) : TxScript Unit := do
  match ← x with
  | some _ => update (fun w => { w with failed := true })
  | none => pure ()

def setCoalesceParamsLocally (calls : Calls) (restore : Bool) : List Param → TxScript (Option TeErrno)
  | [] => pure none
  | param :: params => do
    if param.name = adaptiveName then setCoalesceParamsLocally calls restore params
    else
      match ← queueSetLocal perQueue calls param.name (if restore then param.prevValue else param.value) with
      | some rc => pure (some rc)
      | none => setCoalesceParamsLocally calls restore params

/-- `save_profile_params()` with the parameters before `params` saved already. -/
def saveProfileParams (saved : List Param) : List Param → TxScript Unit
  | [] => pure ()
  | param :: params => do
    match env.saveGet param.name with
    | some rc => fail (.fail ("Failed to get " ++ param.name ++ ": " ++ env.rcText rc))
    | none =>
      let value ← gets (fun w => w.settings.committed ⟨queueIdOf perQueue, param.name⟩)
      let read : Param := { param with prevValue := value }
      update (fun w => { w with params := saved ++ read :: params })
      saveProfileParams (saved ++ [read]) params

def checkProfileParams (params : List Param) : TxScript Unit :=
  forEach params (fun param =>
    match env.readBack param.name with
    | .error rc => fail (.checkRc rc)
    | .ok actual =>
      when (actual != param.value) (fail (.verdict ("Expected " ++ param.name ++ "=" ++ toString param.value ++
        ", got " ++ toString actual))))

def checkSupported : TxScript Unit :=
  match env.supportGet with
  | none => pure ()
  | some rc =>
    if rc.error = .enoent ∨ rc.error = .eopnotsupp then
      fail (.skip ((if perQueue then "Per-queue" else "Global") ++ " Tx coalescing settings are not supported"))
    else fail (.fail ("Failed to get tx_coalesce_usecs: " ++ env.rcText rc.error))

def saveAll : TxScript Unit := do
  saveProfileParams env perQueue [] (← gets World.params)
  update (fun w => { w with restorePrevValues := true })
  match env.adaptiveGet with
  | some rc => fail (.checkRc rc)
  | none =>
    let value ← gets (fun w => w.settings.committed (adaptiveKey perQueue))
    update (fun w => { w with prevAdaptiveTx := value })
    update (fun w => { w with restoreAdaptiveTx := true })

def disableAdaptive : TxScript Unit := do
  let prevAdaptiveTx ← gets World.prevAdaptiveTx
  when (profileEnablesAdaptiveTx profile || prevAdaptiveTx != 0)
    (orJump (fun rc => .verdict ("Failed to disable use_adaptive_tx_coalesce, rc=" ++ env.rcText rc.error))
      (adaptiveSet perQueue env.body 0))

/-- The branch for the invalid profile: the commit must be refused with `TE_EINVAL`. -/
def applyInvalid : TxScript Unit := do
  let params ← gets World.params
  orJump .checkRc (setCoalesceParamsLocally perQueue env.body false params)
  match ← queuesCommit perQueue env.body with
  | none => fail (.verdict "Zero Tx time and frame limits unexpectedly succeeded")
  | some rc =>
    when (rc.error != .einval)
      (fail (.verdict ("Zero Tx time and frame limits failed with unexpected rc=" ++ env.rcText rc.error)))

def applyProfile : TxScript Unit := do
  let params ← gets World.params
  orJump .checkRc (setCoalesceParamsLocally perQueue env.body false params)
  orJump (fun rc => .verdict ("Failed to set Tx coalescing settings, rc=" ++ env.rcText rc.error))
    (queuesCommit perQueue env.body)
  when (profileEnablesAdaptiveTx profile)
    (orJump (fun rc => .verdict ("Failed to enable use_adaptive_tx_coalesce, rc=" ++ env.rcText rc.error))
      (adaptiveSet perQueue env.body 1))
  checkProfileParams env params

def testBody : TxScript Unit := do
  checkSupported env perQueue
  saveAll env perQueue
  disableAdaptive env profile perQueue
  if profile = .invalid then applyInvalid env perQueue else applyProfile env profile perQueue

def cleanup : TxScript Unit := do
  if ← gets World.restorePrevValues then
    let restoreAdaptiveTx ← gets World.restoreAdaptiveTx
    let prevAdaptiveTx ← gets World.prevAdaptiveTx
    let params ← gets World.params
    when (restoreAdaptiveTx && profileEnablesAdaptiveTx profile)
      (cleanupCheckRc (adaptiveSet perQueue env.cleanup 0))
    cleanupCheckRc (setCoalesceParamsLocally perQueue env.cleanup true params)
    cleanupCheckRc (queuesCommit perQueue env.cleanup)
    when (restoreAdaptiveTx && prevAdaptiveTx != 0)
      (cleanupCheckRc (adaptiveSet perQueue env.cleanup prevAdaptiveTx))

def main : TxScript Unit := do
  let outcome ← attempt (testBody env profile perQueue)
  cleanup env profile perQueue
  ofExcept outcome

end
end NetDrv.TxCoalesce
