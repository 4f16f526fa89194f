import NetDrv.DataFlow.Ownership
import Mathlib.Data.Nat.Find

/-! `if_down_up_loop.c` and `reset_under_traffic.c`: one connection, a flow from the IUT and
a flow to it, and something done to the interface while the data flows. Unlike
`driver_unload_traffic` both start from `NET_DRV_CONN_INIT` and `NET_DRV_FLOW_INIT`. -/

namespace NetDrv.DataFlow
open Script

/-- Index of `tx_flow`; `conn` is the connection number zero. -/
def txFlow : Nat := 0

/-- Index of `rx_flow`. -/
def rxFlow : Nat := 1

/-- How `rpc_drain_fd_duration()` ended. -/
inductive Drained where
  | returned
  | again
  | failed (rc : TeErrno)
  deriving DecidableEq, Repr

/-- What `net_drv_flow_finish()` gets from its two calls. -/
structure Finished where
  senderFailed : Bool
  drained : Drained
  read : Nat
  sent : Nat
  deriving DecidableEq, Repr

/-- `success` at the end of `net_drv_flow_finish()`. -/
def Finished.success (finished : Finished) : Bool :=
  match finished.drained with
  | .failed _ => false
  | .returned | .again =>
    if finished.read = 0 then false
    else if finished.sent < finished.read then false
    else !finished.senderFailed

def Conn.init {Addr : Type} : Conn Addr := { Conn.zero with s1 := -1, s2 := -1 }

def Flow.init : Flow := { Flow.zero with minSize := 1, maxSize := 1024, senderS := -1, receiverS := -1 }

def World.init {Addr : Type} : World Addr := ⟨fun _ => .init, fun _ => .init, 0, 0, [], false⟩

structure Bench (Addr : Type) where
  world : World Addr
  /-- Commands to the interface that were carried out; `true` is UP. -/
  interface : List Bool

def Bench.start {Addr : Type} : Bench Addr := ⟨.init, []⟩

/-- What both tests take from their environment. -/
structure Hosts (Addr : Type) where
  name : Pco → String
  iutAddr : Addr
  tstAddr : Addr
  ipv6 : Bool
  /-- Setting `keep_addr_on_down`. -/
  keepAddr : Option TeErrno
  /-- The calls of `rpc_drain_fd_duration()` and `rpc_pattern_sender()` that start a flow. -/
  drainStarts : Nat → Option Jump
  senderStarts : Nat → Option Jump
  finished : Nat → Finished

/-- `if_down_up_loop`. The clock is read after each turn of its loop. -/
structure IfDownUpLoop (Addr : Type) extends Hosts Addr where
  duration : Int
  txTraffic : Bool
  rxTraffic : Bool
  gettimeofday : Option TeErrno
  ifDown : Nat → Option TeErrno
  ifUp : Nat → Option TeErrno
  /-- Microseconds since the loop started. -/
  elapsed : Nat → Except TeErrno Int
  ends : ∃ n, ∃ us, elapsed n = .ok us ∧ duration ≤ us.tdiv 1000000
  /-- Bringing the interface up and waiting for it in the cleanup. -/
  cleanupIfUp : Option TeErrno

/-- How `net_drv_ethtool_reset()` ended. -/
inductive Reset where
  | done
  | notSupported
  | failed (errno : String)
  deriving DecidableEq, Repr

/-- `reset_under_traffic`. -/
structure ResetUnderTraffic (Addr : Type) extends Hosts Addr where
  reset : Reset
  /-- `net_drv_conn_check()`. -/
  connCheck : Option Jump

section
variable {Addr : Type}

abbrev BenchScript (Addr : Type) := Script Jump (Bench Addr)

/-- Connections and flows; an error of theirs ends the test. -/
def onWorld {α : Type} (x : FlowScript Addr α) : BenchScript Addr α := fun b =>
  ((x b.world).1.mapError .checkRc, { b with world := (x b.world).2 })

/-- A call under `CHECK_RC()`. -/
def checked (rc : Option TeErrno) : BenchScript Addr Unit :=
  match rc with
  | none => pure ()
  | some rc => fail (.checkRc rc)

def called (jump : Option Jump) : BenchScript Addr Unit :=
  match jump with
  | none => pure ()
  | some jump => fail jump

def Hosts.rpcs (hosts : Hosts Addr) (pco : Pco) : Server := ⟨.main pco, hosts.name pco⟩

/-- `conn` when `net_drv_conn_create()` is called on it. -/
def Hosts.conn (hosts : Hosts Addr) (conn : Conn Addr) : Conn Addr :=
  { conn with
    rpcs1 := some (hosts.rpcs .iut), rpcs2 := some (hosts.rpcs .tst), sockType := .dgram
    s1Addr := some hosts.iutAddr, s2Addr := some hosts.tstAddr, newPorts := false }

/-- `tx_flow` before it is copied. -/
def Hosts.flow (hosts : Hosts Addr) (duration : Int) (flow : Flow) : Flow :=
  { flow with
    duration := duration, newProcesses := true, conn := 0, rpcs1 := some (hosts.rpcs .iut)
    rpcs2 := some (hosts.rpcs .tst), ignoreSendErr := true }

variable (env : Env Addr)

def Hosts.connect (hosts : Hosts Addr) : BenchScript Addr Unit := onWorld (do
  setConn 0 hosts.conn
  connCreate env 0)

/-- `memcpy()` of `tx_flow` to `rx_flow`. -/
def copyFlow : FlowScript Addr Unit := do
  let flow ← gets (fun w => w.flows txFlow)
  setFlow rxFlow (fun _ => flow)

/-- `net_drv_flow_start()`. -/
def Hosts.startFlow (hosts : Hosts Addr) (k : Nat) : BenchScript Addr Unit := do
  called (hosts.drainStarts k)
  onWorld (flowStart k)
  called (hosts.senderStarts k)

/-- `net_drv_flow_finish()`; the result is `success`. -/
def Hosts.finishFlow (hosts : Hosts Addr) (k : Nat) : BenchScript Addr Bool := do
  onWorld (flowFinish k)
  pure (hosts.finished k).success

def sendDuration (duration : Int) : Int := max (duration + 1) 5

def command (rc : Option TeErrno) (up : Bool) : BenchScript Addr Unit := do
  checked rc
  update (fun b => { b with interface := b.interface ++ [up] })

namespace IfDownUpLoop
variable (test : IfDownUpLoop Addr)

def Passed (n : Nat) : Prop := ∃ us, test.elapsed n = .ok us ∧ test.duration ≤ us.tdiv 1000000

instance (n : Nat) : Decidable (test.Passed n) :=
  match read : test.elapsed n with
  | .ok us => decidable_of_iff (test.duration ≤ us.tdiv 1000000) (by simp [Passed, read])
  | .error _ => .isFalse (by simp [Passed, read])

def lastTurn : Nat := Nat.find (p := test.Passed) test.ends

/-- One turn of the loop; the result says whether to leave it. -/
def turn (n : Nat) : BenchScript Addr Bool := do
  command (test.ifDown n) false
  command (test.ifUp n) true
  let elapsed ← ofExcept ((test.elapsed n).mapError .checkRc)
  pure (decide (test.duration ≤ elapsed.tdiv 1000000))

def prepare (k : Nat) (tx : Bool) : BenchScript Addr Unit := onWorld (do
  setFlow k (fun flow => { flow with tx := tx, flowId := k + 1 })
  flowPrepare env k)

def finish (traffic : Bool) (k : Nat) : BenchScript Addr Bool :=
  if traffic then test.finishFlow k else pure true

def body : BenchScript Addr Unit := do
  when (test.txTraffic || test.rxTraffic) (do
    test.connect env
    when test.ipv6 (checked test.keepAddr))
  onWorld (do
    setFlow txFlow (test.flow (sendDuration test.duration))
    copyFlow)
  when test.txTraffic (prepare env txFlow true)
  when test.rxTraffic (prepare env rxFlow false)
  when test.txTraffic (test.startFlow txFlow)
  when test.rxTraffic (test.startFlow rxFlow)
  checked test.gettimeofday
  let _ ← findFirst (List.range (test.lastTurn + 1)) test.turn
  let txSuccess ← test.finish test.txTraffic txFlow
  let rxSuccess ← test.finish test.rxTraffic rxFlow
  when (!txSuccess) (fail (.verdict "Failure occurred during sending"))
  when (!rxSuccess) (fail (.verdict "Failure occurred during receiving"))

def flows : List Nat := (if test.txTraffic then [txFlow] else []) ++ (if test.rxTraffic then [rxFlow] else [])

def cleanupInterface : BenchScript Addr Unit :=
  update (fun b => { b with
    interface := b.interface ++ (if test.cleanupIfUp.isNone then [true] else [])
    world := { b.world with failed := b.world.failed || test.cleanupIfUp.isSome } })

end IfDownUpLoop

namespace ResetUnderTraffic
variable (test : ResetUnderTraffic Addr)

def checkReset : BenchScript Addr Unit :=
  match test.reset with
  | .done => pure ()
  | .notSupported => fail (.skip "ETHTOOL_RESET is not supported")
  | .failed errno => fail (.verdict ("ETHTOOL_RESET command failed with errno " ++ errno))

def body : BenchScript Addr Unit := do
  when test.ipv6 (checked test.keepAddr)
  test.connect env
  onWorld (do
    setFlow txFlow (fun flow => { test.flow 10 flow with tx := true, flowId := 1 })
    copyFlow
    setFlow rxFlow (fun flow => { flow with flowId := 2, tx := false }))
  onWorld (flowPrepare env txFlow)
  onWorld (flowPrepare env rxFlow)
  test.startFlow txFlow
  test.startFlow rxFlow
  test.checkReset
  let txSuccess ← test.finishFlow txFlow
  when (!txSuccess) (fail (.verdict "Failure occurred during sending data from IUT"))
  let rxSuccess ← test.finishFlow rxFlow
  when (!rxSuccess) (fail (.verdict "Failure occurred during sending data from Tester"))
  called test.connCheck

end ResetUnderTraffic

/-- The flows a test asked for, then the connection. -/
def cleanupFlows (flows : List Nat) : FlowScript Addr Unit := do
  forEach flows (fun k => cleanupCheckRc (flowDestroy env k))
  cleanupCheckRc (connDestroy env 0)

inductive TrafficTest (Addr : Type) where
  | ifDownUpLoop (test : IfDownUpLoop Addr)
  | resetUnderTraffic (test : ResetUnderTraffic Addr)

namespace TrafficTest

def hosts : TrafficTest Addr → Hosts Addr
  | .ifDownUpLoop test => test.toHosts
  | .resetUnderTraffic test => test.toHosts

def flows : TrafficTest Addr → List Nat
  | .ifDownUpLoop test => test.flows
  | .resetUnderTraffic _ => [txFlow, rxFlow]

def body : TrafficTest Addr → BenchScript Addr Unit
  | .ifDownUpLoop test => test.body env
  | .resetUnderTraffic test => test.body env

def cleanup (test : TrafficTest Addr) : BenchScript Addr Unit := do
  match test with
  | .ifDownUpLoop test => test.cleanupInterface
  | .resetUnderTraffic _ => pure ()
  onWorld (cleanupFlows env test.flows)

def left (test : TrafficTest Addr) : Bench Addr := (test.body env .start).2

def cleanupLog (test : TrafficTest Addr) : List Event :=
  (test.cleanup env (test.left env)).2.world.log.drop (test.left env).world.log.length

end TrafficTest
end

end NetDrv.DataFlow
