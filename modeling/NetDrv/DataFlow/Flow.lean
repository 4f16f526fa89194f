import NetDrv.Lib.Script
import NetDrv.Te
import Mathlib.Logic.Function.Basic

/-! Connections and data flows of `net_drv_data_flow.c`. A connection or a flow is
known by its index in the array of the test; the world keeps both arrays and a log
of what was created, forked, closed and destroyed on which RPC server. -/

namespace NetDrv.DataFlow
open Script

inductive Pco where
  | iut
  | tst
  deriving DecidableEq, Repr

/-- The identity of an RPC server: one the environment gave to the test or a fork of it. -/
inductive ServerId where
  | main (pco : Pco)
  | forked (number : Nat)
  deriving DecidableEq, Repr

structure Server where
  id : ServerId
  name : String
  deriving DecidableEq, Repr

inductive SockType where
  | unspec
  | dgram
  | stream
  deriving DecidableEq, Repr

/-- `net_drv_conn`. -/
structure Conn (Addr : Type) where
  rpcs1 : Option Server
  rpcs2 : Option Server
  sockType : SockType
  s1Addr : Option Addr
  s2Addr : Option Addr
  newPorts : Bool
  s1 : Int
  s2 : Int

/-- `net_drv_conn` out of `tapi_calloc()`. -/
def Conn.zero {Addr : Type} : Conn Addr := ⟨none, none, .unspec, none, none, false, 0, 0⟩

/-- `tapi_pat_sender`, as far as a flow sets it. -/
structure PatSender where
  coefs : Nat × Nat × Nat
  durationSec : Int
  ignoreErr : Bool
  minSize : Int
  maxSize : Int
  deriving DecidableEq, Repr

/-- `net_drv_flow`. -/
structure Flow where
  rpcs1 : Option Server
  rpcs2 : Option Server
  tx : Bool
  flowId : Nat
  newProcesses : Bool
  /-- Index of the connection. It is set together with `newProcesses` and only read under it. -/
  conn : Nat
  duration : Int
  ignoreSendErr : Bool
  minSize : Int
  maxSize : Int
  senderRpcs : Option Server
  receiverRpcs : Option Server
  senderS : Int
  receiverS : Int
  senderCtx : PatSender
  inProgress : Bool
  deriving DecidableEq, Repr

/-- `net_drv_flow` out of `tapi_calloc()`. -/
def Flow.zero : Flow :=
  ⟨none, none, false, 0, false, 0, 0, false, 0, 0, none, none, 0, 0, ⟨(0, 0, 0), 0, false, 0, 0⟩, false⟩

inductive Event where
  | created (server : ServerId) (fd : Nat)
  | forked (child : ServerId)
  | closed (server : ServerId) (fd : Int)
  | destroyed (server : ServerId)
  deriving DecidableEq, Repr

structure World (Addr : Type) where
  conns : Nat → Conn Addr
  flows : Nat → Flow
  /-- Number of calls of `net_drv_conn_create()` so far. -/
  calls : Nat
  /-- Number of RPC servers forked so far. -/
  forks : Nat
  log : List Event
  /-- A `CLEANUP_CHECK_RC()` saw an error. -/
  failed : Bool

/-- What the Test Environment answers. `clone` and `connect` are `tapi_sockaddr_clone()` and
`GEN_CONNECTION()` in a numbered call of `net_drv_conn_create()`. -/
structure Env (Addr : Type) where
  rcfMaxName : Nat
  clone : Nat → Option Server → Option Addr → Except TeErrno Addr
  connect : Nat → Option Addr → Option Addr → Except TeErrno (Nat × Nat)
  fork : Server → String → Option TeErrno
  close : ServerId → Int → Option TeErrno
  destroy : ServerId → Option TeErrno
  /-- The three `rand_range()` results drawn for a flow. -/
  coefs : Nat → Nat × Nat × Nat

section
variable {Addr : Type}

abbrev FlowScript (Addr : Type) := Script TeErrno (World Addr)

def record (events : List Event) : FlowScript Addr Unit := fun w =>
  (.ok (), { w with log := w.log ++ events })

def setConn (i : Nat) (change : Conn Addr → Conn Addr) : FlowScript Addr Unit := fun w =>
  (.ok (), { w with conns := Function.update w.conns i (change (w.conns i)) })

def setFlow (k : Nat) (change : Flow → Flow) : FlowScript Addr Unit := fun w =>
  (.ok (), { w with flows := Function.update w.flows k (change (w.flows k)) })

/-- An answer of the environment under `CHECK_RC()`. -/
def checkRc {α : Type} (answer : World Addr → Except TeErrno α) : FlowScript Addr α := fun w => (answer w, w)

/-- Enter `net_drv_conn_create()`; the result is the number of the call. -/
def enterCreate : FlowScript Addr Nat := fun w => (.ok w.calls, { w with calls := w.calls + 1 })

variable (env : Env Addr)

def createdEvents (rpcs : Option Server) (fd : Nat) : List Event :=
  rpcs.toList.map (fun server => .created server.id fd)

/-- `net_drv_conn_create()`. A failed `GEN_CONNECTION()` leaves the sockets as they are. -/
def connCreate (i : Nat) : FlowScript Addr Unit := do
  let call ← enterCreate
  let conn ← gets (fun w => w.conns i)
  when conn.newPorts (do
    let s1Addr ← checkRc (fun _ => env.clone call conn.rpcs1 conn.s1Addr)
    let s2Addr ← checkRc (fun _ => env.clone call conn.rpcs2 conn.s2Addr)
    setConn i (fun conn => { conn with s1Addr := some s1Addr, s2Addr := some s2Addr }))
  let socks ← checkRc (fun w => env.connect call (w.conns i).s1Addr (w.conns i).s2Addr)
  record (createdEvents conn.rpcs1 socks.1 ++ createdEvents conn.rpcs2 socks.2)
  setConn i (fun conn => { conn with s1 := socks.1, s2 := socks.2 })

/-- The name `create_flow_rpc()` prints. -/
def flowRpcName (rpcs : Server) (flowId : Nat) : String := rpcs.name ++ "_flow" ++ toString flowId

/-- `te_snprintf()` into an array of `RCF_MAX_NAME` bytes. -/
def rpcName (rpcs : Server) (flowId : Nat) : Except TeErrno String :=
  if (flowRpcName rpcs flowId).utf8ByteSize < env.rcfMaxName then .ok (flowRpcName rpcs flowId)
  else .error TeError.esmallbuf

def rpcServerFork (rpcs : Server) (name : String) : FlowScript Addr Server := fun w =>
  match env.fork rpcs name with
  | some rc => (.error rc, w)
  | none =>
    (.ok ⟨.forked w.forks, name⟩, { w with forks := w.forks + 1, log := w.log ++ [.forked (.forked w.forks)] })

def createFlowRpc (rpcs : Server) (flowId : Nat) : FlowScript Addr Server := do
  let name ← checkRc (fun _ => rpcName env rpcs flowId)
  rpcServerFork env rpcs name

/-- Follow a pointer to an RPC server that the caller has set. -/
def onServer (rpcs : Option Server) (body : Server → FlowScript Addr Unit) : FlowScript Addr Unit :=
  match rpcs with
  | none => pure ()
  | some server => body server

/-- The two forks of `net_drv_flow_prepare()`: each overwrites the pointer it forked from. -/
def forkServers (k : Nat) : FlowScript Addr Unit := do
  let flow ← gets (fun w => w.flows k)
  onServer flow.rpcs1 (fun server => do
    let child ← createFlowRpc env server flow.flowId
    setFlow k (fun flow => { flow with rpcs1 := some child }))
  onServer flow.rpcs2 (fun server => do
    let child ← createFlowRpc env server flow.flowId
    setFlow k (fun flow => { flow with rpcs2 := some child }))

/-- What `net_drv_flow_prepare()` sets in the flow after the forks. -/
def Flow.prepared (flow : Flow) (conn : Conn Addr) : Flow :=
  { flow with
    senderRpcs := if flow.tx then flow.rpcs1 else flow.rpcs2
    receiverRpcs := if flow.tx then flow.rpcs2 else flow.rpcs1
    senderS := if flow.tx then conn.s1 else conn.s2
    receiverS := if flow.tx then conn.s2 else conn.s1
    senderCtx := ⟨env.coefs flow.flowId, flow.duration, flow.ignoreSendErr, flow.minSize, flow.maxSize⟩ }

def flowPrepare (k : Nat) : FlowScript Addr Unit := do
  let flow ← gets (fun w => w.flows k)
  when flow.newProcesses (forkServers env k)
  let conn ← gets (fun w => w.conns flow.conn)
  setFlow k (fun flow => flow.prepared env conn)

/-- `net_drv_flow_start()` and `net_drv_flow_finish()` as the cleanup sees them. -/
def flowStart (k : Nat) : FlowScript Addr Unit := setFlow k (fun flow => { flow with inProgress := true })
def flowFinish (k : Nat) : FlowScript Addr Unit := setFlow k (fun flow => { flow with inProgress := false })

/-- `rpc_close()` under `RPC_AWAIT_ERROR()`. -/
def rpcClose (server : Server) (s : Int) : FlowScript Addr (Option TeErrno) := do
  record [.closed server.id s]
  pure (env.close server.id s)

def rpcServerDestroy (server : Server) : FlowScript Addr (Option TeErrno) := do
  record [.destroyed server.id]
  pure (env.destroy server.id)

/-- `close_sock_kill_rpcs()`; the result is the last error. -/
def closeSockKillRpcs (rpcs : Option Server) (s : Int) (inProgress : Bool) :
    FlowScript Addr (Option TeErrno) :=
  match rpcs with
  | none => pure none
  | some server => do
    let res ← (if 0 ≤ s ∧ inProgress = false then rpcClose env server s else pure none)
    let teRc ← rpcServerDestroy env server
    pure (teRc.or res)

def flowDestroy (k : Nat) : FlowScript Addr (Option TeErrno) := do
  let flow ← gets (fun w => w.flows k)
  let conn ← gets (fun w => w.conns flow.conn)
  if flow.newProcesses then do
    let rc1 ← closeSockKillRpcs env flow.rpcs1 conn.s1 flow.inProgress
    let rc2 ← closeSockKillRpcs env flow.rpcs2 conn.s2 flow.inProgress
    pure (rc2.or rc1)
  else pure none

/-- One half of `net_drv_conn_destroy()`. -/
def connClose (rpcs : Option Server) (s : Int) : FlowScript Addr (Option TeErrno) :=
  match rpcs with
  | none => pure none
  | some server => if 0 ≤ s then rpcClose env server s else pure none

def connDestroy (i : Nat) : FlowScript Addr (Option TeErrno) := do
  let conn ← gets (fun w => w.conns i)
  let rc1 ← connClose env conn.rpcs1 conn.s1
  let rc2 ← connClose env conn.rpcs2 conn.s2
  pure (rc2.or rc1)

/-- `CLEANUP_CHECK_RC()`: an error is noted and the cleanup goes on. -/
def cleanupCheckRc (x : FlowScript Addr (Option TeErrno)) : FlowScript Addr Unit := do
  let rc ← x
  fun w => (.ok (), { w with failed := w.failed || rc.isSome })

end

end NetDrv.DataFlow
