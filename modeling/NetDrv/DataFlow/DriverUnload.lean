import NetDrv.DataFlow.Flow
import Mathlib.Data.List.Range

/-! `driver_unload_traffic.c`: the loop that creates connections and prepares two flows
over each of them, and the cleanup that every failure jumps to. What the cleanup does
is a function of the two arrays as it finds them. -/

namespace NetDrv.DataFlow
open Script

def maxSendSize : Int := 1400

structure TestIn (Addr : Type) where
  /-- Names of `iut_rpcs` and `tst_rpcs`. -/
  name : Pco → String
  iutAddr : Addr
  tstAddr : Addr
  sendTime : Int
  connsNum : Nat

section
variable {Addr : Type} (env : Env Addr) (inp : TestIn Addr)

/-- `iut_rpcs` or `tst_rpcs`. -/
def TestIn.rpcs (pco : Pco) : Server := ⟨.main pco, inp.name pco⟩

/-- `conns[i]` when `net_drv_conn_create()` is called on it. -/
def TestIn.conn (conn : Conn Addr) : Conn Addr :=
  { conn with
    rpcs1 := some (inp.rpcs .iut), rpcs2 := some (inp.rpcs .tst), sockType := .dgram
    s1Addr := some inp.iutAddr, s2Addr := some inp.tstAddr, newPorts := true }

/-- `flows[flow_id]` when `net_drv_flow_prepare()` is called on it. -/
def TestIn.flow (i j : Nat) (flow : Flow) : Flow :=
  { flow with
    flowId := 2 * i + j, duration := inp.sendTime, newProcesses := true, conn := i
    rpcs1 := some (inp.rpcs .iut), rpcs2 := some (inp.rpcs .tst), tx := j == 0, ignoreSendErr := true
    minSize := 1, maxSize := maxSendSize }

def prepareFlow (i j : Nat) : FlowScript Addr Unit := do
  setFlow (2 * i + j) (inp.flow i j)
  flowPrepare env (2 * i + j)

def createConnection (i : Nat) : FlowScript Addr Unit := do
  setConn i inp.conn
  connCreate env i
  forEach (List.range 2) (prepareFlow env inp i)

def createAll : FlowScript Addr Unit := forEach (List.range inp.connsNum) (createConnection env inp)

/-- Flows started and finished before the test left for its cleanup. -/
def traffic (started finished : Nat) : FlowScript Addr Unit := do
  let running := (List.range (2 * inp.connsNum)).take started
  forEach running flowStart
  forEach (running.take finished) flowFinish

def cleanup : FlowScript Addr Unit := do
  forEach (List.range (2 * inp.connsNum)) (fun k => cleanupCheckRc (flowDestroy env k))
  forEach (List.range inp.connsNum) (fun i => cleanupCheckRc (connDestroy env i))

/-- Both arrays come from `tapi_calloc()`. -/
def World.zero : World Addr := ⟨fun _ => .zero, fun _ => .zero, 0, 0, [], false⟩

def testBody (started finished : Nat) : World Addr :=
  ((do createAll env inp; traffic inp started finished) World.zero).2

def cleanupLog (started finished : Nat) : List Event :=
  (cleanup env inp (testBody env inp started finished)).2.log.drop (testBody env inp started finished).log.length

end

def Conn.rpcs {Addr : Type} (conn : Conn Addr) : Pco → Option Server
  | .iut => conn.rpcs1
  | .tst => conn.rpcs2

def Conn.sock {Addr : Type} (conn : Conn Addr) : Pco → Int
  | .iut => conn.s1
  | .tst => conn.s2

def Flow.rpcs (flow : Flow) : Pco → Option Server
  | .iut => flow.rpcs1
  | .tst => flow.rpcs2

section
variable {Addr : Type}

/-- Events of one side of a connection that is destroyed. -/
def Conn.closing (conn : Conn Addr) (pco : Pco) : List Event :=
  ((conn.rpcs pco).toList.filter (fun _ => 0 ≤ conn.sock pco)).map (fun server => .closed server.id (conn.sock pco))

/-- Events of one side of a flow that is destroyed. -/
def Flow.killing (flow : Flow) (conn : Conn Addr) (pco : Pco) : List Event :=
  (flow.rpcs pco).toList.flatMap (fun server =>
    (if 0 ≤ conn.sock pco ∧ flow.inProgress = false then [.closed server.id (conn.sock pco)] else []) ++
      [.destroyed server.id])

def World.connEvents (w : World Addr) (i : Nat) : List Event :=
  (w.conns i).closing .iut ++ (w.conns i).closing .tst

def World.flowEvents (w : World Addr) (k : Nat) : List Event :=
  if (w.flows k).newProcesses then
    (w.flows k).killing (w.conns (w.flows k).conn) .iut ++ (w.flows k).killing (w.conns (w.flows k).conn) .tst
  else []

structure World.Extends (w : World Addr) (events : List Event) (now : World Addr) : Prop where
  conns : now.conns = w.conns
  flows : now.flows = w.flows
  log : now.log = w.log ++ events

variable {env : Env Addr} {inp : TestIn Addr} {w : World Addr}

def Adds {α : Type} (x : FlowScript Addr α) (w : World Addr) (events : List Event) : Prop :=
  ∃ a now, x w = (.ok a, now) ∧ w.Extends events now

theorem World.Extends.refl (w : World Addr) : w.Extends [] w := ⟨rfl, rfl, by simp⟩

theorem World.Extends.trans {first second : List Event} {middle now : World Addr}
    (left : w.Extends first middle) (right : middle.Extends second now) : w.Extends (first ++ second) now :=
  ⟨right.conns.trans left.conns, right.flows.trans left.flows, by rw [right.log, left.log, List.append_assoc]⟩

theorem adds_pure {α : Type} (a : α) : Adds (pure a : FlowScript Addr α) w [] := ⟨a, w, rfl, .refl w⟩

theorem adds_bind {α β : Type} {x : FlowScript Addr α} {f : α → FlowScript Addr β} {first second : List Event}
    (left : Adds x w first) (right : ∀ a now, w.Extends first now → Adds (f a) now second) :
    Adds (x >>= f) w (first ++ second) := by
  obtain ⟨a, middle, run, extended⟩ := left
  obtain ⟨b, now, run', extended'⟩ := right a middle extended
  exact ⟨b, now, (bind_ok run).trans run', extended.trans extended'⟩

theorem adds_forEach {α : Type} {body : α → FlowScript Addr Unit} {events : α → List Event} (items : List α)
    (each : ∀ item now, now.conns = w.conns → now.flows = w.flows → Adds (body item) now (events item)) :
    Adds (forEach items body) w (items.flatMap events) := by
  induction items generalizing w with
  | nil => exact adds_pure ()
  | cons item items ih =>
    refine adds_bind (each item w rfl rfl) (fun _ now extended => ih ?_)
    intro other later conns flows
    exact each other later (conns.trans extended.conns) (flows.trans extended.flows)

theorem rpcClose_adds (server : Server) (s : Int) : Adds (rpcClose env server s) w [.closed server.id s] :=
  ⟨_, _, rfl, rfl, rfl, rfl⟩

theorem rpcServerDestroy_adds (server : Server) : Adds (rpcServerDestroy env server) w [.destroyed server.id] :=
  ⟨_, _, rfl, rfl, rfl, rfl⟩

theorem connClose_adds (conn : Conn Addr) (pco : Pco) :
    Adds (connClose env (conn.rpcs pco) (conn.sock pco)) w (conn.closing pco) := by
  unfold connClose Conn.closing
  cases conn.rpcs pco with
  | none => exact adds_pure none
  | some server =>
    by_cases valid : 0 ≤ conn.sock pco
    · simpa [valid] using rpcClose_adds server (conn.sock pco)
    · simpa [valid] using adds_pure none

theorem closeSockKillRpcs_adds (flow : Flow) (conn : Conn Addr) (pco : Pco) :
    Adds (closeSockKillRpcs env (flow.rpcs pco) (conn.sock pco) flow.inProgress) w (flow.killing conn pco) := by
  unfold closeSockKillRpcs Flow.killing
  cases flow.rpcs pco with
  | none => exact adds_pure none
  | some server =>
    simp only [Option.toList_some, List.flatMap_singleton]
    refine adds_bind ?_ (fun _ now _ => ?_)
    · by_cases closes : 0 ≤ conn.sock pco ∧ flow.inProgress = false
      · simpa only [if_pos closes] using rpcClose_adds server (conn.sock pco)
      · simpa only [if_neg closes] using adds_pure none
    · rw [← List.append_nil [Event.destroyed server.id]]
      exact adds_bind (rpcServerDestroy_adds server) (fun _ _ _ => adds_pure _)

theorem cleanupCheckRc_adds {x : FlowScript Addr (Option TeErrno)} {events : List Event} (adds : Adds x w events) :
    Adds (cleanupCheckRc x) w events := by
  rw [← List.append_nil events]
  exact adds_bind adds (fun _ now _ => ⟨_, _, rfl, rfl, rfl, by simp⟩)

theorem adds_gets {α β : Type} {read : World Addr → α} {f : α → FlowScript Addr β} {events : List Event}
    (adds : Adds (f (read w)) w events) : Adds (gets read >>= f) w events := adds

theorem adds_both {α β : Type} {x y : FlowScript Addr α} {combine : α → α → β} {first second : List Event}
    (left : Adds x w first) (right : ∀ now, w.Extends first now → Adds y now second) :
    Adds (do let a ← x; let b ← y; pure (combine a b)) w (first ++ second) := by
  refine adds_bind left (fun a now extended => ?_)
  rw [← List.append_nil second]
  exact adds_bind (right now extended) (fun b _ _ => adds_pure (combine a b))

theorem connDestroy_adds (i : Nat) : Adds (connDestroy env i) w (w.connEvents i) :=
  adds_gets (adds_both (connClose_adds (w.conns i) .iut) (fun _ _ => connClose_adds (w.conns i) .tst))

theorem flowDestroy_adds (k : Nat) : Adds (flowDestroy env k) w (w.flowEvents k) := by
  refine adds_gets (adds_gets ?_)
  unfold World.flowEvents
  cases (w.flows k).newProcesses with
  | false => exact adds_pure none
  | true =>
    exact adds_both (closeSockKillRpcs_adds (w.flows k) (w.conns (w.flows k).conn) .iut)
      (fun _ _ => closeSockKillRpcs_adds (w.flows k) (w.conns (w.flows k).conn) .tst)

def cleanupEvents (inp : TestIn Addr) (w : World Addr) : List Event :=
  (List.range (2 * inp.connsNum)).flatMap w.flowEvents ++ (List.range inp.connsNum).flatMap w.connEvents

theorem flowEvents_congr {now : World Addr} (conns : now.conns = w.conns) (flows : now.flows = w.flows) :
    now.flowEvents = w.flowEvents := by
  funext k
  simp only [World.flowEvents, conns, flows]

theorem connEvents_congr {now : World Addr} (conns : now.conns = w.conns) : now.connEvents = w.connEvents := by
  funext i
  simp only [World.connEvents, conns]

theorem cleanup_adds (env : Env Addr) (inp : TestIn Addr) (w : World Addr) :
    Adds (cleanup env inp) w (cleanupEvents inp w) := by
  refine adds_bind (adds_forEach _ (fun k now conns flows => ?_)) (fun _ now extended => adds_forEach _ ?_)
  · rw [← flowEvents_congr conns flows]
    exact cleanupCheckRc_adds (flowDestroy_adds k)
  · intro i later conns _
    rw [← connEvents_congr (conns.trans extended.conns)]
    exact cleanupCheckRc_adds (connDestroy_adds i)

theorem cleanupLog_eq (started finished : Nat) :
    cleanupLog env inp started finished = cleanupEvents inp (testBody env inp started finished) := by
  obtain ⟨_, now, run, extended⟩ :=
    cleanup_adds env inp (testBody env inp started finished)
  simp only [cleanupLog, run, extended.log, List.drop_left]

end
end NetDrv.DataFlow
