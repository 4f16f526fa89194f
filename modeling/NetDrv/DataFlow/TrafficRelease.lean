import NetDrv.DataFlow.Release
import NetDrv.DataFlow.TrafficTests

/-! What the cleanups of `if_down_up_loop` and `reset_under_traffic` release. A connection
that could not be made costs nothing here, but between the moment the flows are filled in
and the moment all of them are prepared they still hold the main servers. -/

namespace NetDrv.DataFlow
open Script

def Flow.serverIds (flow : Flow) : List ServerId :=
  if flow.newProcesses then (flow.rpcs .iut).toList.map Server.id ++ (flow.rpcs .tst).toList.map Server.id else []

section
variable {Addr : Type}

def Forked (w : World Addr) (k : Nat) : Prop :=
  ∀ side, ∃ number name, (w.flows k).rpcs side = some ⟨.forked number, name⟩

/-- Destroying these flows and the connection would release what has been created so far. -/
structure Owned (flows : List Nat) (w : World Addr) : Prop where
  socks : ∀ pco, closedOn pco (w.connEvents 0) = createdOn pco w.log
  servers : flows.flatMap (fun k => (w.flows k).serverIds) = forkedServers w.log
  forked : ∀ k ∈ flows, (w.flows k).newProcesses = true → Forked w k

/-- Destroying the flow would destroy a main server. -/
def Lent (w : World Addr) (k : Nat) : Prop :=
  (w.flows k).newProcesses = true ∧ ∃ pco name, (w.flows k).rpcs pco = some ⟨.main pco, name⟩

/-- The flows of `before` are prepared and those of `after` are filled in. -/
structure Preparing (hosts : Hosts Addr) (before after : List Nat) (w : World Addr) : Prop where
  owned : Owned before w
  owner : ∀ k ∈ after, (w.flows k).newProcesses = true
  waiting : ∀ k ∈ after, ∀ pco, (w.flows k).rpcs pco = some (hosts.rpcs pco)

def World.cleanupEvents (w : World Addr) (flows : List Nat) : List Event :=
  flows.flatMap w.flowEvents ++ w.connEvents 0

variable {env : Env Addr} {hosts : Hosts Addr} {w now : World Addr} {flows before after : List Nat} {k : Nat}

theorem destroyed_flowEvents_eq (w : World Addr) (k : Nat) :
    destroyedServers (w.flowEvents k) = (w.flows k).serverIds := by
  unfold Flow.serverIds
  split
  next owner => exact destroyed_flowEvents owner
  next spared => simp [World.flowEvents, spared, destroyedServers]

theorem destroyed_cleanupEvents : destroyedServers (w.cleanupEvents flows) =
    flows.flatMap (fun k => (w.flows k).serverIds) := by
  rw [World.cleanupEvents, destroyedServers_append, destroyed_flatMap, destroyed_connEvents, List.append_nil]
  exact List.flatMap_congr (fun k _ => destroyed_flowEvents_eq w k)

theorem Forked.serverIds (forked : Forked w k) (owner : (w.flows k).newProcesses = true) (pco : Pco) :
    .main pco ∉ (w.flows k).serverIds := by
  obtain ⟨number1, name1, first⟩ := forked .iut
  obtain ⟨number2, name2, second⟩ := forked .tst
  simp [Flow.serverIds, owner, first, second]

theorem Owned.releases (owned : Owned flows w) : ReleasesOwned w.log (w.cleanupEvents flows) where
  destroyed := by
    rw [destroyed_cleanupEvents, owned.servers]
  spared := by
    intro pco member
    rw [destroyed_cleanupEvents, List.mem_flatMap] at member
    obtain ⟨k, inside, member⟩ := member
    cases owner : (w.flows k).newProcesses with
    | false => simp [Flow.serverIds, owner] at member
    | true => exact (owned.forked k inside owner).serverIds owner pco member
  closed := by
    intro pco
    have none : flows.flatMap (fun k => closedOn pco (w.flowEvents k)) = [] := by
      refine List.flatMap_eq_nil_iff.mpr (fun k inside => ?_)
      cases owner : (w.flows k).newProcesses with
      | false => simp [World.flowEvents, owner, closedOn]
      | true => exact closed_flowEvents pco (owned.forked k inside owner)
    rw [World.cleanupEvents, closedOn_append, closed_flatMap, none, List.nil_append, owned.socks pco]

theorem Lent.destroys (inside : k ∈ flows) (lent : Lent w k) :
    ∃ pco, .main pco ∈ destroyedServers (w.cleanupEvents flows) := by
  obtain ⟨owner, pco, name, rpcs⟩ := lent
  refine ⟨pco, ?_⟩
  rw [destroyed_cleanupEvents, List.mem_flatMap]
  refine ⟨k, inside, ?_⟩
  cases pco <;> simp [Flow.serverIds, owner, rpcs]

theorem Owned.congr (owned : Owned flows w) (conns : now.conns = w.conns) (log : now.log = w.log)
    (same : ∀ k ∈ flows, (now.flows k).newProcesses = (w.flows k).newProcesses ∧
      ∀ side, (now.flows k).rpcs side = (w.flows k).rpcs side) : Owned flows now where
  socks := by
    rw [connEvents_congr conns, log]
    exact owned.socks
  servers := by
    rw [log, ← owned.servers]
    refine List.flatMap_congr (fun k inside => ?_)
    obtain ⟨owner, rpcs⟩ := same k inside
    simp only [Flow.serverIds, owner, rpcs]
  forked := by
    intro k inside owner side
    rw [(same k inside).1] at owner
    rw [(same k inside).2 side]
    exact owned.forked k inside owner side

structure Unfilled (w : World Addr) : Prop where
  owned : Owned [] w
  fresh : ∀ k, w.flows k = .init

theorem Unfilled.owns (unfilled : Unfilled w) (flows : List Nat) : Owned flows w where
  socks := unfilled.owned.socks
  servers := by
    rw [← unfilled.owned.servers]
    refine List.flatMap_eq_nil_iff.mpr (fun k _ => ?_)
    rw [unfilled.fresh k]
    rfl
  forked := by
    intro k _ owner
    rw [unfilled.fresh k] at owner
    exact Bool.noConfusion owner

theorem unfilled_init : Unfilled (World.init : World Addr) where
  owned := ⟨fun pco => by cases pco <;> rfl, rfl, by simp⟩
  fresh _ := rfl

/-- `net_drv_conn_create()` succeeds. -/
def Hosts.Connects (env : Env Addr) (hosts : Hosts Addr) : Prop :=
  ∃ socks, env.connect 0 (some hosts.iutAddr) (some hosts.tstAddr) = .ok socks

def Hosts.Forks (env : Env Addr) (hosts : Hosts Addr) (k : Nat) : Prop := ∀ pco, env.Forks (hosts.rpcs pco) (k + 1)

theorem connect_wp (env : Env Addr) (hosts : Hosts Addr) :
    Script.wp (do setConn 0 hosts.conn; connCreate env 0)
      (fun _ now => Unfilled now ∧ hosts.Connects env) (fun _ now => Unfilled now ∧ ¬hosts.Connects env)
      (World.init : World Addr) := by
  simp only [wp, bind, connCreate, enterCreate, gets, setConn, when, checkRc, record, createdEvents, World.init,
    Hosts.conn, Hosts.Connects, Function.update_self, Bool.false_eq_true, ↓reduceIte, pure]
  cases env.connect 0 (some hosts.iutAddr) (some hosts.tstAddr) with
  | error rc =>
    refine ⟨⟨⟨fun pco => ?_, rfl, by simp⟩, fun _ => rfl⟩, by simp⟩
    cases pco <;> simp [World.connEvents, Conn.closing, Conn.rpcs, Conn.sock, Conn.init, closedOn, createdOn]
  | ok socks =>
    refine ⟨⟨⟨fun pco => ?_, rfl, by simp⟩, fun _ => rfl⟩, by simp⟩
    cases pco <;>
      simp [World.connEvents, Conn.closing, Conn.rpcs, Conn.sock, closedOn, createdOn, Hosts.rpcs]

theorem Owned.forks (owned : Owned before w) (new : k ∉ before) {flow : Flow} {first second : Nat}
    (conns : now.conns = w.conns) (flows : now.flows = Function.update w.flows k flow)
    (log : now.log = w.log ++ [.forked (.forked first), .forked (.forked second)]) (owner : flow.newProcesses = true)
    (rpcs1 : ∃ name, flow.rpcs .iut = some ⟨.forked first, name⟩)
    (rpcs2 : ∃ name, flow.rpcs .tst = some ⟨.forked second, name⟩) : Owned (before ++ [k]) now := by
  obtain ⟨name1, iut⟩ := rpcs1
  obtain ⟨name2, tst⟩ := rpcs2
  have others : ∀ other ∈ before, now.flows other = w.flows other := by
    intro other inside
    have different : other ≠ k := fun same => new (same ▸ inside)
    rw [flows, Function.update_of_ne different]
  have here : now.flows k = flow := by rw [flows, Function.update_self]
  refine ⟨?_, ?_, ?_⟩
  · intro pco
    rw [connEvents_congr conns, log, createdOn_append, owned.socks pco]
    simp [createdOn]
  · have old : before.flatMap (fun k => (now.flows k).serverIds) = forkedServers w.log := by
      rw [← owned.servers]
      exact List.flatMap_congr (fun other inside => by rw [others other inside])
    rw [List.flatMap_append, old, log, forkedServers_append]
    simp [here, Flow.serverIds, owner, iut, tst, forkedServers]
  · intro other inside owner'
    rcases List.mem_append.mp inside with early | last
    · intro side
      rw [others other early] at owner' ⊢
      exact owned.forked other early owner' side
    · obtain rfl := List.mem_singleton.mp last
      rintro ⟨⟩
      · exact ⟨first, name1, here ▸ iut⟩
      · exact ⟨second, name2, here ▸ tst⟩

theorem flowPrepare_wp (preparing : Preparing hosts before (k :: after) w) (new : k ∉ before ++ after)
    (id : (w.flows k).flowId = k + 1) :
    (flowPrepare env k).wp
      (fun _ now => (Preparing hosts (before ++ [k]) after now ∧ ∀ other, other ≠ k → now.flows other = w.flows other) ∧
        hosts.Forks env k)
      (fun _ now => Lent now k ∧ ¬hosts.Forks env k) w := by
  have owner := preparing.owner k (by simp)
  have main := preparing.waiting k (by simp)
  have others : ∀ other ∈ after, other ≠ k := fun other inside same => new (same ▸ List.mem_append_right _ inside)
  have servers := forkServers_wp env w k (hosts.rpcs .iut) (hosts.rpcs .tst) (main .iut) (main .tst)
  rw [id] at servers
  rw [flowPrepare, wp_bind, wp_gets]
  simp only [when, owner, ↓reduceIte]
  apply wp_seq servers
  · rintro _ _ ⟨⟨forks1, forks2⟩, name1, name2, rfl⟩
    rw [wp_bind, wp_gets, wp_setFlow]
    simp only [Function.update_self, Function.update_idem]
    refine ⟨⟨⟨?_, ?_, ?_⟩, fun other different => Function.update_of_ne different _ _⟩, ?_⟩
    · refine preparing.owned.forks (fun inside => new (List.mem_append_left _ inside)) ?_ rfl rfl ?_ ?_ ?_
      · rfl
      · exact owner
      · exact ⟨name1, rfl⟩
      · exact ⟨name2, rfl⟩
    · intro other inside
      dsimp only
      rw [Function.update_of_ne (others other inside)]
      exact preparing.owner other (List.mem_cons_of_mem _ inside)
    · intro other inside
      dsimp only
      rw [Function.update_of_ne (others other inside)]
      exact preparing.waiting other (List.mem_cons_of_mem _ inside)
    · rintro ⟨⟩ <;> assumption
  · rintro _ now ⟨refused, same, borrowed⟩
    refine ⟨⟨same.trans owner, ?_⟩, fun all => refused ⟨all .iut, all .tst⟩⟩
    exact borrowed.elim (fun first => ⟨.iut, _, first⟩) (fun second => ⟨.tst, _, second⟩)

def Hosts.Starts (env : Env Addr) (hosts : Hosts Addr) : Prop :=
  hosts.Connects env ∧ (hosts.ipv6 = true → hosts.keepAddr = none)

def Hosts.Safe (env : Env Addr) (hosts : Hosts Addr) (flows : List Nat) : Prop :=
  hosts.Starts env → ∀ k ∈ flows, hosts.Forks env k

/-- What is owned is released, unless a fork was refused: then a main server would be destroyed. -/
def Settled (env : Env Addr) (hosts : Hosts Addr) (flows : List Nat) (b : Bench Addr) : Prop :=
  (Owned flows b.world ∧ hosts.Safe env flows) ∨ ((∃ k ∈ flows, Lent b.world k) ∧ ¬hosts.Safe env flows)

section Scripts
variable {α : Type} {done : α → Bench Addr → Prop} {failed : Jump → Bench Addr → Prop} {b : Bench Addr}

theorem wp_onWorld (x : FlowScript Addr α) :
    (onWorld x).wp done failed b ↔
      x.wp (fun a w => done a { b with world := w }) (fun rc w => failed (.checkRc rc) { b with world := w }) b.world := by
  simp only [wp, onWorld]
  cases x b.world with
  | mk result w => cases result <;> rfl

theorem onWorld_wp {x : FlowScript Addr α} {done : α → World Addr → Prop} {failed : World Addr → Prop}
    (spec : x.wp done (fun _ => failed) b.world) :
    (onWorld x).wp (fun a b => done a b.world) (fun _ b => failed b.world) b := by
  rw [wp_onWorld]
  exact spec

theorem wp_checked {done : Unit → Bench Addr → Prop} {rc : Option TeErrno} (granted : rc = none → done () b)
    (refused : ∀ jump, rc ≠ none → failed jump b) : (checked rc).wp done failed b := by
  cases rc with
  | none => exact granted rfl
  | some rc => exact refused _ (by simp)

theorem keeps_flow {x : BenchScript Addr α} (same : ∀ b, (x b).2.world = b.world) :
    x.Keeps (fun b => Owned flows b.world) := by
  intro b owned
  rwa [same b]

theorem keeps_checked (rc : Option TeErrno) : (checked rc).Keeps (fun b : Bench Addr => Owned flows b.world) := by
  apply keeps_flow
  intro b
  cases rc <;> rfl

theorem keeps_called (jump : Option Jump) : (called jump).Keeps (fun b : Bench Addr => Owned flows b.world) := by
  apply keeps_flow
  intro b
  cases jump <;> rfl

theorem keeps_inProgress (k : Nat) (inProgress : Bool) :
    (onWorld (setFlow k (fun flow => { flow with inProgress := inProgress }))).Keeps
      (fun b : Bench Addr => Owned flows b.world) := by
  intro b owned
  refine owned.congr rfl rfl (fun other _ => ?_)
  change (Function.update b.world.flows k _ other).newProcesses = _ ∧
    ∀ side, (Function.update b.world.flows k _ other).rpcs side = _
  by_cases same : other = k
  · subst same
    rw [Function.update_self]
    exact ⟨rfl, by rintro ⟨⟩ <;> rfl⟩
  · rw [Function.update_of_ne same]
    exact ⟨rfl, fun _ => rfl⟩

theorem keeps_startFlow (k : Nat) : (hosts.startFlow k).Keeps (fun b => Owned flows b.world) :=
  keeps_bind (keeps_called _) (fun _ => keeps_bind (keeps_inProgress k true) (fun _ => keeps_called _))

theorem keeps_finishFlow (k : Nat) : (hosts.finishFlow k).Keeps (fun b => Owned flows b.world) :=
  keeps_bind (keeps_inProgress k false) (fun _ => keeps_pure _)

end Scripts

theorem Unfilled.filled (unfilled : Unfilled w) (conns : now.conns = w.conns) (log : now.log = w.log)
    (filled : ∀ k ∈ flows, (now.flows k).newProcesses = true ∧ ∀ pco, (now.flows k).rpcs pco = some (hosts.rpcs pco)) :
    Preparing hosts [] flows now where
  owned := unfilled.owned.congr conns log (by simp)
  owner k inside := (filled k inside).1
  waiting k inside := (filled k inside).2

theorem Preparing.congr (preparing : Preparing hosts before after w) (conns : now.conns = w.conns) (log : now.log = w.log)
    (same : ∀ k ∈ before ++ after, (now.flows k).newProcesses = (w.flows k).newProcesses ∧
      ∀ side, (now.flows k).rpcs side = (w.flows k).rpcs side) : Preparing hosts before after now where
  owned := preparing.owned.congr conns log (fun k inside => same k (List.mem_append_left _ inside))
  owner k inside := ((same k (List.mem_append_right _ inside)).1).trans (preparing.owner k inside)
  waiting k inside pco := ((same k (List.mem_append_right _ inside)).2 pco).trans (preparing.waiting k inside pco)

theorem prepare_wp {b : Bench Addr} (traffic tx : Bool)
    (preparing : Preparing hosts before ((if traffic then [k] else []) ++ after) b.world) (new : k ∉ before ++ after) :
    (when traffic (IfDownUpLoop.prepare env k tx)).wp
      (fun _ b => Preparing hosts (before ++ if traffic then [k] else []) after b.world ∧
        (traffic = true → hosts.Forks env k))
      (fun _ b => traffic = true ∧ Lent b.world k ∧ ¬hosts.Forks env k) b := by
  cases traffic with
  | false =>
    refine ⟨?_, fun wrong => Bool.noConfusion wrong⟩
    simpa using preparing
  | true =>
    change (onWorld _).wp _ _ b
    rw [wp_onWorld, wp_bind, wp_setFlow]
    generalize start : ({ b.world with
      flows := Function.update b.world.flows k { b.world.flows k with tx := tx, flowId := k + 1 } } : World Addr) = w
    have filled : Preparing hosts before (k :: after) w := by
      subst start
      refine preparing.congr rfl rfl (fun other _ => ?_)
      by_cases same : other = k
      · subst same
        simp only [Function.update_self, true_and]
        rintro ⟨⟩ <;> rfl
      · simp only [Function.update_of_ne same, implies_true, and_self]
    have id : (w.flows k).flowId = k + 1 := by
      rw [← start]
      simp
    apply wp_mono (flowPrepare_wp filled new id)
    · rintro _ now ⟨⟨prepared, -⟩, forks⟩
      exact ⟨prepared, fun _ => forks⟩
    · rintro _ now ⟨lent, refused⟩
      exact ⟨rfl, lent, refused⟩

theorem hosts_connect_wp (env : Env Addr) (hosts : Hosts Addr) :
    (hosts.connect env).wp (fun _ b => Unfilled b.world ∧ hosts.Connects env)
      (fun _ b => Unfilled b.world ∧ ¬hosts.Connects env) .start := by
  unfold Hosts.connect
  rw [wp_onWorld]
  exact connect_wp env hosts

section Loop
variable (env) (test : IfDownUpLoop Addr)

theorem ifDownUpLoop_turn_keeps (n : Nat) : (test.turn n).Keeps (fun b => Owned flows b.world) := by
  have command : ∀ (rc : Option TeErrno) (up : Bool), (command rc up).Keeps (fun b : Bench Addr => Owned flows b.world) :=
    fun rc up => keeps_bind (keeps_checked rc) (fun _ => keeps_flow (fun _ => rfl))
  refine keeps_bind (command _ false) (fun _ => keeps_bind (command _ true) (fun _ => keeps_bind ?_ (fun _ => keeps_pure _)))
  apply keeps_flow
  intro b
  cases test.elapsed n <;> rfl

theorem ifDownUpLoop_connected :
    (when (test.txTraffic || test.rxTraffic) (do
        test.connect env
        when test.ipv6 (checked test.keepAddr)) : BenchScript Addr Unit).wp
      (fun _ b => Unfilled b.world ∧ ((test.txTraffic || test.rxTraffic) = true → test.Starts env))
      (fun _ b => Unfilled b.world ∧ ¬test.Starts env) .start := by
  refine wp_when (fun traffic => ?_) (fun none => ⟨unfilled_init, fun traffic => ?_⟩)
  · refine wp_seq (hosts_connect_wp env test.toHosts) ?_ ?_
    · rintro _ w ⟨unfilled, connects⟩
      refine wp_when (fun ipv6 => wp_checked ?_ ?_) ?_
      · exact fun granted => ⟨unfilled, fun _ => ⟨connects, fun _ => granted⟩⟩
      · exact fun _ refused => ⟨unfilled, fun starts => refused (starts.2 ipv6)⟩
      · intro ipv4
        refine ⟨unfilled, fun _ => ⟨connects, fun ipv6 => ?_⟩⟩
        exact absurd (ipv4.symm.trans ipv6) Bool.false_ne_true
    · exact fun _ w ⟨unfilled, refused⟩ => ⟨unfilled, fun starts => refused starts.1⟩
  · exact absurd (none.symm.trans traffic) Bool.false_ne_true

omit env in
theorem ifDownUpLoop_filled {b : Bench Addr} (unfilled : Unfilled b.world) :
    (onWorld (do setFlow txFlow (test.flow (sendDuration test.duration)); copyFlow)).wp
      (fun _ now => Preparing test.toHosts [] test.flows now.world) (fun _ _ => False) b := by
  rw [wp_onWorld, wp_bind, wp_setFlow, copyFlow, wp_bind, wp_gets, wp_setFlow]
  refine unfilled.filled rfl rfl (fun k inside => ?_)
  have small : k = txFlow ∨ k = rxFlow := by
    unfold IfDownUpLoop.flows at inside
    grind
  rcases small with rfl | rfl
  · exact ⟨rfl, by rintro ⟨⟩ <;> rfl⟩
  · exact ⟨rfl, by rintro ⟨⟩ <;> rfl⟩

theorem ifDownUpLoop_settled :
    (test.body env).wp (fun _ => Settled env test.toHosts test.flows) (fun _ => Settled env test.toHosts test.flows)
      .start := by
  unfold IfDownUpLoop.body
  refine wp_seq (ifDownUpLoop_connected env test) ?_
    (fun _ b ⟨unfilled, never⟩ => .inl ⟨unfilled.owns _, fun starts => absurd starts never⟩)
  rintro _ b ⟨unfilled, starts⟩
  refine wp_seq (ifDownUpLoop_filled test unfilled) ?_ (fun _ _ never => never.elim)
  intro _ b preparing
  -- A refused fork leaves the flow with a main server.
  have refused : ∀ (k : Nat) (traffic : Bool) (now : Bench Addr), (traffic = true → k ∈ test.flows ∧ test.Starts env) →
      traffic = true ∧ Lent now.world k ∧ ¬test.Forks env k → Settled env test.toHosts test.flows now := by
    intro k traffic now inside ⟨asked, lent, refused⟩
    exact .inr ⟨⟨k, (inside asked).1, lent⟩, fun safe => refused (safe (inside asked).2 k (inside asked).1)⟩
  have apart : txFlow ∉ [] ++ (if test.rxTraffic then [rxFlow] else []) := by
    cases test.rxTraffic <;> decide
  refine wp_seq (prepare_wp test.txTraffic true preparing apart) ?_
    (fun _ now => refused txFlow _ now (fun tx => ⟨by simp [IfDownUpLoop.flows, tx], starts (by simp [tx])⟩))
  rintro _ b ⟨preparing, txForks⟩
  have apart : rxFlow ∉ ([] ++ (if test.txTraffic then [txFlow] else [])) ++ [] := by
    cases test.txTraffic <;> decide
  rw [← List.append_nil (if test.rxTraffic then [rxFlow] else [])] at preparing
  refine wp_seq (prepare_wp test.rxTraffic false preparing apart) ?_
    (fun _ now => refused rxFlow _ now (fun rx => ⟨by simp [IfDownUpLoop.flows, rx], starts (by simp [rx])⟩))
  rintro _ b ⟨prepared, rxForks⟩
  have safe : test.Safe env test.flows := by
    intro _ k inside
    unfold IfDownUpLoop.flows at inside
    grind
  refine wp_mono (keeps_iff_wp.mp ?_ b prepared.owned) (fun _ _ owned => .inl ⟨owned, safe⟩)
    (fun _ _ owned => .inl ⟨owned, safe⟩)
  refine keeps_bind (keeps_when (keeps_startFlow _)) (fun _ => keeps_bind (keeps_when (keeps_startFlow _)) (fun _ => ?_))
  refine keeps_bind (keeps_checked _) (fun _ => keeps_bind ?_ (fun _ => ?_))
  · exact keeps_findFirst (fun n _ => ifDownUpLoop_turn_keeps test n)
  · have finish : ∀ (traffic : Bool) (k : Nat),
        (test.finish traffic k).Keeps (fun b => Owned ([] ++ (if test.txTraffic then [txFlow] else []) ++
          if test.rxTraffic then [rxFlow] else []) b.world) := by
      rintro (_ | _) k
      · exact keeps_pure true
      · exact keeps_finishFlow k
    refine keeps_bind (finish _ _) (fun _ => keeps_bind (finish _ _) (fun _ => ?_))
    exact keeps_bind (keeps_when_fail _ _) (fun _ => keeps_when_fail _ _)

end Loop

section ResetTest
variable (env) (test : ResetUnderTraffic Addr)

omit env in
theorem resetUnderTraffic_filled {b : Bench Addr} (unfilled : Unfilled b.world) :
    (onWorld (do
      setFlow txFlow (fun flow => { test.flow 10 flow with tx := true, flowId := 1 })
      copyFlow
      setFlow rxFlow (fun flow => { flow with flowId := 2, tx := false }))).wp
      (fun _ now => Preparing test.toHosts [] [txFlow, rxFlow] now.world ∧
        (now.world.flows txFlow).flowId = txFlow + 1 ∧ (now.world.flows rxFlow).flowId = rxFlow + 1)
      (fun _ _ => False) b := by
  rw [wp_onWorld, wp_bind, wp_setFlow, wp_bind, copyFlow, wp_bind, wp_gets, wp_setFlow, wp_setFlow]
  refine ⟨unfilled.filled rfl rfl (fun k inside => ?_), rfl, rfl⟩
  rcases List.mem_pair.mp inside with rfl | rfl
  · exact ⟨rfl, by rintro ⟨⟩ <;> rfl⟩
  · exact ⟨rfl, by rintro ⟨⟩ <;> rfl⟩

theorem resetUnderTraffic_settled :
    (test.body env).wp (fun _ => Settled env test.toHosts [txFlow, rxFlow])
      (fun _ => Settled env test.toHosts [txFlow, rxFlow]) .start := by
  unfold ResetUnderTraffic.body
  have early : ∀ b : Bench Addr, Unfilled b.world → ¬test.Starts env → Settled env test.toHosts [txFlow, rxFlow] b :=
    fun b unfilled never => .inl ⟨unfilled.owns _, fun starts => absurd starts never⟩
  have kept : (when test.ipv6 (checked test.keepAddr) : BenchScript Addr Unit).wp
      (fun _ b => b = .start ∧ (test.ipv6 = true → test.keepAddr = none))
      (fun _ b => b = .start ∧ ¬test.Starts env) .start := by
    refine wp_when (fun ipv6 => wp_checked (fun granted => ⟨rfl, fun _ => granted⟩) ?_) (fun ipv4 => ⟨rfl, ?_⟩)
    · exact fun _ refused => ⟨rfl, fun starts => refused (starts.2 ipv6)⟩
    · exact fun ipv6 => absurd (ipv4.symm.trans ipv6) Bool.false_ne_true
  refine wp_seq kept ?_ ?_
  rotate_left
  · rintro _ _ ⟨rfl, never⟩
    exact early _ unfilled_init never
  rintro _ _ ⟨rfl, keepAddr⟩
  refine wp_seq (hosts_connect_wp env test.toHosts) ?_
    (fun _ b ⟨unfilled, never⟩ => early b unfilled (fun starts => never starts.1))
  rintro _ b ⟨unfilled, connects⟩
  have starts : test.Starts env := ⟨connects, keepAddr⟩
  have refused : ∀ k ∈ [txFlow, rxFlow], ∀ now : Bench Addr, Lent now.world k ∧ ¬test.Forks env k →
      Settled env test.toHosts [txFlow, rxFlow] now :=
    fun k inside now ⟨lent, refused⟩ => .inr ⟨⟨k, inside, lent⟩, fun safe => refused (safe starts k inside)⟩
  refine wp_seq (resetUnderTraffic_filled test unfilled) ?_ (fun _ _ never => never.elim)
  rintro _ b ⟨preparing, txId, rxId⟩
  refine wp_seq (onWorld_wp (flowPrepare_wp preparing (by decide) txId)) ?_
    (fun _ now lent => refused txFlow (by simp) now lent)
  rintro _ b ⟨⟨preparing, others⟩, txForks⟩
  rw [← others rxFlow (by decide)] at rxId
  refine wp_seq (onWorld_wp (flowPrepare_wp preparing (by decide) rxId)) ?_
    (fun _ now lent => refused rxFlow (by simp) now lent)
  rintro _ b ⟨⟨prepared, -⟩, rxForks⟩
  have safe : test.Safe env [txFlow, rxFlow] := by
    intro _ k inside
    rcases List.mem_pair.mp inside with rfl | rfl
    · exact txForks
    · exact rxForks
  refine wp_mono (keeps_iff_wp.mp ?_ b prepared.owned) (fun _ _ owned => .inl ⟨owned, safe⟩)
    (fun _ _ owned => .inl ⟨owned, safe⟩)
  refine keeps_bind (keeps_startFlow _) (fun _ => keeps_bind (keeps_startFlow _) (fun _ => keeps_bind ?_ (fun _ => ?_)))
  · apply keeps_flow
    intro b
    unfold ResetUnderTraffic.checkReset
    cases test.reset <;> rfl
  · refine keeps_bind (keeps_finishFlow _) (fun _ => keeps_bind (keeps_when_fail _ _) (fun _ => ?_))
    refine keeps_bind (keeps_finishFlow _) (fun _ => keeps_bind (keeps_when_fail _ _) (fun _ => ?_))
    exact keeps_called _

end ResetTest

theorem cleanupFlows_adds (env : Env Addr) (flows : List Nat) (w : World Addr) :
    Adds (cleanupFlows env flows) w (w.cleanupEvents flows) := by
  refine adds_bind (adds_forEach flows (fun k now conns flows => ?_)) (fun _ now extended => ?_)
  · rw [← flowEvents_congr conns flows]
    exact cleanupCheckRc_adds (flowDestroy_adds k)
  · rw [← connEvents_congr extended.conns]
    exact cleanupCheckRc_adds (connDestroy_adds 0)

theorem trafficTest_cleanupLog (env : Env Addr) (test : TrafficTest Addr) :
    test.cleanupLog env = (test.left env).world.cleanupEvents test.flows := by
  have onlyFlows : ∀ b : Bench Addr, (onWorld (cleanupFlows env test.flows) b).2.world.log =
      b.world.log ++ b.world.cleanupEvents test.flows := by
    intro b
    obtain ⟨_, now, run, extended⟩ := cleanupFlows_adds env test.flows b.world
    simp only [onWorld, run, extended.log]
  have log : (test.cleanup env (test.left env)).2.world.log =
      (test.left env).world.log ++ (test.left env).world.cleanupEvents test.flows := by
    cases test with
    | ifDownUpLoop test => exact onlyFlows (test.cleanupInterface ((TrafficTest.ifDownUpLoop test).left env)).2
    | resetUnderTraffic test => exact onlyFlows _
  rw [TrafficTest.cleanupLog, log, List.drop_left]

theorem trafficTest_settled (env : Env Addr) (test : TrafficTest Addr) :
    Settled env test.hosts test.flows (test.left env) := by
  cases test with
  | ifDownUpLoop test => exact wp_final _ (ifDownUpLoop_settled env test) (fun _ _ done => done) (fun _ _ failed => failed)
  | resetUnderTraffic test =>
    exact wp_final _ (resetUnderTraffic_settled env test) (fun _ _ done => done) (fun _ _ failed => failed)

/-- Wherever `if_down_up_loop` or `reset_under_traffic` stops, its cleanup releases exactly what the test created
if and only if no fork for one of its flows was refused; a refused fork costs a main server. -/
theorem trafficTest_releases_iff (env : Env Addr) (test : TrafficTest Addr) :
    (ReleasesOwned (test.left env).world.log (test.cleanupLog env) ↔
      (test.hosts.Starts env → ∀ k ∈ test.flows, test.hosts.Forks env k)) ∧
    (¬ReleasesOwned (test.left env).world.log (test.cleanupLog env) →
      ∃ pco, .main pco ∈ destroyedServers (test.cleanupLog env)) := by
  rw [trafficTest_cleanupLog]
  rcases trafficTest_settled env test with ⟨owned, safe⟩ | ⟨⟨k, inside, lent⟩, refused⟩
  · exact ⟨iff_of_true owned.releases safe, fun never => absurd owned.releases never⟩
  · obtain ⟨pco, destroyed⟩ := lent.destroys inside
    exact ⟨iff_of_false (fun releases => releases.spared pco destroyed) refused, fun _ => ⟨pco, destroyed⟩⟩

end

end NetDrv.DataFlow
