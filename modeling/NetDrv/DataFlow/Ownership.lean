import NetDrv.DataFlow.DriverUnload

/-! Who owns what the cleanup of `driver_unload_traffic` releases. As long as nothing
fails every flow owns two forked servers and every connection its two sockets. At the
first failure one flow still holds a borrowed main server, or one connection the
zeroes of `tapi_calloc()` where its sockets should be. -/

namespace NetDrv.DataFlow
open Script

def createdOn (pco : Pco) (log : List Event) : List Int :=
  log.filterMap (fun event => match event with
    | .created server fd => if server = .main pco then some (fd : Int) else none
    | _ => none)

def closedOn (pco : Pco) (log : List Event) : List Int :=
  log.filterMap (fun event => match event with
    | .closed server fd => if server = .main pco then some fd else none
    | _ => none)

def forkedServers (log : List Event) : List ServerId :=
  log.filterMap (fun event => match event with
    | .forked child => some child
    | _ => none)

def destroyedServers (log : List Event) : List ServerId :=
  log.filterMap (fun event => match event with
    | .destroyed server => some server
    | _ => none)

/-- The cleanup releases what the test created, each once, and nothing else. -/
structure ReleasesOwned (log cleanup : List Event) : Prop where
  destroyed : (destroyedServers cleanup).Perm (forkedServers log)
  spared : ∀ pco, .main pco ∉ destroyedServers cleanup
  closed : ∀ pco, (closedOn pco cleanup).Perm (createdOn pco log)

section
variable (pco : Pco) (log rest : List Event)

@[simp] theorem createdOn_append : createdOn pco (log ++ rest) = createdOn pco log ++ createdOn pco rest :=
  List.filterMap_append

@[simp] theorem closedOn_append : closedOn pco (log ++ rest) = closedOn pco log ++ closedOn pco rest :=
  List.filterMap_append

@[simp] theorem forkedServers_append : forkedServers (log ++ rest) = forkedServers log ++ forkedServers rest :=
  List.filterMap_append

@[simp] theorem destroyedServers_append :
    destroyedServers (log ++ rest) = destroyedServers log ++ destroyedServers rest :=
  List.filterMap_append

end

section
variable {Addr : Type} (env : Env Addr) (inp : TestIn Addr)

/-- What `net_drv_conn_create()` gets for the connection `i` of the test. -/
def Env.connection (i : Nat) : Except TeErrno (Nat × Nat) := do
  let s1Addr ← env.clone i (some (inp.rpcs .iut)) (some inp.iutAddr)
  let s2Addr ← env.clone i (some (inp.rpcs .tst)) (some inp.tstAddr)
  env.connect i (some s1Addr) (some s2Addr)

/-- The fork for a flow from `iut_rpcs` or `tst_rpcs` succeeds. -/
def Env.Forks (rpcs : Server) (flowId : Nat) : Prop :=
  (flowRpcName rpcs flowId).utf8ByteSize < env.rcfMaxName ∧ env.fork rpcs (flowRpcName rpcs flowId) = none

/-- Nothing fails for the connection `i` and its two flows. -/
def Env.Grants (i : Nat) : Prop :=
  (∃ socks, env.connection inp i = .ok socks) ∧ ∀ j < 2, ∀ pco, env.Forks (inp.rpcs pco) (2 * i + j)

/-- Number of the server forked for one side of a flow. -/
def serverNumber (k : Nat) : Pco → Nat
  | .iut => 2 * k
  | .tst => 2 * k + 1

/-- `c` connections were created and `f` flows prepared over them. -/
structure Built (c f : Nat) (w : World Addr) : Prop where
  calls : w.calls = c
  forks : w.forks = 2 * f
  conns : ∀ i < c, ∀ pco, (w.conns i).rpcs pco = some (inp.rpcs pco) ∧ 0 ≤ (w.conns i).sock pco
  freshConns : ∀ i, c ≤ i → w.conns i = .zero
  flows : ∀ k < f, (w.flows k).newProcesses = true ∧
    ∀ pco, ∃ name, (w.flows k).rpcs pco = some ⟨.forked (serverNumber k pco), name⟩
  freshFlows : ∀ k, f ≤ k → w.flows k = .zero
  created : ∀ pco, createdOn pco w.log = (List.range c).map (fun i => (w.conns i).sock pco)
  forked : forkedServers w.log =
    (List.range f).flatMap (fun k => [.forked (serverNumber k .iut), .forked (serverNumber k .tst)])

/-- `net_drv_conn_create()` failed on the connection `c`: its sockets are zero. -/
structure HalfConn (c f : Nat) (w : World Addr) : Prop where
  before : ∃ old, Built inp c f old ∧ w.flows = old.flows ∧ w.log = old.log ∧
    ∀ i, i ≠ c → w.conns i = old.conns i
  rpcs : ∀ pco, (w.conns c).rpcs pco = some (inp.rpcs pco)
  sock : ∀ pco, (w.conns c).sock pco = 0

/-- A fork failed for the flow `k`: it still points to a main server. -/
def Borrowed (k : Nat) (w : World Addr) : Prop :=
  (w.flows k).newProcesses = true ∧ ∃ pco, (w.flows k).rpcs pco = some (inp.rpcs pco)

end

section
variable {Addr : Type} {env : Env Addr} {inp : TestIn Addr} {w : World Addr}

theorem Built.zero : Built inp 0 0 (World.zero : World Addr) where
  calls := rfl
  forks := rfl
  conns := by simp
  freshConns := fun _ _ => rfl
  flows := by simp
  freshFlows := fun _ _ => rfl
  created := fun _ => rfl
  forked := rfl

section
variable {α : Type} {done : α → World Addr → Prop} {failed : TeErrno → World Addr → Prop}

theorem wp_setFlow {done : Unit → World Addr → Prop} (k : Nat) (change : Flow → Flow) :
    (setFlow k change).wp done failed w ↔
      done () { w with flows := Function.update w.flows k (change (w.flows k)) } := Iff.rfl

end

theorem Built.connected {c f : Nat} (built : Built inp c f w) {now : World Addr} {socks : Nat × Nat}
    (calls : now.calls = c + 1) (forks : now.forks = w.forks) (flows : now.flows = w.flows)
    (others : ∀ i, i ≠ c → now.conns i = w.conns i)
    (rpcs : ∀ pco, (now.conns c).rpcs pco = some (inp.rpcs pco))
    (s1 : (now.conns c).s1 = socks.1) (s2 : (now.conns c).s2 = socks.2)
    (log : now.log = w.log ++ [.created (.main .iut) socks.1, .created (.main .tst) socks.2]) :
    Built inp (c + 1) f now where
  calls := calls
  forks := forks.trans built.forks
  conns := by
    intro i below pco
    by_cases last : i = c
    · subst last
      refine ⟨rpcs pco, ?_⟩
      cases pco <;> simp [Conn.sock, s1, s2]
    · rw [others i last]
      exact built.conns i (by omega) pco
  freshConns := by
    intro i above
    rw [others i (by omega)]
    exact built.freshConns i (by omega)
  flows := by
    rw [flows]
    exact built.flows
  freshFlows := by
    rw [flows]
    exact built.freshFlows
  created := by
    intro pco
    have old : (List.range c).map (fun i => (now.conns i).sock pco) =
        (List.range c).map (fun i => (w.conns i).sock pco) :=
      List.map_congr_left (fun i member => by rw [others i (List.mem_range.mp member).ne])
    rw [log, createdOn_append, built.created pco, List.range_succ, List.map_append, old]
    cases pco <;> simp [createdOn, Conn.sock, s1, s2]
  forked := by
    rw [log, forkedServers_append, built.forked]
    simp [forkedServers]

theorem Built.halfConn {c f : Nat} (built : Built inp c f w) {now : World Addr} {conn : Conn Addr}
    (flows : now.flows = w.flows) (log : now.log = w.log) (conns : now.conns = Function.update w.conns c conn)
    (rpcs : ∀ pco, conn.rpcs pco = some (inp.rpcs pco)) (sock : ∀ pco, conn.sock pco = 0) :
    HalfConn inp c f now where
  before := ⟨w, built, flows, log, fun i other => by rw [conns, Function.update_of_ne other]⟩
  rpcs := by simpa only [conns, Function.update_self] using rpcs
  sock := by simpa only [conns, Function.update_self] using sock

theorem createConn_wp {c f : Nat} (built : Built inp c f w) :
    Script.wp (do setConn c inp.conn; connCreate env c)
      (fun _ now => Built inp (c + 1) f now ∧ ∃ socks, env.connection inp c = .ok socks)
      (fun _ now => HalfConn inp c f now ∧ ¬∃ socks, env.connection inp c = .ok socks) w := by
  have fresh := built.freshConns c (le_refl c)
  simp only [wp, bind, connCreate, enterCreate, gets, setConn, when, checkRc, built.calls, fresh, record,
    createdEvents, TestIn.conn, Function.update_self, Env.connection, Except.bind, ↓reduceIte]
  cases env.clone c (some (inp.rpcs .iut)) (some inp.iutAddr) with
  | error rc => exact ⟨built.halfConn rfl rfl rfl (by rintro ⟨⟩ <;> rfl) (by rintro ⟨⟩ <;> rfl), by simp⟩
  | ok s1Addr =>
    cases env.clone c (some (inp.rpcs .tst)) (some inp.tstAddr) with
    | error rc => exact ⟨built.halfConn rfl rfl rfl (by rintro ⟨⟩ <;> rfl) (by rintro ⟨⟩ <;> rfl), by simp⟩
    | ok s2Addr =>
      simp only [Function.update_self, Function.update_idem]
      cases connected : env.connect c (some s1Addr) (some s2Addr) with
      | error rc => exact ⟨built.halfConn rfl rfl rfl (by rintro ⟨⟩ <;> rfl) (by rintro ⟨⟩ <;> rfl), by simp⟩
      | ok socks =>
        refine ⟨built.connected rfl rfl rfl ?_ ?_ ?_ ?_ rfl, socks, rfl⟩
        · intro i other
          simp only [Function.update_of_ne other]
        · rintro ⟨⟩ <;> simp [Conn.rpcs]
        · simp
        · simp

theorem createFlowRpc_wp (rpcs : Server) (flowId : Nat) :
    (createFlowRpc env rpcs flowId).wp
      (fun child now => env.Forks rpcs flowId ∧ child.id = .forked w.forks ∧
        now = { w with forks := w.forks + 1, log := w.log ++ [.forked (.forked w.forks)] })
      (fun _ now => ¬env.Forks rpcs flowId ∧ now = w) w := by
  simp only [wp, bind, createFlowRpc, checkRc, rpcName, rpcServerFork, Env.Forks]
  by_cases fits : (flowRpcName rpcs flowId).utf8ByteSize < env.rcfMaxName
  · simp only [if_pos fits]
    cases env.fork rpcs (flowRpcName rpcs flowId) with
    | some rc => simp
    | none => simp [fits]
  · simp [fits]

theorem forkFlow_wp (rpcs : Server) (flowId k : Nat) (change : Server → Flow → Flow) :
    Script.wp (do let child ← createFlowRpc env rpcs flowId; setFlow k (change child))
      (fun _ now => env.Forks rpcs flowId ∧ ∃ name, now = { w with
        forks := w.forks + 1
        log := w.log ++ [.forked (.forked w.forks)]
        flows := Function.update w.flows k (change ⟨.forked w.forks, name⟩ (w.flows k)) })
      (fun _ now => ¬env.Forks rpcs flowId ∧ now = w) w := by
  refine wp_seq (createFlowRpc_wp rpcs flowId) ?_ (fun _ _ refused => refused)
  rintro ⟨id, name⟩ _ ⟨forks, rfl, rfl⟩
  exact ⟨forks, name, rfl⟩

theorem forkServers_wp (env : Env Addr) (w : World Addr) (k : Nat) (rpcs1 rpcs2 : Server)
    (first : (w.flows k).rpcs1 = some rpcs1) (second : (w.flows k).rpcs2 = some rpcs2) :
    (forkServers env k).wp
      (fun _ now => (env.Forks rpcs1 (w.flows k).flowId ∧ env.Forks rpcs2 (w.flows k).flowId) ∧
        ∃ name1 name2, now = { w with
          forks := w.forks + 2
          log := w.log ++ [.forked (.forked w.forks), .forked (.forked (w.forks + 1))]
          flows := Function.update w.flows k { w.flows k with
            rpcs1 := some ⟨.forked w.forks, name1⟩, rpcs2 := some ⟨.forked (w.forks + 1), name2⟩ } })
      (fun _ now => ¬(env.Forks rpcs1 (w.flows k).flowId ∧ env.Forks rpcs2 (w.flows k).flowId) ∧
        (now.flows k).newProcesses = (w.flows k).newProcesses ∧
        ((now.flows k).rpcs1 = some rpcs1 ∨ (now.flows k).rpcs2 = some rpcs2)) w := by
  rw [forkServers, wp_bind, wp_gets]
  simp only [first, second, onServer]
  apply wp_seq (forkFlow_wp rpcs1 _ k _)
  · rintro _ _ ⟨forks1, name1, rfl⟩
    apply wp_mono (forkFlow_wp rpcs2 _ k _)
    · rintro _ _ ⟨forks2, name2, rfl⟩
      refine ⟨⟨forks1, forks2⟩, name1, name2, ?_⟩
      simp
    · rintro _ _ ⟨refused, rfl⟩
      refine ⟨fun both => refused both.2, ?_⟩
      simp [second]
  · rintro _ _ ⟨refused, rfl⟩
    exact ⟨fun both => refused both.1, rfl, .inl first⟩

theorem Built.prepared {c f : Nat} (built : Built inp c f w) {now : World Addr} {flow : Flow}
    (calls : now.calls = w.calls) (forks : now.forks = w.forks + 2) (conns : now.conns = w.conns)
    (flows : now.flows = Function.update w.flows f flow) (owner : flow.newProcesses = true)
    (servers : ∀ pco, ∃ name, flow.rpcs pco = some ⟨.forked (serverNumber f pco), name⟩)
    (log : now.log = w.log ++ [.forked (.forked w.forks), .forked (.forked (w.forks + 1))]) :
    Built inp c (f + 1) now where
  calls := calls.trans built.calls
  forks := by
    rw [forks, built.forks]
    omega
  conns := by
    rw [conns]
    exact built.conns
  freshConns := by
    rw [conns]
    exact built.freshConns
  flows := by
    intro k below
    rw [flows]
    by_cases last : k = f
    · subst last
      rw [Function.update_self]
      exact ⟨owner, servers⟩
    · rw [Function.update_of_ne last]
      exact built.flows k (by omega)
  freshFlows := by
    intro k above
    rw [flows, Function.update_of_ne (by omega)]
    exact built.freshFlows k (by omega)
  created := by
    intro pco
    rw [log, createdOn_append, built.created pco, conns]
    simp [createdOn]
  forked := by
    rw [log, forkedServers_append, built.forked, List.range_succ, List.flatMap_append, built.forks]
    rfl

theorem prepareFlow_wp {c i j : Nat} (built : Built inp c (2 * i + j) w) :
    (prepareFlow env inp i j).wp
      (fun _ now => Built inp c (2 * i + j + 1) now ∧ ∀ pco, env.Forks (inp.rpcs pco) (2 * i + j))
      (fun _ now => Borrowed inp (2 * i + j) now ∧ ¬∀ pco, env.Forks (inp.rpcs pco) (2 * i + j)) w := by
  rw [prepareFlow, wp_bind, wp_setFlow, flowPrepare, wp_bind, wp_gets]
  generalize start : ({ w with
    flows := Function.update w.flows (2 * i + j) (inp.flow i j (w.flows (2 * i + j))) } : World Addr) = w'
  have flow : w'.flows (2 * i + j) = inp.flow i j (w.flows (2 * i + j)) := by
    rw [← start]
    exact Function.update_self _ _ _
  have servers := forkServers_wp env w' (2 * i + j) (inp.rpcs .iut) (inp.rpcs .tst)
    (by simp [flow, TestIn.flow]) (by simp [flow, TestIn.flow])
  have id : (w'.flows (2 * i + j)).flowId = 2 * i + j := by simp [flow, TestIn.flow]
  have owner : (w'.flows (2 * i + j)).newProcesses = true := by simp [flow, TestIn.flow]
  rw [id] at servers
  simp only [when, owner, ↓reduceIte]
  apply wp_seq servers
  · rintro _ _ ⟨⟨forks1, forks2⟩, name1, name2, rfl⟩
    rw [wp_bind, wp_gets, wp_setFlow]
    refine ⟨?_, by rintro ⟨⟩ <;> assumption⟩
    subst start
    simp only [Function.update_self, Function.update_idem]
    refine built.prepared rfl rfl rfl rfl rfl ?_ rfl
    have count := built.forks
    rintro ⟨⟩
    · exact ⟨name1, by simp [Flow.prepared, Flow.rpcs, serverNumber, count]⟩
    · exact ⟨name2, by simp [Flow.prepared, Flow.rpcs, serverNumber, count]⟩
  · rintro _ now ⟨refused, same, borrowed⟩
    refine ⟨⟨same.trans owner, ?_⟩, fun all => refused ⟨all .iut, all .tst⟩⟩
    exact borrowed.elim (fun first => ⟨.iut, first⟩) (fun second => ⟨.tst, second⟩)

/-- The state in which the creation loop stopped at a failure. -/
def Misowned (inp : TestIn Addr) (n : Nat) (w : World Addr) : Prop :=
  (∃ c < n, HalfConn inp c (2 * c) w) ∨ ∃ k < 2 * n, Borrowed inp k w

theorem createConnection_wp {i n : Nat} (below : i < n) (built : Built inp i (2 * i) w) :
    (createConnection env inp i).wp
      (fun _ now => Built inp (i + 1) (2 * (i + 1)) now ∧ env.Grants inp i)
      (fun _ now => Misowned inp n now ∧ ¬env.Grants inp i) w := by
  have assoc : createConnection env inp i =
      (do (do setConn i inp.conn; connCreate env i); forEach (List.range 2) (prepareFlow env inp i)) := by
    simp only [createConnection, bind_assoc]
  rw [assoc]
  apply wp_seq (createConn_wp built)
  · rintro _ t ⟨built, connected⟩
    refine wp_weaken (wp_forRange (fun j now => Built inp (i + 1) (2 * i + j) now ∧
      ∀ earlier < j, ∀ pco, env.Forks (inp.rpcs pco) (2 * i + earlier)) 2 ?_ ⟨built, by simp⟩) ?_
    · rintro j two u ⟨built, forks⟩
      apply wp_mono (prepareFlow_wp built)
      · rintro _ v ⟨built, more⟩
        exact ⟨built, Nat.forall_lt_succ_right.mpr ⟨forks, more⟩⟩
      · rintro _ v ⟨borrowed, refused⟩
        exact ⟨.inr ⟨_, by omega, borrowed⟩, fun grants => refused (grants.2 j two)⟩
    · rintro _ u ⟨built, forks⟩
      exact ⟨built, connected, forks⟩
  · rintro _ t ⟨half, refused⟩
    exact ⟨.inl ⟨i, below, half⟩, fun grants => refused grants.1⟩

theorem createAll_wp (env : Env Addr) (inp : TestIn Addr) :
    (createAll env inp).wp
      (fun _ now => Built inp inp.connsNum (2 * inp.connsNum) now ∧ ∀ i < inp.connsNum, env.Grants inp i)
      (fun _ now => Misowned inp inp.connsNum now ∧ ¬∀ i < inp.connsNum, env.Grants inp i) World.zero := by
  refine wp_forRange (fun i now => Built inp i (2 * i) now ∧ ∀ earlier < i, env.Grants inp earlier)
    inp.connsNum ?_ ⟨Built.zero, by simp⟩
  rintro i below t ⟨built, granted⟩
  apply wp_mono (createConnection_wp below built)
  · rintro _ u ⟨built, grants⟩
    exact ⟨built, Nat.forall_lt_succ_right.mpr ⟨granted, grants⟩⟩
  · rintro _ u ⟨misowned, refused⟩
    exact ⟨misowned, fun all => refused (all i below)⟩

end
end NetDrv.DataFlow
