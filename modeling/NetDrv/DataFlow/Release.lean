import NetDrv.DataFlow.Ownership

/-! What the cleanup of `driver_unload_traffic` releases, compared with what the test
owned when it got there. -/

namespace NetDrv.DataFlow
open Script

section
variable {Addr : Type} {env : Env Addr} {inp : TestIn Addr} {w : World Addr}

theorem destroyed_flatMap {α : Type} (items : List α) (events : α → List Event) :
    destroyedServers (items.flatMap events) = items.flatMap (fun item => destroyedServers (events item)) :=
  List.filterMap_flatMap

theorem closed_flatMap {α : Type} (pco : Pco) (items : List α) (events : α → List Event) :
    closedOn pco (items.flatMap events) = items.flatMap (fun item => closedOn pco (events item)) :=
  List.filterMap_flatMap

@[simp] theorem destroyed_closing (conn : Conn Addr) (pco : Pco) : destroyedServers (conn.closing pco) = [] := by
  unfold Conn.closing
  cases conn.rpcs pco with
  | none => rfl
  | some server => by_cases valid : 0 ≤ conn.sock pco <;> simp [valid, destroyedServers]

@[simp] theorem destroyed_killing (flow : Flow) (conn : Conn Addr) (pco : Pco) :
    destroyedServers (flow.killing conn pco) = (flow.rpcs pco).toList.map Server.id := by
  unfold Flow.killing
  cases flow.rpcs pco with
  | none => rfl
  | some server =>
    by_cases closes : 0 ≤ conn.sock pco ∧ flow.inProgress = false <;> simp [closes, destroyedServers]

theorem destroyed_connEvents (i : Nat) : destroyedServers (w.connEvents i) = [] := by
  simp [World.connEvents]

theorem destroyed_flowEvents {k : Nat} (owner : (w.flows k).newProcesses = true) :
    destroyedServers (w.flowEvents k) =
      ((w.flows k).rpcs .iut).toList.map Server.id ++ ((w.flows k).rpcs .tst).toList.map Server.id := by
  simp [World.flowEvents, owner]

theorem destroyed_cleanup : destroyedServers (cleanupEvents inp w) =
    (List.range (2 * inp.connsNum)).flatMap (fun k => destroyedServers (w.flowEvents k)) := by
  have none : (List.range inp.connsNum).flatMap (fun i => destroyedServers (w.connEvents i)) = [] := by
    simp [destroyed_connEvents]
  rw [cleanupEvents, destroyedServers_append, destroyed_flatMap, destroyed_flatMap, none, List.append_nil]

theorem closed_connEvents {i : Nat} (pco : Pco)
    (valid : ∀ pco, (w.conns i).rpcs pco = some (inp.rpcs pco) ∧ 0 ≤ (w.conns i).sock pco) :
    closedOn pco (w.connEvents i) = [(w.conns i).sock pco] := by
  have iut := valid .iut
  have tst := valid .tst
  cases pco <;> simp [World.connEvents, Conn.closing, closedOn, iut, tst, TestIn.rpcs]

theorem connEvents_zero {i : Nat} (fresh : w.conns i = .zero) : w.connEvents i = [] := by
  simp [World.connEvents, Conn.closing, fresh, Conn.zero, Conn.rpcs]

theorem flowEvents_zero {k : Nat} (fresh : w.flows k = .zero) : w.flowEvents k = [] := by
  simp [World.flowEvents, fresh, Flow.zero]

theorem closed_flowEvents {k : Nat} (pco : Pco)
    (forked : ∀ side, ∃ number name, (w.flows k).rpcs side = some ⟨.forked number, name⟩) :
    closedOn pco (w.flowEvents k) = [] := by
  have none : ∀ conn : Conn Addr, ∀ side, closedOn pco ((w.flows k).killing conn side) = [] := by
    intro conn side
    obtain ⟨number, name, rpcs⟩ := forked side
    by_cases closes : 0 ≤ conn.sock side ∧ (w.flows k).inProgress = false <;>
      simp [Flow.killing, rpcs, closes, closedOn]
  unfold World.flowEvents
  cases (w.flows k).newProcesses with
  | false => rfl
  | true => simp [none]

theorem flatMap_range_of_prefix {β : Type} {m n : Nat} (short : m ≤ n) {f : Nat → List β} {g : Nat → β}
    (below : ∀ i < m, f i = [g i]) (above : ∀ i, m ≤ i → f i = []) :
    (List.range n).flatMap f = (List.range m).map g := by
  obtain ⟨d, rfl⟩ := Nat.exists_eq_add_of_le short
  induction d with
  | zero =>
    rw [Nat.add_zero, List.map_eq_flatMap]
    exact List.flatMap_congr (fun i member => below i (List.mem_range.mp member))
  | succ d ih =>
    rw [← Nat.add_assoc, List.range_succ, List.flatMap_append, ih (by omega)]
    simp [above (m + d) (by omega)]

theorem Built.closed_flows {c f : Nat} (built : Built inp c f w) (pco : Pco) {now : World Addr}
    (flows : now.flows = w.flows) (n : Nat) :
    (List.range n).flatMap (fun k => closedOn pco (now.flowEvents k)) = [] := by
  refine List.flatMap_eq_nil_iff.mpr (fun k _ => ?_)
  by_cases prepared : k < f
  · refine closed_flowEvents pco (fun side => ?_)
    obtain ⟨name, rpcs⟩ := (built.flows k prepared).2 side
    exact ⟨_, name, by rw [flows, rpcs]⟩
  · rw [flowEvents_zero (by rw [flows, built.freshFlows k (by omega)])]
    rfl

theorem Built.flagged {c f k : Nat} (built : Built inp c f w) (prepared : k < f) (inProgress : Bool) :
    Built inp c f
      { w with flows := Function.update w.flows k { w.flows k with inProgress := inProgress } } where
  calls := built.calls
  forks := built.forks
  conns := built.conns
  freshConns := built.freshConns
  flows := by
    intro other below
    by_cases same : other = k
    · subst same
      obtain ⟨owner, servers⟩ := built.flows other below
      simp only [Function.update_self]
      refine ⟨owner, ?_⟩
      rintro ⟨⟩
      · exact servers .iut
      · exact servers .tst
    · simpa only [Function.update_of_ne same] using built.flows other below
  freshFlows := by
    intro other above
    simpa only [Function.update_of_ne (show other ≠ k by omega)] using built.freshFlows other above
  created := built.created
  forked := built.forked

theorem traffic_keeps (started finished : Nat) :
    (traffic inp started finished).Keeps (Built inp inp.connsNum (2 * inp.connsNum)) := by
  refine keeps_bind (keeps_forEach ?_) (fun _ => keeps_forEach ?_)
  · intro k member w built
    exact built.flagged (List.mem_range.mp (List.mem_of_mem_take member)) true
  · intro k member w built
    exact built.flagged (List.mem_range.mp (List.mem_of_mem_take (List.mem_of_mem_take member))) false

theorem Built.releases (built : Built inp inp.connsNum (2 * inp.connsNum) w) :
    ReleasesOwned w.log (cleanupEvents inp w) where
  destroyed := by
    rw [destroyed_cleanup, built.forked]
    refine List.Perm.of_eq (List.flatMap_congr (fun k member => ?_))
    obtain ⟨owner, servers⟩ := built.flows k (List.mem_range.mp member)
    obtain ⟨name1, first⟩ := servers .iut
    obtain ⟨name2, second⟩ := servers .tst
    simp [destroyed_flowEvents owner, first, second]
  spared := by
    intro pco member
    rw [destroyed_cleanup, List.mem_flatMap] at member
    obtain ⟨k, inside, member⟩ := member
    obtain ⟨owner, servers⟩ := built.flows k (List.mem_range.mp inside)
    obtain ⟨name1, first⟩ := servers .iut
    obtain ⟨name2, second⟩ := servers .tst
    simp [destroyed_flowEvents owner, first, second] at member
  closed := by
    intro pco
    apply List.Perm.of_eq
    rw [cleanupEvents, closedOn_append, closed_flatMap, closed_flatMap, built.closed_flows pco rfl,
      List.nil_append, built.created pco]
    apply flatMap_range_of_prefix (le_refl _) (fun i below => closed_connEvents pco (built.conns i below))
    intro i above
    rw [connEvents_zero (built.freshConns i above)]
    rfl

theorem Borrowed.not_releases {k : Nat} (inside : k < 2 * inp.connsNum) (borrowed : Borrowed inp k w)
    (log : List Event) : ¬ReleasesOwned log (cleanupEvents inp w) := by
  intro releases
  obtain ⟨owner, pco, rpcs⟩ := borrowed
  apply releases.spared pco
  rw [destroyed_cleanup, List.mem_flatMap]
  refine ⟨k, List.mem_range.mpr inside, ?_⟩
  rw [destroyed_flowEvents owner]
  cases pco <;> simp [rpcs, TestIn.rpcs]

theorem HalfConn.not_releases {c : Nat} (inside : c < inp.connsNum) (half : HalfConn inp c (2 * c) w) :
    ¬ReleasesOwned w.log (cleanupEvents inp w) := by
  intro releases
  obtain ⟨old, built, flows, log, others⟩ := half.before
  have valid : ∀ i < c + 1, ∀ pco, (w.conns i).rpcs pco = some (inp.rpcs pco) ∧ 0 ≤ (w.conns i).sock pco := by
    intro i below pco
    by_cases last : i = c
    · subst last
      exact ⟨half.rpcs pco, by simp [half.sock pco]⟩
    · rw [others i last]
      exact built.conns i (by omega) pco
  have fresh : ∀ i, c + 1 ≤ i → closedOn .iut (w.connEvents i) = [] := by
    intro i above
    rw [connEvents_zero ((others i (by omega)).trans (built.freshConns i (by omega)))]
    rfl
  have closed := (releases.closed .iut).length_eq
  rw [cleanupEvents, closedOn_append, closed_flatMap, closed_flatMap, built.closed_flows .iut flows,
    List.nil_append, flatMap_range_of_prefix inside (fun i below => closed_connEvents .iut (valid i below)) fresh,
    log, built.created .iut] at closed
  simp at closed

end

/-- The cleanup of the test releases exactly what the test owns if and only if no call of
`net_drv_conn_create()` and no fork fails, however far the test gets after that. -/
theorem flow_ownership {Addr : Type} (env : Env Addr) (inp : TestIn Addr) (started finished : Nat) :
    ReleasesOwned (testBody env inp started finished).log (cleanupLog env inp started finished) ↔
      ∀ i < inp.connsNum, env.Grants inp i := by
  rw [cleanupLog_eq]
  have created := createAll_wp env inp
  unfold testBody wp at *
  cases run : createAll env inp World.zero with
  | mk result w =>
    rw [run] at created
    cases result with
    | error rc =>
      obtain ⟨misowned, refused⟩ := created
      rw [bind_error run]
      refine iff_of_false ?_ refused
      rcases misowned with ⟨c, inside, half⟩ | ⟨k, inside, borrowed⟩
      · exact half.not_releases inside
      · exact borrowed.not_releases inside _
    | ok _ =>
      obtain ⟨built, granted⟩ := created
      rw [bind_ok run]
      exact iff_of_true (traffic_keeps started finished w built).releases granted

/-- An environment that gives descriptors 5 and 6 and refuses what it is told to. -/
def refusing (connect : Option TeErrno) (fork : Server → Option TeErrno) : Env Unit where
  rcfMaxName := 64
  clone := fun _ _ _ => .ok ()
  connect := fun _ _ _ => match connect with
    | none => .ok (5, 6)
    | some rc => .error rc
  fork := fun server _ => fork server
  close := fun _ _ => none
  destroy := fun _ => none
  coefs := fun _ => (0, 1, 0)

def oneConnection : TestIn Unit := ⟨fun pco => match pco with | .iut => "iut" | .tst => "tst", (), (), 10, 1⟩

/-- A refused connection costs descriptor zero of both main servers, a refused fork the server itself. -/
theorem flow_ownership_first_failure :
    (¬ReleasesOwned (testBody (refusing (some TeError.efail) (fun _ => none)) oneConnection 0 0).log
        (cleanupLog (refusing (some TeError.efail) (fun _ => none)) oneConnection 0 0) ∧
      cleanupLog (refusing (some TeError.efail) (fun _ => none)) oneConnection 0 0 =
        [.closed (.main .iut) 0, .closed (.main .tst) 0]) ∧
    (¬ReleasesOwned (testBody (refusing none (fun _ => some TeError.efail)) oneConnection 0 0).log
        (cleanupLog (refusing none (fun _ => some TeError.efail)) oneConnection 0 0) ∧
      cleanupLog (refusing none (fun _ => some TeError.efail)) oneConnection 0 0 =
        [.closed (.main .iut) 5, .destroyed (.main .iut), .closed (.main .tst) 6, .destroyed (.main .tst),
          .closed (.main .iut) 5, .closed (.main .tst) 6]) := by
  have first : cleanupLog (refusing (some TeError.efail) (fun _ => none)) oneConnection 0 0 =
      [.closed (.main .iut) 0, .closed (.main .tst) 0] := by decide
  have second : cleanupLog (refusing none (fun _ => some TeError.efail)) oneConnection 0 0 =
        [.closed (.main .iut) 5, .destroyed (.main .iut), .closed (.main .tst) 6, .destroyed (.main .tst),
          .closed (.main .iut) 5, .closed (.main .tst) 6] := by decide +kernel
  refine ⟨⟨fun releases => ?_, first⟩, ⟨fun releases => ?_, second⟩⟩
  · have closed := (releases.closed .iut).length_eq
    rw [first] at closed
    exact absurd closed (by decide)
  · apply releases.spared .iut
    rw [second]
    decide

end NetDrv.DataFlow
