import NetDrv.DataFlow.TrafficRelease

/-! When `if_down_up_loop` passes. Its loop is left at the first turn after which enough time
has passed, so that a run that passes has taken the interface down and up again once a
turn. -/

namespace NetDrv.DataFlow
open Script

/-- Data was received, not more of it than was sent, and no call failed. -/
structure Finished.Delivered (finished : Finished) : Prop where
  sender : finished.senderFailed = false
  drained : ∀ rc, finished.drained ≠ .failed rc
  received : 0 < finished.read
  bounded : finished.read ≤ finished.sent

theorem success_iff (finished : Finished) : finished.success = true ↔ finished.Delivered := by
  have fields : finished.Delivered ↔ finished.senderFailed = false ∧ (∀ rc, finished.drained ≠ .failed rc) ∧
      0 < finished.read ∧ finished.read ≤ finished.sent :=
    ⟨fun delivered => ⟨delivered.sender, delivered.drained, delivered.received, delivered.bounded⟩,
      fun ⟨sender, drained, received, bounded⟩ => ⟨sender, drained, received, bounded⟩⟩
  rw [fields]
  unfold Finished.success
  cases finished.drained with
  | failed rc => simp
  | returned => grind
  | again => grind

section
variable {Addr : Type} {b : Bench Addr}

def Hosts.FlowStarts (hosts : Hosts Addr) (k : Nat) : Prop := hosts.drainStarts k = none ∧ hosts.senderStarts k = none

theorem decides_checked (rc : Option TeErrno) : (checked rc).Decides (rc = none) (fun _ t => t = b) b := by
  cases rc with
  | none => exact ⟨rfl, rfl⟩
  | some rc => exact fun wrong => absurd wrong (by simp)

theorem decides_called (jump : Option Jump) : (called jump).Decides (jump = none) (fun _ t => t = b) b := by
  cases jump with
  | none => exact ⟨rfl, rfl⟩
  | some jump => exact fun wrong => absurd wrong (by simp)

theorem decides_startFlow (hosts : Hosts Addr) (k : Nat) :
    (hosts.startFlow k).Decides (hosts.FlowStarts k) (fun _ t => t.interface = b.interface) b := by
  unfold Hosts.FlowStarts
  refine (decides_called _).seq ?_
  rintro _ s rfl
  apply wp_seq (show (onWorld (flowStart k)).wp (fun _ t => t.interface = s.interface) (fun _ _ => False) s from rfl)
  · intro _ t same
    apply wp_mono (decides_called (hosts.senderStarts k))
    · rintro _ _ ⟨granted, rfl⟩
      exact ⟨granted, same⟩
    · exact fun _ _ missed => missed
  · exact fun _ _ never => never.elim

namespace IfDownUpLoop
variable (test : IfDownUpLoop Addr)

def Granted (n : Nat) : Prop := test.ifDown n = none ∧ test.ifUp n = none ∧ ∃ us, test.elapsed n = .ok us

theorem lastTurn_passed : test.Passed test.lastTurn := Nat.find_spec (p := test.Passed) test.ends

theorem lastTurn_le {n : Nat} (passed : test.Passed n) : test.lastTurn ≤ n :=
  Nat.find_min' (p := test.Passed) test.ends passed

theorem command_decides (rc : Option TeErrno) (up : Bool) :
    (command rc up).Decides (rc = none) (fun _ t => t.interface = b.interface ++ [up]) b := by
  cases rc with
  | none => exact ⟨rfl, rfl⟩
  | some rc => exact fun wrong => absurd wrong (by simp)

theorem turn_decides (n : Nat) :
    (test.turn n).Decides (test.Granted n)
      (fun leave t => (leave = true ↔ test.Passed n) ∧ t.interface = b.interface ++ [false, true]) b := by
  refine (command_decides (test.ifDown n) false).seq (fun _ down taken => ?_)
  refine (command_decides (test.ifUp n) true).seq (fun _ up brought => ?_)
  rw [taken, List.append_assoc] at brought
  unfold Passed
  cases read : test.elapsed n with
  | error rc => exact fun ⟨_, wrong⟩ => absurd wrong (by simp)
  | ok us =>
    refine ⟨⟨us, rfl⟩, ?_, brought⟩
    simp

theorem loop_decides :
    (findFirst (List.range (test.lastTurn + 1)) test.turn).Decides (∀ n ≤ test.lastTurn, test.Granted n)
      (fun _ t => t.interface = b.interface ++ (List.replicate (test.lastTurn + 1) [false, true]).flatten) b := by
  let toggled (n : Nat) (t : Bench Addr) : Prop := t.interface = b.interface ++ (List.replicate n [false, true]).flatten
  refine wp_weaken (wp_search (fun before t => (∀ n < before.length, test.Granted n ∧ ¬test.Passed n) ∧
    toggled before.length t) (fun n t => (∀ i ≤ n, test.Granted i) ∧ test.Passed n ∧ toggled (n + 1) t) _ ?_ ?_) ?_
  · intro before n after t whole ⟨earlier, interface⟩
    obtain ⟨rfl, inside⟩ := range_split whole
    apply wp_mono (test.turn_decides before.length)
    · intro leave u ⟨granted, leaves, more⟩
      have next : toggled (before.length + 1) u := by
        change u.interface = _
        rw [more, interface, List.replicate_succ', List.flatten_append, List.append_assoc]
        rfl
      cases leave with
      | true =>
        refine ⟨fun i below => ?_, leaves.mp rfl, next⟩
        rcases Nat.lt_or_eq_of_le below with less | rfl
        · exact (earlier i less).1
        · exact granted
      | false =>
        rw [List.length_append, List.length_singleton]
        refine ⟨fun i below => ?_, next⟩
        rcases Nat.lt_succ_iff_lt_or_eq.mp below with less | rfl
        · exact earlier i less
        · exact ⟨granted, fun passed => Bool.noConfusion (leaves.mpr passed)⟩
    · exact fun _ _ refused all => refused (all before.length (by omega))
  · exact ⟨by simp, by simp [toggled]⟩
  · intro found u result
    cases found with
    | true =>
      obtain ⟨n, inside, granted, passed, interface⟩ := result
      obtain rfl : n = test.lastTurn :=
        Nat.le_antisymm (Nat.le_of_lt_succ (List.mem_range.mp inside)) (test.lastTurn_le passed)
      exact ⟨granted, interface⟩
    | false =>
      -- The clock has passed the duration at the last of these turns.
      have never := (result.1 test.lastTurn (by simp)).2
      exact absurd test.lastTurn_passed never

end IfDownUpLoop

section Interface
variable {α : Type} {interface : List Bool}

theorem keeps_interface (x : FlowScript Addr α) : (onWorld x).Keeps (fun b => b.interface = interface) :=
  fun _ same => same

end Interface

variable (env : Env Addr)

theorem connect_decides (hosts : Hosts Addr) :
    (hosts.connect env).Decides (hosts.Connects env) (fun _ t => Unfilled t.world ∧ t.interface = []) .start := by
  have connects : (hosts.connect env).Decides (hosts.Connects env) (fun _ t => Unfilled t.world) .start := by
    apply wp_mono (hosts_connect_wp env hosts)
    · exact fun _ _ ⟨unfilled, connects⟩ => ⟨connects, unfilled⟩
    · exact fun _ _ failed => failed.2
  exact connects.keeping (keeps_interface _) rfl

theorem prepare_decides {hosts : Hosts Addr} {before after : List Nat} {k : Nat} (traffic tx : Bool)
    (preparing : Preparing hosts before ((if traffic then [k] else []) ++ after) b.world ∧ b.interface = [])
    (new : k ∉ before ++ after) :
    (when traffic (IfDownUpLoop.prepare env k tx)).Decides (traffic = true → hosts.Forks env k)
      (fun _ t => Preparing hosts (before ++ if traffic then [k] else []) after t.world ∧ t.interface = []) b := by
  have decides : (when traffic (IfDownUpLoop.prepare env k tx)).Decides (traffic = true → hosts.Forks env k)
      (fun _ t => Preparing hosts (before ++ if traffic then [k] else []) after t.world) b := by
    apply wp_mono (prepare_wp traffic tx preparing.1 new)
    · exact fun _ _ ⟨prepared, forks⟩ => ⟨forks, prepared⟩
    · exact fun _ _ ⟨asked, _, refused⟩ forks => refused (forks asked)
  exact decides.keeping (keeps_when (keeps_interface _)) preparing.2

theorem when_startFlow_decides (hosts : Hosts Addr) (traffic : Bool) (k : Nat) (untouched : b.interface = []) :
    (when traffic (hosts.startFlow k)).Decides (traffic = true → hosts.FlowStarts k) (fun _ t => t.interface = []) b := by
  refine decides_when (fun _ => ?_) (fun _ => untouched)
  apply wp_weaken (decides_startFlow hosts k)
  exact fun _ _ ⟨starts, same⟩ => ⟨starts, same.trans untouched⟩

/-- A flow of the test forks its servers, starts and delivers. -/
structure Hosts.Flows (env : Env Addr) (hosts : Hosts Addr) (k : Nat) : Prop where
  forks : hosts.Forks env k
  starts : hosts.FlowStarts k
  delivered : (hosts.finished k).Delivered

/-- The commands to the interface in a run that passes. -/
def IfDownUpLoop.toggles (test : IfDownUpLoop Addr) : List Bool :=
  (List.replicate (test.lastTurn + 1) [false, true]).flatten

/-- Nothing is refused and every flow that was asked for delivers. -/
structure IfDownUpLoop.Passes (test : IfDownUpLoop Addr) : Prop where
  starts : test.flows ≠ [] → test.Starts env
  flows : ∀ k ∈ test.flows, test.Flows env k
  clock : test.gettimeofday = none
  turns : ∀ n ≤ test.lastTurn, test.Granted n

section Loop
variable (test : IfDownUpLoop Addr)

theorem mem_flows_iff (k : Nat) :
    k ∈ test.flows ↔ (test.txTraffic = true ∧ k = txFlow) ∨ (test.rxTraffic = true ∧ k = rxFlow) := by
  unfold IfDownUpLoop.flows
  cases test.txTraffic <;> cases test.rxTraffic <;> simp

theorem flows_ne_nil_iff : test.flows ≠ [] ↔ (test.txTraffic || test.rxTraffic) = true := by
  unfold IfDownUpLoop.flows
  cases test.txTraffic <;> cases test.rxTraffic <;> simp

theorem finish_wp (traffic : Bool) (k : Nat) {interface : List Bool} (same : b.interface = interface) :
    (test.finish traffic k).wp (fun success t => (success = true ↔ (traffic = true → (test.finished k).Delivered)) ∧
      t.interface = interface) (fun _ _ => False) b := by
  cases traffic with
  | false => exact ⟨by simp, same⟩
  | true =>
    refine ⟨?_, same⟩
    rw [success_iff]
    exact ⟨fun delivered _ => delivered, fun delivered => delivered rfl⟩

end Loop

theorem ifDownUpLoop_decides (test : IfDownUpLoop Addr) :
    (test.body env).Decides (test.Passes env)
      (fun _ t => t.interface = test.toggles) .start := by
  have connected : (when (test.txTraffic || test.rxTraffic) (do
      test.connect env
      when test.ipv6 (checked test.keepAddr)) : BenchScript Addr Unit).Decides
      ((test.txTraffic || test.rxTraffic) = true → test.Starts env)
      (fun _ t => Unfilled t.world ∧ t.interface = []) .start := by
    refine decides_when (fun _ => ?_) (fun _ => ⟨unfilled_init, rfl⟩)
    refine (connect_decides env test.toHosts).seq (fun _ t reached => ?_)
    refine decides_when (fun _ => ?_) (fun _ => reached)
    apply wp_weaken (decides_checked test.keepAddr)
    rintro _ _ ⟨granted, rfl⟩
    exact ⟨granted, reached⟩
  have chain : (test.body env).Decides (((test.txTraffic || test.rxTraffic) = true → test.Starts env) ∧
      (test.txTraffic = true → test.Forks env txFlow) ∧ (test.rxTraffic = true → test.Forks env rxFlow) ∧
      (test.txTraffic = true → test.FlowStarts txFlow) ∧ (test.rxTraffic = true → test.FlowStarts rxFlow) ∧
      test.gettimeofday = none ∧ (∀ n ≤ test.lastTurn, test.Granted n) ∧
      (test.txTraffic = true → (test.finished txFlow).Delivered) ∧
      (test.rxTraffic = true → (test.finished rxFlow).Delivered))
      (fun _ t => t.interface = test.toggles) .start := by
    unfold IfDownUpLoop.body
    refine connected.seq (fun _ b ⟨unfilled, untouched⟩ => ?_)
    refine decides_after (wp_keeping (ifDownUpLoop_filled test unfilled) (keeps_interface _) untouched)
      (fun _ b preparing => ?_)
    have txApart : txFlow ∉ [] ++ (if test.rxTraffic then [rxFlow] else []) := by
      cases test.rxTraffic <;> decide
    refine (prepare_decides env test.txTraffic true preparing txApart).seq (fun _ b preparing => ?_)
    have rxApart : rxFlow ∉ ([] ++ (if test.txTraffic then [txFlow] else [])) ++ [] := by
      cases test.txTraffic <;> decide
    rw [← List.append_nil (if test.rxTraffic then [rxFlow] else [])] at preparing
    refine (prepare_decides env test.rxTraffic false preparing rxApart).seq (fun _ b prepared => ?_)
    refine (when_startFlow_decides test.toHosts _ _ prepared.2).seq (fun _ b untouched => ?_)
    refine (when_startFlow_decides test.toHosts _ _ untouched).seq (fun _ b untouched => ?_)
    refine (decides_checked test.gettimeofday).seq ?_
    rintro _ b rfl
    refine test.loop_decides.seq (fun _ b toggled => ?_)
    rw [untouched, List.nil_append] at toggled
    refine decides_after (finish_wp test _ _ toggled) (fun txSuccess b ⟨tx, toggled⟩ => ?_)
    refine decides_after (finish_wp test _ _ toggled) (fun rxSuccess b ⟨rx, toggled⟩ => ?_)
    rw [← tx, ← rx]
    have both : (txSuccess = true ∧ rxSuccess = true) ↔ ((!txSuccess) = false ∧ (!rxSuccess) = false) := by simp
    rw [both]
    have first : (when (!txSuccess) (fail (Jump.verdict "Failure occurred during sending"))).Decides
        ((!txSuccess) = false) (fun _ t => t.interface = test.toggles) b := decides_when_fail _ _ toggled
    exact first.seq (fun _ _ kept => decides_when_fail _ _ kept)
  refine chain.congr ?_
  constructor
  · rintro ⟨starts, txForks, rxForks, txStarts, rxStarts, clock, turns, txDelivered, rxDelivered⟩
    refine ⟨fun some => starts ?_, fun k inside => ?_, clock, turns⟩
    · exact (flows_ne_nil_iff test).mp some
    · rcases (mem_flows_iff test k).mp inside with ⟨tx, rfl⟩ | ⟨rx, rfl⟩
      · exact ⟨txForks tx, txStarts tx, txDelivered tx⟩
      · exact ⟨rxForks rx, rxStarts rx, rxDelivered rx⟩
  · intro passes
    have txFlows : test.txTraffic = true → test.Flows env txFlow :=
      fun tx => passes.flows txFlow ((mem_flows_iff test txFlow).mpr (.inl ⟨tx, rfl⟩))
    have rxFlows : test.rxTraffic = true → test.Flows env rxFlow :=
      fun rx => passes.flows rxFlow ((mem_flows_iff test rxFlow).mpr (.inr ⟨rx, rfl⟩))
    refine ⟨fun traffic => passes.starts ((flows_ne_nil_iff test).mpr traffic), fun tx => (txFlows tx).forks,
      fun rx => (rxFlows rx).forks, fun tx => (txFlows tx).starts, fun rx => (rxFlows rx).starts,
      passes.clock, passes.turns, fun tx => (txFlows tx).delivered, fun rx => (rxFlows rx).delivered⟩

/-- `if_down_up_loop` reaches `TEST_SUCCESS` if and only if nothing is refused, from the connection to the turn after
which the time is over, and every flow it was asked for delivers data and no more of it than was sent. It has then
taken the interface down and up again once in each of these turns. -/
theorem ifDownUpLoop_passes_iff (test : IfDownUpLoop Addr) :
    ((test.body env .start).1 = .ok () ↔ test.Passes env) ∧
      ((test.body env .start).1 = .ok () → (test.body env .start).2.interface = test.toggles) :=
  (ifDownUpLoop_decides env test).ok_iff

end

def twoTurns : IfDownUpLoop Nat where
  name _ := ""
  iutAddr := 1
  tstAddr := 2
  ipv6 := false
  keepAddr := none
  drainStarts _ := none
  senderStarts _ := none
  finished _ := ⟨false, .returned, 10, 10⟩
  duration := 2
  txTraffic := true
  rxTraffic := false
  gettimeofday := none
  ifDown _ := none
  ifUp _ := none
  elapsed n := .ok ((n + 1) * 1000000)
  ends := ⟨1, 2000000, rfl, Int.le_refl 2⟩
  cleanupIfUp := none

def willing : Env Nat where
  rcfMaxName := 64
  clone _ _ _ := .ok 0
  connect _ _ _ := .ok (3, 4)
  fork _ _ := none
  close _ _ := none
  destroy _ := none
  coefs _ := (1, 1, 1)

theorem twoTurns_lastTurn : twoTurns.lastTurn = 1 := by
  apply (Nat.find_eq_iff _).mpr
  refine ⟨⟨2000000, rfl, Int.le_refl 2⟩, ?_⟩
  rintro n below ⟨us, read, passed⟩
  obtain rfl : n = 0 := by omega
  obtain rfl : 1000000 = us := Except.ok.inj read
  exact absurd passed (by decide)

theorem ifDownUpLoop_passes_twoTurns : (twoTurns.body willing .start).1 = .ok () ∧
    (twoTurns.body willing .start).2.interface = [false, true, false, true] := by
  have passes : twoTurns.Passes willing := by
    refine ⟨fun _ => ⟨⟨_, rfl⟩, fun wrong => nomatch wrong⟩, ?_, rfl, fun n _ => ⟨rfl, rfl, _, rfl⟩⟩
    intro k member
    obtain rfl : k = txFlow := by simpa [IfDownUpLoop.flows, twoTurns] using member
    refine ⟨fun pco => ⟨?_, rfl⟩, ⟨rfl, rfl⟩, ⟨rfl, ?_, Nat.succ_pos 9, Nat.le_refl 10⟩⟩
    · cases pco <;> decide
    · intro rc wrong
      cases wrong
  obtain ⟨exactly, toggles⟩ := ifDownUpLoop_passes_iff willing twoTurns
  have passed := exactly.mpr passes
  refine ⟨passed, (toggles passed).trans ?_⟩
  rw [IfDownUpLoop.toggles, twoTurns_lastTurn]
  rfl

end NetDrv.DataFlow
