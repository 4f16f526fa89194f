import NetDrv.RxRules.TooMany
import Mathlib.Data.List.Nodup
import Mathlib.Data.List.Range

/-! What `too_many_rx_rules()` asks of the driver: every port pair at most once, the
locations in order, and one deletion for every rule the driver took. -/

namespace NetDrv.RxRules
open Script ByteOrder

def Rxnfc.ports (host : Host) (rule : Rxnfc) : Option (Nat × Nat) :=
  rule.hU.map (fun spec => ((toNetwork host.endian spec.psrc).toNat, (toNetwork host.endian spec.pdst).toNat))

/-- The location a successful request left in the buffer. -/
def Ioctl.reported (call : Ioctl) : Option (BitVec 32) := call.answer.toOption

def portPairs : List (Nat × Nat) :=
  (List.range' 1 maxPort).flatMap (fun srcPort => (List.range' 1 maxPort).map (fun dstPort => (srcPort, dstPort)))

/-- A location the driver reports for a new rule is not in use. -/
def Env.Fresh (env : Env) : Prop :=
  ∀ n table rule written, env.insert n table rule = .ok written → written.getD rule.location ∉ table

theorem mem_portPairs {pair : Nat × Nat} :
    pair ∈ portPairs ↔ (1 ≤ pair.1 ∧ pair.1 ≤ maxPort) ∧ 1 ≤ pair.2 ∧ pair.2 ≤ maxPort := by
  obtain ⟨srcPort, dstPort⟩ := pair
  simp only [portPairs, List.mem_flatMap, List.mem_map, Prod.mk.injEq, List.mem_range'_1]
  constructor
  · rintro ⟨s, inside, d, inside', rfl, rfl⟩
    omega
  · rintro ⟨inside, inside'⟩
    exact ⟨srcPort, by omega, dstPort, by omega, rfl, rfl⟩

theorem portPairs_nodup : portPairs.Nodup := by
  have product : (List.range' 1 maxPort ×ˢ List.range' 1 maxPort).Nodup :=
    List.Nodup.product (List.nodup_range' 1 (by omega)) (List.nodup_range' 1 (by omega))
  exact product

theorem portPairs_length : portPairs.length = maxPort * maxPort := by
  simp [portPairs, List.length_flatMap]

theorem insertRules_eq (env : Env) (host : Host) (inp : RulesIn) :
    insertRules env host inp = forEach portPairs (fun pair => insertRule env host inp pair.1 pair.2) := by
  simp only [insertRules, portPairs, forEach_flatMap, forEach_map]

theorem toNetwork_htons (host : Host) {port : Nat} (small : port ≤ maxPort) :
    (toNetwork host.endian (htons host port)).toNat = port := by
  rw [htons, toNetwork_toNetwork, BitVec.toNat_ofNat]
  exact Nat.mod_eq_of_lt (Nat.lt_succ_of_le small)

theorem prepare_ports (host : Host) {rule : Rxnfc} (header : rule.hU.isSome = true) (location : BitVec 64)
    (queue : BitVec 32) {pair : Nat × Nat} (valid : pair ∈ portPairs) :
    (rule.prepare host location queue pair.1 pair.2).ports host = some pair := by
  obtain ⟨src, dst⟩ := mem_portPairs.mp valid
  obtain ⟨spec, some⟩ := Option.isSome_iff_exists.mp header
  simp only [Rxnfc.ports, Rxnfc.prepare, some, Option.map_some, TcpipSpec.setPorts,
    toNetwork_htons host src.2, toNetwork_htons host dst.2]

section
variable {env : Env} {host : Host} {inp : RulesIn} {w : Agent}

structure Inserting (env : Env) (host : Host) (inp : RulesIn) (tried : List (Nat × Nat)) (w : Agent) : Prop where
  cmd : w.rule.cmd = .srxclsrlins
  header : w.rule.hU.isSome = true
  inserts : ∀ call ∈ w.log, call.rule.cmd = .srxclsrlins
  ports : w.log.map (fun call => call.rule.ports host) = tried.map some
  added : w.log.map Ioctl.reported = w.addedRules.map some
  table : w.table = w.addedRules
  count : w.rulesCount.toNat = tried.length
  location : inp.anyLocation = false → w.location = BitVec.ofNat 64 tried.length
  requested : inp.anyLocation = false →
    w.log.map (fun call => call.rule.location) = (List.range tried.length).map (BitVec.ofNat 32)
  addErrno : w.addErrno = none
  result : w.result = 0
  fresh : env.Fresh → w.addedRules.Nodup

/-- The state at the label `finish`. -/
structure Inserted (env : Env) (host : Host) (inp : RulesIn) (w : Agent) : Prop where
  inserts : ∀ call ∈ w.log, call.rule.cmd = .srxclsrlins
  ports : ∃ tried rest, portPairs = tried ++ rest ∧ w.log.map (fun call => call.rule.ports host) = tried.map some
  added : w.log.filterMap Ioctl.reported = w.addedRules
  table : w.table = w.addedRules
  count : w.rulesCount.toNat = w.addedRules.length
  requested : inp.anyLocation = false →
    w.log.map (fun call => call.rule.location) = (List.range w.log.length).map (BitVec.ofNat 32)
  addErrno : w.addErrno.isSome = true ↔ ∃ call ∈ w.log, call.reported = none
  result : w.result = 0
  fresh : env.Fresh → w.addedRules.Nodup

theorem Inserting.lengths {tried : List (Nat × Nat)} (inserting : Inserting env host inp tried w) :
    w.log.length = tried.length ∧ w.addedRules.length = tried.length := by
  have ports := congrArg List.length inserting.ports
  have added := congrArg List.length inserting.added
  simp only [List.length_map] at ports added
  omega

theorem taken_eq {log : List Ioctl} {locations : List (BitVec 32)}
    (added : log.map Ioctl.reported = locations.map some) : log.filterMap Ioctl.reported = locations := by
  have through : log.filterMap Ioctl.reported = (log.map Ioctl.reported).filterMap id := by
    rw [List.filterMap_map, Function.id_comp]
  rw [through, added, List.filterMap_map]
  simp

theorem taken_of_mem {log : List Ioctl} {locations : List (BitVec 32)} {call : Ioctl}
    (added : log.map Ioctl.reported = locations.map some) (member : call ∈ log) : call.reported ≠ none := by
  have inside : call.reported ∈ locations.map some := added ▸ List.mem_map_of_mem member
  obtain ⟨location, -, same⟩ := List.mem_map.mp inside
  rw [← same]
  simp

theorem Inserting.finish {tried rest : List (Nat × Nat)} (inserting : Inserting env host inp tried w)
    (whole : portPairs = tried ++ rest) : Inserted env host inp w where
  inserts := inserting.inserts
  ports := ⟨tried, rest, whole, inserting.ports⟩
  added := taken_eq inserting.added
  table := inserting.table
  count := inserting.count.trans inserting.lengths.2.symm
  requested := by
    rw [inserting.lengths.1]
    exact inserting.requested
  addErrno := by
    rw [inserting.addErrno]
    apply iff_of_false (by simp)
    rintro ⟨call, member, missing⟩
    exact taken_of_mem inserting.added member missing
  result := inserting.result
  fresh := inserting.fresh

theorem tried_lt {tried rest : List (Nat × Nat)} (whole : portPairs = tried ++ rest) : tried.length < 2 ^ 32 := by
  have total := congrArg List.length whole
  rw [portPairs_length, List.length_append] at total
  have bound : maxPort * maxPort < 2 ^ 32 := by decide
  omega

/-- The buffer as it is passed to the driver for the next pair. -/
def Agent.attempted (env : Env) (host : Host) (pair : Nat × Nat) (w : Agent) : Rxnfc :=
  w.rule.prepare host w.location (env.randRange w.log.length) pair.1 pair.2

theorem attempted_location {tried : List (Nat × Nat)} {pair : Nat × Nat}
    (inserting : Inserting env host inp tried w) (ordered : inp.anyLocation = false)
    (answer : Except TeError (BitVec 32)) :
    (w.log ++ [(⟨w.attempted env host pair, answer⟩ : Ioctl)]).map (fun call => call.rule.location) =
      (List.range (tried.length + 1)).map (BitVec.ofNat 32) := by
  rw [List.map_append, inserting.requested ordered, List.range_succ, List.map_append]
  congr 1
  simp only [List.map_cons, List.map_nil, Agent.attempted, Rxnfc.prepare, inserting.location ordered]
  rw [BitVec.setWidth_ofNat_of_le (by decide)]

theorem attempted_ports {tried rest : List (Nat × Nat)} {pair : Nat × Nat}
    (whole : portPairs = tried ++ pair :: rest) (inserting : Inserting env host inp tried w)
    (answer : Except TeError (BitVec 32)) :
    (w.log ++ [(⟨w.attempted env host pair, answer⟩ : Ioctl)]).map (fun call => call.rule.ports host) =
      (tried ++ [pair]).map some := by
  have valid : pair ∈ portPairs := by simp [whole]
  rw [List.map_append, inserting.ports, List.map_append]
  simp only [List.map_cons, List.map_nil]
  rw [Agent.attempted, prepare_ports host inserting.header _ _ valid]

theorem Inserting.refused {tried rest : List (Nat × Nat)} {pair : Nat × Nat}
    (whole : portPairs = tried ++ pair :: rest) (inserting : Inserting env host inp tried w) (errno : TeError) :
    Inserted env host inp { w with
      rule := w.attempted env host pair
      log := w.log ++ [⟨w.attempted env host pair, .error errno⟩]
      addErrno := some errno } where
  inserts := by
    refine List.forall_mem_append.mpr ⟨inserting.inserts, List.forall_mem_singleton.mpr ?_⟩
    exact inserting.cmd
  ports := ⟨tried ++ [pair], rest, by simp [whole], attempted_ports whole inserting _⟩
  added := by
    rw [List.filterMap_append, taken_eq inserting.added]
    exact List.append_nil _
  table := inserting.table
  count := inserting.count.trans inserting.lengths.2.symm
  requested := by
    intro ordered
    rw [List.length_append, inserting.lengths.1]
    exact attempted_location inserting ordered _
  addErrno := iff_of_true rfl ⟨_, List.mem_append_right _ (List.mem_singleton.mpr rfl), rfl⟩
  result := inserting.result
  fresh := inserting.fresh

theorem Inserting.taken {tried rest : List (Nat × Nat)} {pair : Nat × Nat}
    (whole : portPairs = tried ++ pair :: rest) (inserting : Inserting env host inp tried w)
    {location : BitVec 32} (unused : env.Fresh → location ∉ w.table) {now : Agent}
    (rule : now.rule = { w.attempted env host pair with location := location })
    (table : now.table = w.table ++ [location])
    (log : now.log = w.log ++ [⟨w.attempted env host pair, .ok location⟩])
    (count : now.rulesCount = w.rulesCount + 1)
    (next : inp.anyLocation = false → now.location = now.rulesCount.setWidth 64)
    (added : now.addedRules = w.addedRules ++ [location]) (addErrno : now.addErrno = w.addErrno)
    (result : now.result = w.result) : Inserting env host inp (tried ++ [pair]) now := by
  have small := tried_lt whole
  have total := congrArg List.length whole
  rw [portPairs_length, List.length_append, List.length_cons] at total
  have bound : maxPort * maxPort < 2 ^ 32 := by decide
  have counted : now.rulesCount.toNat = tried.length + 1 := by
    rw [count, BitVec.toNat_add, inserting.count]
    exact Nat.mod_eq_of_lt (by simp; omega)
  constructor
  · rw [rule]
    exact inserting.cmd
  · rw [rule]
    simpa [Agent.attempted, Rxnfc.prepare] using inserting.header
  · rw [log]
    exact List.forall_mem_append.mpr ⟨inserting.inserts, List.forall_mem_singleton.mpr inserting.cmd⟩
  · rw [log]
    exact attempted_ports whole inserting _
  · rw [log, added, List.map_append, inserting.added, List.map_append]
    rfl
  · rw [table, added, inserting.table]
  · rw [counted, List.length_append, List.length_singleton]
  · intro ordered
    rw [next ordered, List.length_append, List.length_singleton, ← counted]
    exact (BitVec.ofNat_toNat ..).symm
  · intro ordered
    rw [log, List.length_append, List.length_singleton]
    exact attempted_location inserting ordered _
  · rw [addErrno, inserting.addErrno]
  · rw [result, inserting.result]
  · intro fresh
    rw [added]
    refine List.nodup_append.mpr ⟨inserting.fresh fresh, by simp, ?_⟩
    have missing := unused fresh
    rw [inserting.table] at missing
    rintro old inside _ last rfl
    exact missing (List.mem_singleton.mp last ▸ inside)

theorem insertRule_wp {tried rest : List (Nat × Nat)} {pair : Nat × Nat}
    (whole : portPairs = tried ++ pair :: rest) (inserting : Inserting env host inp tried w) :
    (insertRule env host inp pair.1 pair.2).wp (fun _ => Inserting env host inp (tried ++ [pair]))
      (fun _ => Inserted env host inp) w := by
  rw [insertRule, wp_bind]
  change Script.wp _ _ _ { w with rule := w.attempted env host pair }
  rw [wp_bind]
  unfold wp ioctlInsert
  cases reply : env.insert w.log.length w.table (w.attempted env host pair) with
  | error errno =>
    exact inserting.refused whole errno
  | ok written =>
    have unused : env.Fresh → written.getD (w.attempted env host pair).location ∉ w.table :=
      fun fresh => fresh _ _ _ _ reply
    cases any : inp.anyLocation with
    | true => exact inserting.taken whole unused rfl rfl rfl rfl (by simp [any]) rfl rfl rfl
    | false => exact inserting.taken whole unused rfl rfl rfl rfl (fun _ => rfl) rfl rfl rfl

theorem Inserting.start (flow : FlowType) (src dst : SockAddr) :
    Inserting env host inp [] (Agent.start inp flow src dst []) where
  cmd := rfl
  header := rfl
  inserts := by simp [Agent.start]
  ports := rfl
  added := rfl
  table := rfl
  count := rfl
  location := by
    intro ordered
    simp [Agent.start, ordered]
  requested := fun _ => rfl
  addErrno := rfl
  result := rfl
  fresh := fun _ => List.nodup_nil

theorem insertRules_wp (inserting : Inserting env host inp [] w) :
    (insertRules env host inp).wp (fun _ => Inserted env host inp) (fun _ => Inserted env host inp) w := by
  rw [insertRules_eq]
  refine wp_weaken (wp_forEach (Inserting env host inp) portPairs ?_ inserting) ?_
  · intro tried pair rest t whole inserting
    exact insertRule_wp whole inserting
  · intro _ t inserting
    exact inserting.finish (List.append_nil portPairs).symm

/-- Deletions of the locations `done`, after the insertions in `before`. -/
structure Deleting (before : Agent) (done left : List (BitVec 32)) (w : Agent) : Prop where
  cmd : w.rule.cmd = .srxclsrldel
  kept : w.rulesCount = before.rulesCount ∧ w.addErrno = before.addErrno
  log : ∃ deletions, w.log = before.log ++ deletions ∧
    deletions.map (fun call => call.rule.location) = done ∧
    (∀ call ∈ deletions, call.rule.cmd = .srxclsrldel) ∧
    ((∃ call ∈ deletions, call.reported = none) → w.result = -1) ∧
    ((∀ call ∈ deletions, call.reported ≠ none) → w.result = 0 ∧ ∀ location ∈ w.table, location ∈ left)

theorem deleteRule_wp {before : Agent} {ε : Type} {done left : List (BitVec 32)} {location : BitVec 32}
    (deleting : Deleting before done (location :: left) w) :
    (deleteRule env location : RulesScript ε Unit).wp (fun _ => Deleting before (done ++ [location]) left)
      (fun _ _ => False) w := by
  obtain ⟨deletions, log, locations, deletes, failure, success⟩ := deleting.log
  rw [deleteRule, wp_bind]
  change Script.wp _ _ _ { w with rule := { w.rule with location := location } }
  rw [wp_bind]
  unfold wp ioctlDelete
  cases reply : env.delete w.log.length { w.rule with location := location } with
  | some errno =>
    refine ⟨deleting.cmd, deleting.kept, deletions ++ [⟨{ w.rule with location := location }, .error errno⟩],
      ?_, ?_, ?_, fun _ => rfl, fun all => ?_⟩
    · simp [log]
    · simp [locations]
    · exact List.forall_mem_append.mpr ⟨deletes, List.forall_mem_singleton.mpr deleting.cmd⟩
    · exact absurd rfl (all _ (List.mem_append_right _ (List.mem_singleton.mpr rfl)))
  | none =>
    refine ⟨deleting.cmd, deleting.kept, deletions ++ [⟨{ w.rule with location := location }, .ok location⟩],
      ?_, ?_, ?_, ?_, fun all => ?_⟩
    · simp [log]
    · simp [locations]
    · exact List.forall_mem_append.mpr ⟨deletes, List.forall_mem_singleton.mpr deleting.cmd⟩
    · rintro ⟨call, member, missing⟩
      rcases List.mem_append.mp member with earlier | last
      · exact failure ⟨call, earlier, missing⟩
      · rw [List.mem_singleton.mp last] at missing
        cases missing
    · obtain ⟨result, table⟩ := success (fun call member => all call (List.mem_append_left _ member))
      refine ⟨result, fun other inside => ?_⟩
      obtain ⟨inside, different⟩ := List.mem_filter.mp inside
      exact (List.mem_cons.mp (table other inside)).resolve_left (by simpa using different)

theorem deleteRules_wp {ε : Type} (clean : w.result = 0) (table : w.table = w.addedRules) :
    (deleteRules env : RulesScript ε Unit).wp (fun _ => Deleting w w.addedRules []) (fun _ _ => False) w := by
  rw [deleteRules, wp_bind]
  change Script.wp _ _ _ { w with rule := { w.rule with hU := none, mU := none, cmd := .srxclsrldel } }
  rw [wp_bind]
  change Script.wp (forEach w.addedRules (deleteRule env)) _ _
    { w with rule := { w.rule with hU := none, mU := none, cmd := .srxclsrldel } }
  suffices general : ∀ (left done : List (BitVec 32)) (t : Agent), w.addedRules = done ++ left →
      Deleting w done left t →
      (forEach left (deleteRule env) : RulesScript ε Unit).wp (fun _ => Deleting w w.addedRules [])
        (fun _ _ => False) t by
    refine general w.addedRules [] _ rfl ⟨rfl, ⟨rfl, rfl⟩, [], by simp, rfl, by simp, by simp, fun _ => ?_⟩
    exact ⟨clean, fun location inside => table ▸ inside⟩
  intro left
  induction left with
  | nil =>
    intro done t whole deleting
    rw [List.append_nil] at whole
    exact whole ▸ deleting
  | cons location left ih =>
    intro done t whole deleting
    refine wp_seq (deleteRule_wp deleting) (fun _ u deleting => ?_) (fun _ _ never => never)
    exact ih (done ++ [location]) u (by simp [whole]) deleting

theorem flood_wp (env : Env) (host : Host) (inp : RulesIn) (flow : FlowType) (src dst : SockAddr) :
    (flood env host inp : RulesScript Unit Unit).wp
      (fun _ now => ∃ t, Inserted env host inp t ∧ Deleting t t.addedRules [] now) (fun _ _ => False)
      (Agent.start inp flow src dst []) := by
  have deletes : ∀ t, Inserted env host inp t → (deleteRules env : RulesScript Unit Unit).wp
      (fun _ now => ∃ t, Inserted env host inp t ∧ Deleting t t.addedRules [] now) (fun _ _ => False) t := by
    intro t inserted
    exact wp_weaken (deleteRules_wp inserted.result inserted.table) (fun _ _ deleting => ⟨t, inserted, deleting⟩)
  refine (wp_bind _ _).mpr ((wp_attempt _).mpr ?_)
  exact wp_mono (insertRules_wp (Inserting.start flow src dst)) (fun _ => deletes) (fun _ => deletes)

theorem flowType_supported {sockType : SockType} (supported : sockType = .dgram ∨ sockType = .stream)
    (family : Family) : ∃ flow, flowType sockType family = some flow := by
  rcases supported with rfl | rfl <;> cases family <;> exact ⟨_, rfl⟩

theorem filter_inserts {front back : List Ioctl} (inserts : ∀ call ∈ front, call.rule.cmd = .srxclsrlins)
    (deletes : ∀ call ∈ back, call.rule.cmd = .srxclsrldel) :
    (front ++ back).filter (fun call => call.rule.cmd = .srxclsrlins) = front := by
  have none : back.filter (fun call => call.rule.cmd = .srxclsrlins) = [] :=
    List.filter_eq_nil_iff.mpr (fun call member => by simp [deletes call member])
  rw [List.filter_append, none, List.append_nil]
  exact List.filter_eq_self.mpr (fun call member => by simp [inserts call member])

theorem filter_deletes {front back : List Ioctl} (inserts : ∀ call ∈ front, call.rule.cmd = .srxclsrlins)
    (deletes : ∀ call ∈ back, call.rule.cmd = .srxclsrldel) :
    (front ++ back).filter (fun call => call.rule.cmd = .srxclsrldel) = back := by
  have none : front.filter (fun call => call.rule.cmd = .srxclsrldel) = [] :=
    List.filter_eq_nil_iff.mpr (fun call member => by simp [inserts call member])
  rw [List.filter_append, none, List.nil_append]
  exact List.filter_eq_self.mpr (fun call member => by simp [deletes call member])

end

/-- The requests of `too_many_rx_rules()` for a pair of addresses that converts, either socket type
and any driver, on an empty table. -/
theorem rx_rule_ledger (env : Env) (host : Host) (inp : RulesIn) (src dst : SockAddr)
    (known : host.srxclsrlins = true) (source : inp.srcAddr = .ok src) (destination : inp.dstAddr = .ok dst)
    (supported : inp.sockType = .dgram ∨ inp.sockType = .stream) :
    let out := tooManyRxRules env host inp []
    let insertions := out.log.filter (fun call => call.rule.cmd = .srxclsrlins)
    let deletions := out.log.filter (fun call => call.rule.cmd = .srxclsrldel)
    out.log = insertions ++ deletions ∧
    (∃ tried : List (Nat × Nat), insertions.map (fun call => call.rule.ports host) = tried.map some ∧ tried.Nodup ∧
      ∀ pair ∈ tried, pair.1 ≠ 0 ∧ pair.2 ≠ 0) ∧
    (inp.anyLocation = false →
      insertions.map (fun call => call.rule.location) = (List.range insertions.length).map (BitVec.ofNat 32)) ∧
    deletions.map (fun call => call.rule.location) = insertions.filterMap Ioctl.reported ∧
    (env.Fresh → (deletions.map (fun call => call.rule.location)).Nodup) ∧
    ((∀ call ∈ deletions, call.reported ≠ none) → out.table = []) ∧
    (out.retval = -1 ↔ ∃ call ∈ deletions, call.reported = none) ∧
    out.rulesCount.toNat = (insertions.filterMap Ioctl.reported).length ∧
    (out.addErrno.isSome = true ↔ ∃ call ∈ insertions, call.reported = none) := by
  obtain ⟨flow, flowed⟩ := flowType_supported supported src.family
  have spec := flood_wp env host inp flow src dst
  simp only [tooManyRxRules, known, source, destination, flowed, Bool.true_eq_false, if_false]
  unfold wp at spec
  generalize run : (flood env host inp : RulesScript Unit Unit) (Agent.start inp flow src dst []) = result at spec
  obtain ⟨outcome, now⟩ := result
  cases outcome with
  | error e => exact spec.elim
  | ok _ =>
    obtain ⟨t, inserted, deleting⟩ := spec
    obtain ⟨deletions, log, locations, deletes, failure, success⟩ := deleting.log
    simp only [log, filter_inserts inserted.inserts deletes, filter_deletes inserted.inserts deletes]
    refine ⟨trivial, ?_, inserted.requested, ?_, ?_, ?_, ?_, ?_, ?_⟩
    · obtain ⟨tried, rest, whole, ports⟩ := inserted.ports
      have distinct : (tried ++ rest).Nodup := whole ▸ portPairs_nodup
      refine ⟨tried, ports, (List.nodup_append.mp distinct).1, fun pair member => ?_⟩
      have bounds := mem_portPairs.mp (whole ▸ List.mem_append_left rest member)
      omega
    · rw [locations, inserted.added]
    · rw [locations]
      exact inserted.fresh
    · intro all
      exact List.eq_nil_iff_forall_not_mem.mpr (fun location inside => by simpa using (success all).2 location inside)
    · refine ⟨fun failed => ?_, failure⟩
      by_contra none
      have clean := (success (fun call member missing => none ⟨call, member, missing⟩)).1
      omega
    · rw [deleting.kept.1, inserted.count, inserted.added]
    · rw [deleting.kept.2]
      exact inserted.addErrno

/-- A driver with room for two rules. It moves the second one and later fails to delete it. -/
def roomForTwo : Env where
  insert := fun n _ _ => if n < 2 then .ok (if n = 1 then some 7 else none) else .error (.os 28)
  delete := fun _ rule => if rule.location = 7 then some (.os 5) else none
  randRange := fun _ => 0

def udpRules : RulesIn := ⟨.ok ⟨.inet, [10, 0, 0, 1]⟩, .ok ⟨.inet, [10, 0, 0, 2]⟩, .dgram, false⟩

theorem rx_rule_ledger_room_for_two :
    let out := tooManyRxRules roomForTwo ⟨.little, true⟩ udpRules []
    let deletions := out.log.filter (fun call => call.rule.cmd = .srxclsrldel)
    (out.retval = -1 ↔ ∃ call ∈ deletions, call.reported = none) ∧ out.retval = -1 ∧ out.rulesCount = 2 ∧
      deletions.map (fun call => call.rule.location) = [0, 7] ∧ out.table = [7] := by
  refine ⟨?_, by decide +kernel, by decide +kernel, by decide +kernel, by decide +kernel⟩
  exact (rx_rule_ledger roomForTwo ⟨.little, true⟩ udpRules ⟨.inet, [10, 0, 0, 1]⟩ ⟨.inet, [10, 0, 0, 2]⟩
    rfl rfl rfl (.inl rfl)).2.2.2.2.2.2.1

end NetDrv.RxRules
