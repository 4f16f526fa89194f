import NetDrv.Coalesce.Exclusion
import Mathlib.Algebra.BigOperators.Group.List.Basic

/-! The statistics of the coalescing tests against the packets they were taken from.
Every packet is in a group that was counted, in one that was left out or in the
current one; the durations of the groups add up to the time between the first packet
and the last boundary. -/

namespace NetDrv.Coalesce
open ByteOrder ExactDelay

/-- The sizes or durations of the groups that were left out. -/
def excludedExtent (finished : List Finished) : Int :=
  ((finished.filter Finished.excluded).map Finished.extent).sum

def excludedCount (finished : List Finished) : Nat := (finished.filter Finished.excluded).length

theorem excludedExtent_snoc (finished : List Finished) (group : Finished) :
    excludedExtent (finished ++ [group]) = excludedExtent finished + if group.excluded then group.extent else 0 := by
  simp only [excludedExtent, List.filter_append, List.map_append, List.sum_append]
  cases excluded : group.excluded <;> simp [excluded]

theorem excludedCount_snoc (finished : List Finished) (group : Finished) :
    excludedCount (finished ++ [group]) = excludedCount finished + if group.excluded then 1 else 0 := by
  simp only [excludedCount, List.filter_append, List.length_append]
  cases excluded : group.excluded <;> simp [excluded]

section Total
variable (ids : List (BitVec 64)) (id : BitVec 64)

theorem txPktId_inside {idx : Nat} (inside : idx < ids.length) : ∃ value, txPktId ids idx = some value :=
  ⟨ids[idx].toNat % 2 ^ 32, by rw [txPktId, List.getElem?_eq_getElem inside, Option.map_some]⟩

theorem advance_total (idx : Nat) : ∃ stop, advance ids id idx = some stop := by
  induction left : ids.length - idx generalizing idx with
  | zero => exact ⟨idx, by rw [advance, if_neg (by omega)]⟩
  | succ left ih =>
    have inside : idx < ids.length := by omega
    obtain ⟨value, read⟩ := txPktId_inside ids inside
    rw [advance, if_pos inside, read]
    by_cases beyond : value > id.toNat
    · exact ⟨idx, by simp [beyond]⟩
    · obtain ⟨stop, run⟩ := ih (idx + 1) (by omega)
      exact ⟨stop, by simp [beyond, run]⟩

theorem skipGroup_total (idx : Nat) : ∃ skip stop, skipGroup ids id idx = some (skip, stop) := by
  by_cases inside : idx < ids.length
  · obtain ⟨value, read⟩ := txPktId_inside ids inside
    by_cases late : id.toNat ≥ value
    · obtain ⟨stop, run⟩ := advance_total ids id (idx + 1)
      exact ⟨true, stop, by simp [skipGroup, inside, read, late, run]⟩
    · exact ⟨false, idx, by simp [skipGroup, inside, read, late]⟩
  · exact ⟨false, idx, by simp [skipGroup, inside]⟩

end Total

theorem foldlM_stuck {σ α : Type} {step : σ → α → Option σ} (stuck : σ → Prop) (count : Nat → σ → σ)
    (zero : ∀ s, count 0 s = s) (succ : ∀ n s, count n (count 1 s) = count (n + 1) s)
    (once : ∀ s a, stuck s → step s a = some (count 1 s) ∧ stuck (count 1 s)) {s : σ} (initial : stuck s)
    (items : List α) : items.foldlM step s = some (count items.length s) := by
  induction items generalizing s with
  | nil => exact congrArg some (zero s).symm
  | cons item items ih =>
    obtain ⟨run, still⟩ := once s item initial
    rw [List.foldlM_cons, run]
    show items.foldlM step (count 1 s) = _
    rw [ih still, succ, List.length_cons]

namespace Frames
variable {minGroupDelay : Nat} {args : Args} {arrival : Arrival}

/-- The arguments after a packet that ends no group. -/
def Args.grow (args : Args) (arrival : Arrival) : Args :=
  { args with
    nPkts := args.nPkts + 1
    curPktId := arrival.id
    prevTs := arrival.ts
    curGroupSize := args.curGroupSize + 1 }

structure Cuts (args next : Args) (group : Finished) : Prop where
  count : next.nPkts = args.nPkts + 1
  readable : next.failed = false
  finished : next.finished = args.finished ++ [group]
  extent : group.extent = args.curGroupSize
  size : next.curGroupSize = 1
  total : next.totalGroupSize = args.totalGroupSize + if group.excluded then 0 else args.curGroupSize

theorem rx_cases (readable : args.failed = false) :
    rx minGroupDelay args (.ok arrival) = some (args.grow arrival) ∨
      0 < args.nPkts ∧ ∃ next group, rx minGroupDelay args (.ok arrival) = some next ∧ Cuts args next group := by
  by_cases boundary : args.nPkts + 1 > 1 ∧ arrival.ts - args.prevTs > minGroupDelay
  · obtain ⟨skip, idx, decision⟩ := skipGroup_total args.delayedPktIds arrival.id args.curDelayedIdx
    refine .inr ⟨by omega, ?_⟩
    simp only [rx, readable, Bool.false_eq_true, if_false, boundary, and_self, if_true, finishPktGroup, decision]
    cases skip with
    | true => exact ⟨_, ⟨arrival.id, true, idx, args.curGroupSize⟩, rfl, rfl, rfl, rfl, rfl, rfl, rfl⟩
    | false => exact ⟨_, ⟨arrival.id, false, idx, args.curGroupSize⟩, rfl, rfl, rfl, rfl, rfl, rfl, rfl⟩
  · left
    simp only [rx, Args.grow, readable, Bool.false_eq_true, if_false, boundary, Option.map_some]

/-- Every packet is in a counted group, in one that was left out or in the current one. -/
structure Counted (args : Args) : Prop where
  total : (args.nPkts : Int) = args.totalGroupSize + excludedExtent args.finished + args.curGroupSize
  sizes : ∀ group ∈ args.finished, 1 ≤ group.extent
  current : 0 < args.nPkts → 1 ≤ args.curGroupSize
  readable : args.failed = false

theorem Counted.rx (counted : Counted args) (arrival : Arrival) :
    ∃ next, rx minGroupDelay args (.ok arrival) = some next ∧ Counted next ∧ next.nPkts = args.nPkts + 1 := by
  have total := counted.total
  rcases rx_cases counted.readable with grows | ⟨nonempty, next, group, step, cuts⟩
  · refine ⟨_, grows, ⟨?_, counted.sizes, ?_, counted.readable⟩, rfl⟩
    · show ((args.nPkts + 1 : Nat) : Int) =
        args.totalGroupSize + excludedExtent args.finished + (args.curGroupSize + 1 : Nat)
      omega
    · intro _
      exact Nat.le_add_left 1 args.curGroupSize
  · have size := counted.current nonempty
    refine ⟨next, step, ⟨?_, ?_, ?_, cuts.readable⟩, cuts.count⟩
    · rw [cuts.count, cuts.finished, excludedExtent_snoc, cuts.size, cuts.total, cuts.extent]
      split <;> omega
    · intro other member
      rw [cuts.finished] at member
      rcases List.mem_append.mp member with old | new
      · exact counted.sizes other old
      · rw [List.mem_singleton.mp new, cuts.extent]
        omega
    · intro _
      rw [cuts.size]

theorem Counted.run (counted : Counted args) (arrivals : List Arrival) :
    ∃ final, (arrivals.map Except.ok).foldlM (Frames.rx minGroupDelay) args = some final ∧ Counted final ∧
      final.nPkts = args.nPkts + arrivals.length := by
  induction arrivals generalizing args with
  | nil => exact ⟨args, rfl, counted, rfl⟩
  | cons arrival arrivals ih =>
    obtain ⟨next, step, here, count⟩ := counted.rx arrival
    obtain ⟨final, run, there, count'⟩ := ih here
    refine ⟨final, ?_, there, by rw [count', count, List.length_cons]; omega⟩
    rw [List.map_cons, List.foldlM_cons, step]
    exact run

theorem run_failed (failed : args.failed = true) (pkts : List (Except TeErrno Arrival)) :
    pkts.foldlM (Frames.rx minGroupDelay) args = some { args with nPkts := args.nPkts + pkts.length } := by
  apply foldlM_stuck (fun args : Args => args.failed = true) (fun n args => { args with nPkts := args.nPkts + n }) _ _ _
    failed
  · intro args
    rfl
  · intro n args
    simp [Nat.add_assoc, Nat.add_comm n]
  · intro args pkt failed
    exact ⟨by simp [rx, failed], failed⟩

end Frames

namespace Usecs
variable {minGroupDelay : Nat} {args : Args} {first last : Arrival} {seen : List Arrival}

structure Cuts (args next : Args) (arrival : Arrival) (group : Finished) : Prop where
  count : next.nPkts = args.nPkts + 1
  readable : next.failed = false
  prev : next.prevTs = arrival.ts
  start : next.curGroupTs = arrival.ts
  finished : next.finished = args.finished ++ [group]
  extent : group.extent = arrival.ts - args.curGroupTs
  total : next.totalGroupsTime = args.totalGroupsTime + if group.excluded then 0 else arrival.ts - args.curGroupTs
  groups : next.nGroups = args.nGroups + if group.excluded then 0 else 1

theorem rx_first (readable : args.failed = false) (none : args.nPkts = 0) (arrival : Arrival) :
    rx minGroupDelay args (.ok arrival) = some { args with
      nPkts := 1
      curPktId := arrival.id
      prevTs := arrival.ts
      curGroupTs := arrival.ts } := by
  simp [rx, readable, none]

theorem rx_inside (readable : args.failed = false) (later : 0 < args.nPkts) {arrival : Arrival}
    (near : ¬arrival.ts - args.prevTs > minGroupDelay) :
    rx minGroupDelay args (.ok arrival) = some { args with
      nPkts := args.nPkts + 1
      curPktId := arrival.id
      prevTs := arrival.ts } := by
  simp [rx, readable, near, Nat.ne_of_gt later]

theorem rx_boundary (readable : args.failed = false) (later : 0 < args.nPkts) {arrival : Arrival}
    (gap : arrival.ts - args.prevTs > minGroupDelay) :
    ∃ next group, rx minGroupDelay args (.ok arrival) = some next ∧ Cuts args next arrival group := by
  obtain ⟨skip, idx, decision⟩ := skipGroup_total args.delayedPktIds arrival.id args.curDelayedIdx
  have notFirst : ¬args.nPkts + 1 = 1 := by omega
  simp only [rx, readable, Bool.false_eq_true, if_false, notFirst, gap, if_true, finishPktGroup, decision]
  cases skip with
  | true =>
    exact ⟨_, ⟨arrival.id, true, idx, arrival.ts - args.curGroupTs⟩, rfl,
      ⟨rfl, rfl, rfl, rfl, rfl, rfl, (Int.add_zero _).symm, rfl⟩⟩
  | false =>
    exact ⟨_, ⟨arrival.id, false, idx, arrival.ts - args.curGroupTs⟩, rfl, ⟨rfl, rfl, rfl, rfl, rfl, rfl, rfl, rfl⟩⟩

/-- The groups so far fill the time from the first packet to the last boundary. -/
structure Timed (minGroupDelay : Nat) (first : Arrival) (seen : List Arrival) (args : Args) : Prop where
  prev : ∀ last ∈ seen.getLast?, args.prevTs = last.ts
  nonempty : 0 < args.nPkts
  start : args.curGroupTs = ((boundaries minGroupDelay seen).getLast?.getD first).ts
  total : args.totalGroupsTime + excludedExtent args.finished = args.curGroupTs - first.ts
  groups : args.nGroups + excludedCount args.finished = (boundaries minGroupDelay seen).length
  readable : args.failed = false

theorem Timed.rx (timed : Timed minGroupDelay first (seen ++ [last]) args) (arrival : Arrival) :
    ∃ next, rx minGroupDelay args (.ok arrival) = some next ∧
      Timed minGroupDelay first (seen ++ [last] ++ [arrival]) next := by
  have prev : args.prevTs = last.ts := timed.prev last (by simp)
  have split : seen ++ [last] ++ [arrival] = seen ++ [last, arrival] := List.append_assoc _ _ _
  by_cases gap : arrival.ts - last.ts > minGroupDelay
  · obtain ⟨next, group, step, cuts⟩ := rx_boundary timed.readable timed.nonempty (prev.symm ▸ gap)
    have total := timed.total
    have groups := timed.groups
    refine ⟨next, step, ?_, by rw [cuts.count]; omega, ?_, ?_, ?_, cuts.readable⟩
    · simp [cuts.prev]
    · rw [split, boundaries_snoc, if_pos gap, cuts.start]
      simp
    · rw [cuts.finished, excludedExtent_snoc, cuts.total, cuts.extent, cuts.start]
      split <;> omega
    · rw [split, boundaries_snoc, if_pos gap, cuts.finished, excludedCount_snoc, cuts.groups, List.length_append,
        List.length_singleton]
      split <;> omega
  · refine ⟨_, rx_inside timed.readable timed.nonempty (prev.symm ▸ gap), ?_⟩
    have same : boundaries minGroupDelay (seen ++ [last] ++ [arrival]) = boundaries minGroupDelay (seen ++ [last]) := by
      rw [split, boundaries_snoc, if_neg gap, List.append_nil]
    exact {
      prev := by simp
      nonempty := Nat.succ_pos _
      start := same ▸ timed.start
      total := timed.total
      groups := same ▸ timed.groups
      readable := timed.readable }

theorem Timed.run (timed : Timed minGroupDelay first (seen ++ [last]) args) (arrivals : List Arrival) :
    ∃ final, (arrivals.map Except.ok).foldlM (Usecs.rx minGroupDelay) args = some final ∧
      Timed minGroupDelay first (seen ++ [last] ++ arrivals) final := by
  induction arrivals generalizing seen last args with
  | nil => exact ⟨args, rfl, by rwa [List.append_nil]⟩
  | cons arrival arrivals ih =>
    obtain ⟨next, step, here⟩ := timed.rx arrival
    obtain ⟨final, run, there⟩ := ih here
    refine ⟨final, ?_, by rwa [List.append_cons]⟩
    rw [List.map_cons, List.foldlM_cons, step]
    exact run

theorem run_timed (readable : args.failed = false) (none : args.nPkts = 0) (groups : args.nGroups = 0)
    (time : args.totalGroupsTime = 0) (fresh : args.finished = []) (arrivals : List Arrival) :
    ∃ final, (arrivals.map Except.ok).foldlM (Usecs.rx minGroupDelay) args = some final ∧
      (∀ first ∈ arrivals.head?, final.totalGroupsTime + excludedExtent final.finished =
        ((boundaries minGroupDelay arrivals).getLast?.getD first).ts - first.ts) ∧
      final.nGroups + excludedCount final.finished = (boundaries minGroupDelay arrivals).length := by
  cases arrivals with
  | nil => exact ⟨args, rfl, by simp, by simp [groups, fresh, excludedCount, boundaries]⟩
  | cons first rest =>
    let next : Args := { args with nPkts := 1, curPktId := first.id, prevTs := first.ts, curGroupTs := first.ts }
    have timed : Timed minGroupDelay first ([] ++ [first]) next := {
      prev := by simp [next]
      nonempty := Nat.one_pos
      start := by simp [next, boundaries]
      total := by simp [next, time, fresh, excludedExtent]
      groups := by simp [next, groups, fresh, excludedCount, boundaries]
      readable := readable }
    obtain ⟨final, run, there⟩ := timed.run rest
    refine ⟨final, ?_, ?_, there.groups⟩
    · rw [List.map_cons, List.foldlM_cons, rx_first readable none first]
      exact run
    · intro other present
      obtain rfl : first = other := Option.some.inj present
      rw [there.total, there.start]
      rfl

theorem run_failed (failed : args.failed = true) (pkts : List (Except TeErrno Arrival)) :
    pkts.foldlM (Usecs.rx minGroupDelay) args = some { args with nPkts := args.nPkts + pkts.length } := by
  apply foldlM_stuck (fun args : Args => args.failed = true) (fun n args => { args with nPkts := args.nPkts + n }) _ _ _
    failed
  · intro args
    rfl
  · intro n args
    simp [Nat.add_assoc, Nat.add_comm n]
  · intro args pkt failed
    exact ⟨by simp [rx, failed], failed⟩

end Usecs

section Captures
variable {host : Endian} {minGroupDelay : Nat}

theorem Frames.processCapture_eq (args : Frames.Args) (capture : List CapturedPkt) :
    Frames.processCapture host minGroupDelay args capture =
      (capture.map (CapturedPkt.read (readPktId host))).foldlM (Frames.rx minGroupDelay) args := by
  rw [List.foldlM_map]
  rfl

theorem Usecs.processCapture_eq (args : Usecs.Args) (capture : List CapturedPkt) :
    Usecs.processCapture host minGroupDelay args capture =
      (capture.map (CapturedPkt.read (readPktId host))).foldlM (Usecs.rx minGroupDelay) args := by
  rw [List.foldlM_map]
  rfl

theorem Frames.processCapture_failed {args : Frames.Args} {pkt : CapturedPkt} {rc : TeErrno}
    (readable : args.failed = false) (unread : pkt.read (readPktId host) = .error rc) (rest : List CapturedPkt) :
    Frames.processCapture host minGroupDelay args (pkt :: rest) =
      some { args with nPkts := args.nPkts + (rest.length + 1), failed := true } := by
  have step : Frames.rx minGroupDelay args (.error rc) = some { args with nPkts := args.nPkts + 1, failed := true } := by
    simp [Frames.rx, readable]
  rw [Frames.processCapture_eq, List.map_cons, unread, List.foldlM_cons, step]
  show List.foldlM _ _ _ = _
  rw [Frames.run_failed rfl]
  simp only [List.length_map, Nat.add_assoc, Nat.add_comm 1]

theorem Usecs.processCapture_failed {args : Usecs.Args} {pkt : CapturedPkt} {rc : TeErrno}
    (readable : args.failed = false) (unread : pkt.read (readPktId host) = .error rc) (rest : List CapturedPkt) :
    Usecs.processCapture host minGroupDelay args (pkt :: rest) =
      some { args with nPkts := args.nPkts + (rest.length + 1), failed := true } := by
  have step : Usecs.rx minGroupDelay args (.error rc) = some { args with nPkts := args.nPkts + 1, failed := true } := by
    simp [Usecs.rx, readable]
  rw [Usecs.processCapture_eq, List.map_cons, unread, List.foldlM_cons, step]
  show List.foldlM _ _ _ = _
  rw [Usecs.run_failed rfl]
  simp only [List.length_map, Nat.add_assoc, Nat.add_comm 1]

end Captures

/-- The statistics lose and duplicate nothing, whatever packets were sent late; after a failure they stay. -/
theorem coalescing_accounting (host : Endian) (minGroupDelay : Nat) (ids : List (BitVec 64))
    (capture : List CapturedPkt) (arrivals : List Arrival)
    (readable : capture.map (CapturedPkt.read (readPktId host)) = arrivals.map .ok)
    (frames : Frames.Args) (framesReady : frames.Ready ids) (sizes : frames.curGroupSize = 0 ∧ frames.totalGroupSize = 0)
    (usecs : Usecs.Args) (usecsReady : usecs.Ready ids) (time : usecs.totalGroupsTime = 0) :
    (∃ frames', Frames.processCapture host minGroupDelay frames capture = some frames' ∧
      (capture.length : Int) =
        frames'.totalGroupSize + excludedExtent frames'.finished + frames'.curGroupSize ∧
      ∀ group ∈ frames'.finished, group.excluded = false → 1 ≤ group.extent) ∧
    (∃ usecs', Usecs.processCapture host minGroupDelay usecs capture = some usecs' ∧
      (∀ first ∈ arrivals.head?, usecs'.totalGroupsTime + excludedExtent usecs'.finished =
        ((boundaries minGroupDelay arrivals).getLast?.getD first).ts - first.ts) ∧
      usecs'.nGroups + excludedCount usecs'.finished = (boundaries minGroupDelay arrivals).length) ∧
    (∀ (args : Frames.Args) (pkt : CapturedPkt) (rest : List CapturedPkt) (rc : TeErrno), args.failed = false →
      pkt.read (readPktId host) = .error rc → Frames.processCapture host minGroupDelay args (pkt :: rest) =
        some { args with nPkts := args.nPkts + (rest.length + 1), failed := true }) ∧
    ∀ (args : Usecs.Args) (pkt : CapturedPkt) (rest : List CapturedPkt) (rc : TeErrno), args.failed = false →
      pkt.read (readPktId host) = .error rc → Usecs.processCapture host minGroupDelay args (pkt :: rest) =
        some { args with nPkts := args.nPkts + (rest.length + 1), failed := true } := by
  have length : capture.length = arrivals.length := by
    simpa using congrArg List.length readable
  refine ⟨?_, ?_, fun _ _ rest _ whole unread => Frames.processCapture_failed whole unread rest,
    fun _ _ rest _ whole unread => Usecs.processCapture_failed whole unread rest⟩
  · have counted : Frames.Counted frames := {
      total := by simp [framesReady.count, framesReady.none, sizes, excludedExtent]
      sizes := by simp [framesReady.none]
      current := by simp [framesReady.count]
      readable := framesReady.readable }
    obtain ⟨frames', run, final, count⟩ := counted.run arrivals
    refine ⟨frames', by rw [Frames.processCapture_eq, readable, run], ?_, fun group member _ => final.sizes group member⟩
    rw [← final.total, count, framesReady.count, length, Nat.zero_add]
  · rw [Usecs.processCapture_eq, readable]
    exact Usecs.run_timed usecsReady.readable usecsReady.count usecsReady.groups time usecsReady.none arrivals

theorem coalescing_accounting_late_packet :
    (∃ frames, Frames.processCapture .little 100 ⟨lateArgs, 8, 0, 0⟩ lateCapture = some frames ∧
      3 = frames.totalGroupSize + excludedExtent frames.finished + frames.curGroupSize) ∧
    ∃ usecs, Usecs.processCapture .little 100 ⟨lateArgs, 800, 0, 0⟩ lateCapture = some usecs ∧
      usecs.totalGroupsTime + excludedExtent usecs.finished = 1000 ∧
      usecs.nGroups + excludedCount usecs.finished = 2 := by
  have ready : lateArgs.Ready [2] := ⟨rfl, rfl, rfl, rfl, rfl, rfl⟩
  obtain ⟨⟨frames, runFrames, sizes, -⟩, ⟨usecs, runUsecs, time, groups⟩, -⟩ :=
    coalescing_accounting .little 100 [2] lateCapture [⟨0, 1⟩, ⟨500, 2⟩, ⟨1000, 3⟩] (by decide +kernel)
      ⟨lateArgs, 8, 0, 0⟩ ready ⟨rfl, rfl⟩ ⟨lateArgs, 800, 0, 0⟩ ready rfl
  exact ⟨⟨frames, runFrames, sizes⟩, usecs, runUsecs, (time ⟨0, 1⟩ rfl).trans (by decide), groups.trans (by decide)⟩

end NetDrv.Coalesce
