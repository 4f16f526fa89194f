import NetDrv.Coalesce.Groups
import Mathlib.Data.List.Pairwise

/-! Which groups the coalescing tests leave out. What both tests do to the cursor is
one machine, their view; it is shown to leave out a group exactly if a packet was
sent late since the previous boundary. -/

namespace NetDrv.Coalesce
open ByteOrder ExactDelay

section Cursor
variable {ids : List (BitVec 64)} {id : BitVec 64} {idx : Nat}

/-- The cursor stands between the ids up to `id` and those after it. -/
def StandsAt (ids : List (BitVec 64)) (idx : Nat) (id : BitVec 64) : Prop :=
  (∀ delayed ∈ ids.take idx, delayed ≤ id) ∧ ∀ delayed ∈ ids.drop idx, id < delayed

theorem txPktId_eq (small : ∀ delayed ∈ ids, delayed.toNat < 2 ^ 32) (inside : idx < ids.length) :
    txPktId ids idx = some ids[idx].toNat := by
  have fits := small ids[idx] (List.getElem_mem inside)
  rw [txPktId, List.getElem?_eq_getElem inside, Option.map_some, Nat.mod_eq_of_lt fits]

theorem le_of_mem_drop (increasing : ids.Pairwise (· < ·)) (inside : idx < ids.length) {delayed : BitVec 64}
    (member : delayed ∈ ids.drop idx) : ids[idx] ≤ delayed := by
  rw [List.drop_eq_getElem_cons inside] at member
  have tail := increasing.drop (i := idx)
  rw [List.drop_eq_getElem_cons inside, List.pairwise_cons] at tail
  rcases List.mem_cons.mp member with rfl | later
  · exact BitVec.le_refl _
  · exact BitVec.le_of_lt (tail.1 delayed later)

theorem take_succ_le (inside : idx < ids.length) (passed : ∀ delayed ∈ ids.take idx, delayed ≤ id)
    (here : ids[idx] ≤ id) : ∀ delayed ∈ ids.take (idx + 1), delayed ≤ id := by
  intro delayed member
  rw [List.take_succ_eq_append_getElem inside] at member
  rcases List.mem_append.mp member with before | now
  · exact passed delayed before
  · exact List.mem_singleton.mp now ▸ here

theorem advance_spec (increasing : ids.Pairwise (· < ·)) (small : ∀ delayed ∈ ids, delayed.toNat < 2 ^ 32)
    (passed : ∀ delayed ∈ ids.take idx, delayed ≤ id) :
    ∃ stop, advance ids id idx = some stop ∧ StandsAt ids stop id := by
  induction left : ids.length - idx generalizing idx with
  | zero =>
    have out : ¬idx < ids.length := by omega
    refine ⟨idx, by rw [advance, if_neg out], passed, ?_⟩
    simp [List.drop_eq_nil_of_le (Nat.le_of_not_lt out)]
  | succ left ih =>
    have inside : idx < ids.length := by omega
    by_cases beyond : id.toNat < ids[idx].toNat
    · refine ⟨idx, by simp [advance, inside, txPktId_eq small inside, beyond], passed, ?_⟩
      intro delayed member
      exact Nat.lt_of_lt_of_le beyond (le_of_mem_drop increasing inside member)
    · obtain ⟨stop, run, stands⟩ := ih (take_succ_le inside passed (Nat.le_of_not_lt beyond)) (by omega)
      refine ⟨stop, ?_, stands⟩
      rw [advance, if_pos inside, txPktId_eq small inside]
      simp only [gt_iff_lt, beyond, if_false, run]

theorem skipGroup_spec (increasing : ids.Pairwise (· < ·)) (small : ∀ delayed ∈ ids, delayed.toNat < 2 ^ 32)
    (passed : ∀ delayed ∈ ids.take idx, delayed ≤ id) :
    ∃ skip stop, skipGroup ids id idx = some (skip, stop) ∧ StandsAt ids stop id ∧
      (skip = true ↔ ∃ delayed ∈ ids.drop idx, delayed ≤ id) := by
  by_cases inside : idx < ids.length
  · by_cases late : ids[idx].toNat ≤ id.toNat
    · obtain ⟨stop, run, stands⟩ := advance_spec increasing small (take_succ_le inside passed late)
      refine ⟨true, stop, ?_, stands, fun _ => ⟨ids[idx], ?_, late⟩, fun _ => rfl⟩
      · simp [skipGroup, inside, txPktId_eq small inside, late, run]
      · rw [List.drop_eq_getElem_cons inside]
        exact List.mem_cons_self
    · have beyond : ∀ delayed ∈ ids.drop idx, id < delayed := fun delayed member =>
        Nat.lt_of_lt_of_le (Nat.lt_of_not_le late) (le_of_mem_drop increasing inside member)
      refine ⟨false, idx, ?_, ⟨passed, beyond⟩, fun wrong => Bool.noConfusion wrong, ?_⟩
      · simp [skipGroup, inside, txPktId_eq small inside, late]
      · intro lateIds
        obtain ⟨delayed, member, upTo⟩ := lateIds
        exact absurd (beyond delayed member) (BitVec.not_lt.mpr upTo)
  · have empty : ids.drop idx = [] := List.drop_eq_nil_of_le (Nat.le_of_not_lt inside)
    exact ⟨false, idx, by simp [skipGroup, inside], ⟨passed, by simp [empty]⟩, by simp [empty]⟩

end Cursor

/-- A call of `finish_pkt_group()` without the size of the group. -/
structure Mark where
  id : BitVec 64
  excluded : Bool
  cursor : Nat
  deriving DecidableEq, Repr

def Finished.mark (group : Finished) : Mark := ⟨group.id, group.excluded, group.cursor⟩

structure View where
  delayedPktIds : List (BitVec 64)
  curDelayedIdx : Nat
  prevTs : Int
  nPkts : Nat
  failed : Bool
  marks : List Mark
  deriving DecidableEq, Repr

def Args.view (args : Args) : View :=
  ⟨args.delayedPktIds, args.curDelayedIdx, args.prevTs, args.nPkts, args.failed, args.finished.map Finished.mark⟩

namespace View

def finish (v : View) (id : BitVec 64) : Option View :=
  (skipGroup v.delayedPktIds id v.curDelayedIdx).map (fun (skip, idx) =>
    { v with curDelayedIdx := idx, marks := v.marks ++ [⟨id, skip, idx⟩] })

def rx (minGroupDelay : Nat) (v : View) (pkt : Except TeErrno Arrival) : Option View :=
  let v := { v with nPkts := v.nPkts + 1 }
  if v.failed then some v
  else
    match pkt with
    | .error _ => some { v with failed := true }
    | .ok arrival =>
      if v.nPkts > 1 ∧ arrival.ts - v.prevTs > minGroupDelay then
        (v.finish arrival.id).map (fun v => { v with prevTs := arrival.ts })
      else some { v with prevTs := arrival.ts }

end View

/-- The packets that come later than `minGroupDelay` after the previous one. -/
def boundaries (minGroupDelay : Nat) : List Arrival → List Arrival
  | first :: second :: rest =>
    if second.ts - first.ts > minGroupDelay then second :: boundaries minGroupDelay (second :: rest)
    else boundaries minGroupDelay (second :: rest)
  | _ => []

/-- The rule for a group that ends at a boundary: it is left out if a delayed packet lies after the previous
boundary, and the cursor then stands at the boundary. -/
structure Obeys (ids : List (BitVec 64)) (previous : Option (BitVec 64)) (mark : Mark) : Prop where
  excluded : mark.excluded = true ↔ ∃ delayed ∈ ids, delayed ≤ mark.id ∧ ∀ boundary ∈ previous, boundary < delayed
  cursor : StandsAt ids mark.cursor mark.id

/-- Every group obeys the rule, with the boundary before it. -/
def Rule (ids : List (BitVec 64)) : Option (BitVec 64) → List Mark → Prop
  | _, [] => True
  | previous, mark :: marks => Obeys ids previous mark ∧ Rule ids (some mark.id) marks

theorem boundaries_snoc (minGroupDelay : Nat) (seen : List Arrival) (last next : Arrival) :
    boundaries minGroupDelay (seen ++ [last, next]) =
      boundaries minGroupDelay (seen ++ [last]) ++
        if next.ts - last.ts > minGroupDelay then [next] else [] := by
  induction seen with
  | nil => simp [boundaries]
  | cons first seen ih =>
    cases seen with
    | nil =>
      simp only [List.cons_append, List.nil_append, boundaries] at ih ⊢
      split <;> simp
    | cons second seen =>
      simp only [List.cons_append, boundaries] at ih ⊢
      rw [ih]
      split <;> simp

theorem rule_snoc {ids : List (BitVec 64)} {previous : Option (BitVec 64)} {marks : List Mark} {mark : Mark} :
    Rule ids previous (marks ++ [mark]) ↔
      Rule ids previous marks ∧ Obeys ids ((marks.getLast?.map Mark.id).or previous) mark := by
  induction marks generalizing previous with
  | nil => simp [Rule]
  | cons head marks ih =>
    have last : ((head :: marks).getLast?.map Mark.id).or previous =
        (marks.getLast?.map Mark.id).or (some head.id) := by
      cases marks with
      | nil => simp
      | cons second marks =>
        rw [List.getLast?_cons_cons, List.getLast?_eq_some_getLast (List.cons_ne_nil second marks)]
        rfl
    rw [List.cons_append, Rule, Rule, ih, last, and_assoc]

/-- What the machine has done over the packets seen so far. -/
structure Tracks (minGroupDelay : Nat) (ids : List (BitVec 64)) (seen : List Arrival) (v : View) : Prop where
  delayed : v.delayedPktIds = ids
  count : v.nPkts = seen.length
  readable : v.failed = false
  prev : ∀ last ∈ seen.getLast?, v.prevTs = last.ts
  found : v.marks.map Mark.id = (boundaries minGroupDelay seen).map Arrival.id
  rule : Rule ids none v.marks
  cursor : v.curDelayedIdx = (v.marks.getLast?.map Mark.cursor).getD 0
  earlier : ∀ mark ∈ v.marks.getLast?, ∀ last ∈ seen.getLast?, mark.id ≤ last.id

variable {minGroupDelay : Nat} {ids : List (BitVec 64)} {seen : List Arrival} {v : View}

theorem Tracks.standsAt (tracks : Tracks minGroupDelay ids seen v) {mark : Mark} (last : v.marks.getLast? = some mark) :
    StandsAt ids v.curDelayedIdx mark.id := by
  obtain ⟨before, whole⟩ := List.getLast?_eq_some_iff.mp last
  have obeys := (rule_snoc.mp (whole ▸ tracks.rule)).2
  rw [tracks.cursor, last]
  exact obeys.cursor

theorem Tracks.mem_drop_iff (tracks : Tracks minGroupDelay ids seen v) (delayed : BitVec 64) :
    delayed ∈ ids.drop v.curDelayedIdx ↔
      delayed ∈ ids ∧ ∀ boundary ∈ v.marks.getLast?.map Mark.id, boundary < delayed := by
  cases last : v.marks.getLast? with
  | none => simp [tracks.cursor, last]
  | some mark =>
    obtain ⟨passed, beyond⟩ := tracks.standsAt last
    constructor
    · intro member
      refine ⟨List.mem_of_mem_drop member, ?_⟩
      simpa using beyond delayed member
    · intro member
      have split := List.take_append_drop v.curDelayedIdx ids
      rcases List.mem_append.mp (split.symm ▸ member.1) with before | after
      · exact absurd (member.2 mark.id (by simp)) (BitVec.not_lt.mpr (passed delayed before))
      · exact after

theorem Tracks.finish (increasing : ids.Pairwise (· < ·)) (small : ∀ delayed ∈ ids, delayed.toNat < 2 ^ 32)
    (tracks : Tracks minGroupDelay ids seen v) {id : BitVec 64} (newer : ∀ last ∈ seen.getLast?, last.id < id)
    (nonempty : seen ≠ []) :
    ∃ mark, v.finish id = some { v with curDelayedIdx := mark.cursor, marks := v.marks ++ [mark] } ∧
      mark.id = id ∧ Obeys ids (v.marks.getLast?.map Mark.id) mark := by
  have passed : ∀ delayed ∈ ids.take v.curDelayedIdx, delayed ≤ id := by
    cases last : v.marks.getLast? with
    | none => simp [tracks.cursor, last]
    | some mark =>
      intro delayed member
      have below := (tracks.standsAt last).1 delayed member
      have present := List.getLast?_eq_some_getLast nonempty
      have older := tracks.earlier mark last _ present
      have old := newer _ present
      simp only [BitVec.le_def, BitVec.lt_def] at *
      omega
  obtain ⟨skip, stop, run, stands, decided⟩ := skipGroup_spec increasing small passed
  refine ⟨⟨id, skip, stop⟩, by simp [View.finish, tracks.delayed, run], rfl, ?_, stands⟩
  show skip = true ↔ _
  rw [decided]
  simp only [tracks.mem_drop_iff, and_comm, and_left_comm]

theorem Tracks.extend (tracks : Tracks minGroupDelay ids seen v) {next : Arrival}
    (newer : ∀ last ∈ seen.getLast?, last.id < next.id)
    (inside : boundaries minGroupDelay (seen ++ [next]) = boundaries minGroupDelay seen) :
    Tracks minGroupDelay ids (seen ++ [next]) { v with nPkts := v.nPkts + 1, prevTs := next.ts } where
  delayed := tracks.delayed
  count := by simp [tracks.count]
  readable := tracks.readable
  prev := by simp
  found := inside ▸ tracks.found
  rule := tracks.rule
  cursor := tracks.cursor
  earlier := by
    intro mark member last present
    rw [List.getLast?_concat, Option.mem_some_iff] at present
    subst present
    by_cases empty : seen = []
    · have unmarked : v.marks = [] := by
        have found := tracks.found
        simpa [empty, boundaries] using found
      exact absurd member (by simp [unmarked])
    · have present := List.getLast?_eq_some_getLast empty
      have older := tracks.earlier mark member _ present
      have old := newer _ present
      simp only [BitVec.le_def, BitVec.lt_def] at *
      omega

theorem Tracks.rx (increasing : ids.Pairwise (· < ·)) (small : ∀ delayed ∈ ids, delayed.toNat < 2 ^ 32)
    (tracks : Tracks minGroupDelay ids seen v) (next : Arrival)
    (newer : ∀ last ∈ seen.getLast?, last.id < next.id) :
    ∃ w, v.rx minGroupDelay (.ok next) = some w ∧ Tracks minGroupDelay ids (seen ++ [next]) w := by
  rcases List.eq_nil_or_concat' seen with rfl | ⟨front, last, rfl⟩
  · refine ⟨_, ?_, tracks.extend newer (by simp [boundaries])⟩
    simp [View.rx, tracks.readable, tracks.count]
  · have prev : v.prevTs = last.ts := tracks.prev last (by simp)
    have split : front ++ [last] ++ [next] = front ++ [last, next] := List.append_assoc _ _ _
    by_cases gap : next.ts - last.ts > minGroupDelay
    · obtain ⟨mark, finish, here, obeys⟩ := tracks.finish increasing small newer (by simp)
      let w : View := { v with
        curDelayedIdx := mark.cursor
        marks := v.marks ++ [mark]
        nPkts := v.nPkts + 1
        prevTs := next.ts }
      have step : v.rx minGroupDelay (.ok next) = some w := by
        have boundary : 1 < v.nPkts + 1 ∧ next.ts - v.prevTs > minGroupDelay := by
          refine ⟨?_, prev ▸ gap⟩
          simp [tracks.count]
        have same := congrArg (Option.map (fun u : View => { u with nPkts := v.nPkts + 1, prevTs := next.ts })) finish
        simpa [View.rx, View.finish, tracks.readable, boundary, Option.map_map, Function.comp_def, w] using same
      refine ⟨w, step, ?_⟩
      exact {
        delayed := tracks.delayed
        count := by simp [w, tracks.count]
        readable := tracks.readable
        prev := by simp [w]
        found := by
          rw [split, boundaries_snoc, if_pos gap, List.map_append, List.map_append, tracks.found, List.map_singleton,
            List.map_singleton, here]
        rule := by
          rw [rule_snoc, Option.or_none]
          exact ⟨tracks.rule, obeys⟩
        cursor := by simp [w]
        earlier := by simp [w, here] }
    · refine ⟨_, ?_, tracks.extend newer (by rw [split, boundaries_snoc, if_neg gap, List.append_nil])⟩
      simp [View.rx, tracks.readable, prev, gap]

theorem Tracks.run (increasing : ids.Pairwise (· < ·)) (small : ∀ delayed ∈ ids, delayed.toNat < 2 ^ 32)
    (tracks : Tracks minGroupDelay ids seen v) {rest : List Arrival}
    (order : (seen ++ rest).Pairwise (fun first second => first.id < second.id)) :
    ∃ w, (rest.map Except.ok).foldlM (View.rx minGroupDelay) v = some w ∧ Tracks minGroupDelay ids (seen ++ rest) w := by
  induction rest generalizing seen v with
  | nil => exact ⟨v, rfl, by rwa [List.append_nil]⟩
  | cons next rest ih =>
    have newer : ∀ last ∈ seen.getLast?, last.id < next.id := by
      intro last present
      exact (List.pairwise_append.mp order).2.2 last (List.mem_of_getLast? present) next List.mem_cons_self
    obtain ⟨middle, step, here⟩ := tracks.rx increasing small next newer
    have split : seen ++ next :: rest = seen ++ [next] ++ rest := List.append_cons seen next rest
    obtain ⟨w, run, there⟩ := ih here (split ▸ order)
    refine ⟨w, ?_, split ▸ there⟩
    rw [List.map_cons, List.foldlM_cons, step]
    exact run

theorem tx_delayed (args : Args) (arrival : Arrival) (readable : args.failed = false) :
    let next := args.tx (.ok arrival)
    (next.delayedPktIds = args.delayedPktIds ∨ next.delayedPktIds = args.delayedPktIds ++ [arrival.id]) ∧
      next.curDelayedIdx = args.curDelayedIdx ∧ next.nGroups = args.nGroups ∧ next.failed = false ∧
      next.finished = args.finished := by
  simp only [Args.tx, readable, Bool.false_eq_true, if_false]
  split
  · exact ⟨.inl rfl, rfl, rfl, rfl, rfl⟩
  · split
    · exact ⟨.inr rfl, rfl, rfl, rfl, rfl⟩
    · exact ⟨.inl rfl, rfl, rfl, rfl, rfl⟩

theorem ready_of_tx (pktSendDelay : Nat) (arrivals : List Arrival)
    (order : arrivals.Pairwise (fun first second => first.id < second.id))
    (small : ∀ arrival ∈ arrivals, arrival.id.toNat < 2 ^ 32) :
    ∃ ids : List (BitVec 64), ids.Pairwise (· < ·) ∧ (∀ delayed ∈ ids, delayed.toNat < 2 ^ 32) ∧
      Args.Ready { (arrivals.map Except.ok).foldl Args.tx (.init pktSendDelay) with nPkts := 0 } ids := by
  let after := fun seen : List Arrival => (seen.map Except.ok).foldl Args.tx (.init pktSendDelay)
  have invariant : ∀ seen : List Arrival, (after seen).delayedPktIds.Sublist (seen.map Arrival.id) ∧
      (after seen).curDelayedIdx = 0 ∧ (after seen).nGroups = 0 ∧ (after seen).failed = false ∧
      (after seen).finished = [] := by
    intro seen
    induction seen using List.reverseRecOn with
    | nil => simp [after, Args.init]
    | append_singleton seen arrival ih =>
      obtain ⟨sublist, cursor, groups, readable, fresh⟩ := ih
      have snoc : after (seen ++ [arrival]) = (after seen).tx (.ok arrival) := by simp [after]
      obtain ⟨delayed, cursor', groups', readable', fresh'⟩ := tx_delayed (after seen) arrival readable
      rw [snoc, List.map_append, List.map_singleton]
      refine ⟨?_, cursor'.trans cursor, groups'.trans groups, readable', fresh'.trans fresh⟩
      rcases delayed with same | late
      · rw [same]
        exact sublist.trans (List.sublist_append_left _ _)
      · rw [late]
        exact sublist.append (List.Sublist.refl _)
  obtain ⟨sublist, cursor, groups, readable, fresh⟩ := invariant arrivals
  refine ⟨(after arrivals).delayedPktIds, ?_, ?_, ⟨rfl, cursor, rfl, groups, readable, fresh⟩⟩
  · exact List.Pairwise.sublist sublist (List.pairwise_map.mpr order)
  · intro delayed member
    obtain ⟨arrival, present, rfl⟩ := List.mem_map.mp (sublist.subset member)
    exact small arrival present

theorem foldl_toArgs {σ : Type} {step : σ → CapturedPkt → σ} {toArgs : σ → Args}
    {read : CapturedPkt → Except TeErrno Arrival} (commutes : ∀ s pkt, toArgs (step s pkt) = (toArgs s).tx (read pkt))
    (capture : List CapturedPkt) (s : σ) :
    toArgs (capture.foldl step s) = (capture.map read).foldl Args.tx (toArgs s) := by
  rw [List.foldl_map]
  exact (List.foldl_hom toArgs (fun s pkt => (commutes s pkt).symm)).symm

theorem ready_after_tx (host : Endian) {pktSendDelay : Nat} {capture : List CapturedPkt} {arrivals : List Arrival}
    (readable : capture.map (CapturedPkt.read (readPktId host)) = arrivals.map .ok)
    (order : arrivals.Pairwise (fun first second => first.id < second.id))
    (small : ∀ arrival ∈ arrivals, arrival.id.toNat < 2 ^ 32) {usecs : Usecs.Args} {frames : Frames.Args}
    (usecsInit : usecs.toArgs = .init pktSendDelay) (framesInit : frames.toArgs = .init pktSendDelay) :
    ∃ ids : List (BitVec 64), ids.Pairwise (· < ·) ∧ (∀ delayed ∈ ids, delayed.toNat < 2 ^ 32) ∧
      Args.Ready { (capture.foldl (Usecs.processTxPkts host) usecs).toArgs with nPkts := 0 } ids ∧
      Args.Ready { (capture.foldl (Frames.processTxPkts host) frames).toArgs with nPkts := 0 } ids := by
  obtain ⟨ids, increasing, fits, ready⟩ := ready_of_tx pktSendDelay arrivals order small
  have usecsRun : (capture.foldl (Usecs.processTxPkts host) usecs).toArgs =
      (arrivals.map Except.ok).foldl Args.tx (.init pktSendDelay) := by
    rw [← readable, ← usecsInit]
    exact foldl_toArgs (fun _ _ => rfl) capture usecs
  have framesRun : (capture.foldl (Frames.processTxPkts host) frames).toArgs =
      (arrivals.map Except.ok).foldl Args.tx (.init pktSendDelay) := by
    rw [← readable, ← framesInit]
    exact foldl_toArgs (fun _ _ => rfl) capture frames
  rw [usecsRun, framesRun]
  exact ⟨ids, increasing, fits, ready, ready⟩

def kept (finished : List Finished) : List Finished := finished.filter (fun group => !group.excluded)

/-- The statistics are those of the groups that were not left out. -/
structure Counts (target : Int) (finished : List Finished) (nGroups : Nat) (total squaredDevSum : Int) : Prop where
  groups : nGroups = (kept finished).length
  total : total = ((kept finished).map Finished.extent).sum
  deviation : squaredDevSum = ((kept finished).map (fun group => (group.extent - target) * (group.extent - target))).sum

theorem counts_nil (target : Int) : Counts target [] 0 0 0 := ⟨rfl, rfl, rfl⟩

theorem Counts.skip {target : Int} {finished : List Finished} {nGroups : Nat} {total squaredDevSum : Int}
    (counts : Counts target finished nGroups total squaredDevSum) {group : Finished} (excluded : group.excluded = true) :
    Counts target (finished ++ [group]) nGroups total squaredDevSum := by
  have same : kept (finished ++ [group]) = kept finished := by simp [kept, excluded]
  exact ⟨same ▸ counts.groups, same ▸ counts.total, same ▸ counts.deviation⟩

theorem Counts.add {target : Int} {finished : List Finished} {nGroups : Nat} {total squaredDevSum : Int}
    (counts : Counts target finished nGroups total squaredDevSum) {group : Finished} (counted : group.excluded = false) :
    Counts target (finished ++ [group]) (nGroups + 1) (total + group.extent)
      (squaredDevSum + (group.extent - target) * (group.extent - target)) := by
  have more : kept (finished ++ [group]) = kept finished ++ [group] := by simp [kept, counted]
  exact ⟨by simp [more, counts.groups], by simp [more, counts.total], by simp [more, counts.deviation]⟩

/-- The statistics of the test by durations, since `start`. -/
def Usecs.Args.Counts (start args : Usecs.Args) : Prop :=
  args.coalesceUsecs = start.coalesceUsecs ∧
    Coalesce.Counts start.coalesceUsecs args.finished args.nGroups (args.totalGroupsTime - start.totalGroupsTime)
      (args.squaredDevSum - start.squaredDevSum)

def Frames.Args.Counts (start args : Frames.Args) : Prop :=
  args.coalesceFrames = start.coalesceFrames ∧
    Coalesce.Counts start.coalesceFrames args.finished args.nGroups
      ((args.totalGroupSize : Int) - start.totalGroupSize) (args.squaredDevSum - start.squaredDevSum)

theorem Args.Ready.counts {args : Args} (ready : args.Ready ids) (target total : Int) :
    Counts target args.finished args.nGroups (total - total) (args.squaredDevSum - args.squaredDevSum) := by
  rw [ready.none, ready.groups, sub_self, sub_self]
  exact counts_nil target

/-- Three packets that are far apart, the second of them sent late. -/
def lateCapture : List CapturedPkt :=
  [(0, 1), (500, 2), (1000, 3)].map (fun (ts, id) => ⟨.ok ts, .ofBytes ((sendPayload .little id).bytes .little)⟩)

def lateArgs : Args := { Args.init 10 with delayedPktIds := [2] }

end NetDrv.Coalesce
