import Mathlib.Algebra.BigOperators.Group.List.Basic
import Mathlib.Algebra.Order.BigOperators.Group.List
import Mathlib.Data.BitVec
import Mathlib.Data.List.Induction
import Mathlib.Tactic.Ring
import NetDrv.Lib.Script
import NetDrv.Te

/-! `offload/receive_offload` captures the packets of a bulk transfer and computes which
share of the data came in packets larger than the MSS. With LRO in use the data of the
slow start is left out of the total, but large packets of the slow start are still
counted. -/

namespace NetDrv.ReceiveOffload
open Script

/-- `pkts_info`; an `unsigned long` has 64 bits. -/
structure PktsInfo where
  mss : BitVec 32
  slowStartPkts : BitVec 32
  pktsNum : BitVec 32
  firstBig : BitVec 32
  bigPktsNum : BitVec 32
  maxSize : BitVec 32
  pktsPld : BitVec 64
  slowStartPld : BitVec 64
  bigPktsPld : BitVec 64
  failed : Bool
  deriving DecidableEq, Repr

/-- `process_pkts()`, for what `tapi_tcp_get_hdrs_payload_len()` says of a packet. -/
def processPkts (info : PktsInfo) : Except TeErrno (BitVec 32) → PktsInfo
  | .error _ => { info with failed := true }
  | .ok pldLen =>
    let pktsNum := info.pktsNum + 1
    let info : PktsInfo := { info with
      pktsNum := pktsNum
      pktsPld := info.pktsPld + pldLen.setWidth 64
      slowStartPld :=
        if pktsNum < info.slowStartPkts then info.slowStartPld + pldLen.setWidth 64 else info.slowStartPld }
    if pldLen > info.mss then
      { info with
        bigPktsNum := info.bigPktsNum + 1
        firstBig := if info.firstBig = 0 then pktsNum else info.firstBig
        maxSize := if pldLen > info.maxSize then pldLen else info.maxSize
        bigPktsPld := info.bigPktsPld + pldLen.setWidth 64 }
    else info

/-- The parameters of the test that the check depends on. -/
structure Params where
  rxCsumOn : Bool
  lroOn : Bool
  groOn : Bool
  groHwOn : Bool
  /-- The value of `lro_slow_start_packets`, an `int`, or zero if the driver does not have it. -/
  lroSlowStartPkts : BitVec 32
  mss : BitVec 32
  deriving DecidableEq, Repr

/-- What the test says, and the two numbers whose quotient is `coalesced_share`. -/
structure Report where
  ringVerdicts : List String
  errorVerdicts : List String
  share : Option (BitVec 64 × BitVec 64)
  deriving DecidableEq, Repr

def maxSlowStartDiff : Int := 200

def Params.lroWorks (params : Params) : Bool := params.lroOn && params.rxCsumOn

def Params.stats (params : Params) : PktsInfo :=
  ⟨params.mss, if params.lroSlowStartPkts.toInt > 0 then params.lroSlowStartPkts else 0, 0, 0, 0, 0, 0, 0, 0, false⟩

def ringVerdict (text : String) : Script Jump Report Unit :=
  update (fun report => { report with ringVerdicts := report.ringVerdicts ++ [text] })

def errorVerdict (text : String) : Script Jump Report Unit :=
  update (fun report => { report with errorVerdicts := report.errorVerdicts ++ [text] })

def Params.leavesOut (params : Params) : Bool := params.lroWorks && decide (params.lroSlowStartPkts.toInt > 0)

def eligibleData (params : Params) (stats : PktsInfo) : Script Jump Report (BitVec 64) := do
  if params.leavesOut then
    when (stats.firstBig.toInt < params.lroSlowStartPkts.toInt - maxSlowStartDiff)
      (errorVerdict "The first large packet came earlier than lro_slow_start_packets parameter allows")
    pure (stats.pktsPld - stats.slowStartPld)
  else pure stats.pktsPld

/-- The check when packets may be coalesced; the share is compared with `MIN_COALESCED_SHARE`. -/
def checkShare (params : Params) (stats : PktsInfo) : Script Jump Report Unit := do
  when (stats.firstBig = 0)
    (fail (.verdict "No large packets were captured while LRO and/or GRO were enabled"))
  let eligibleData ← eligibleData params stats
  update (fun report => { report with share := some (stats.bigPktsPld, eligibleData) })
  when (stats.bigPktsPld.toNat * 100 < eligibleData.toNat * 15) (errorVerdict "Too few packets were coalesced")

def checkNoBig (params : Params) (stats : PktsInfo) : Script Jump Report Unit :=
  when (stats.firstBig > 0) (
    if params.lroOn && !params.rxCsumOn then
      ringVerdict "Some packets are coalesced when LRO is enabled even if Rx checksumming is turned off"
    else fail (.verdict "A large packet was captured while both LRO and GRO are disabled"))

def checkPackets (params : Params) (packets : List (Except TeErrno (BitVec 32))) : Script Jump Report Unit := do
  let stats := packets.foldl processPkts params.stats
  if stats.failed then fail (.verdict "Failed to process some of the packets")
  else when (stats.pktsNum = 0) (fail (.verdict "No packets were captured"))
  if !params.lroWorks && !params.groOn && !params.groHwOn then checkNoBig params stats
  else checkShare params stats

def report (params : Params) (packets : List (Except TeErrno (BitVec 32))) : Report :=
  (checkPackets params packets ⟨[], [], none⟩).2

def obtained (packets : List (Except TeErrno (BitVec 32))) : List (BitVec 32) := packets.filterMap Except.toOption

def pld (lens : List (BitVec 32)) : Nat := (lens.map BitVec.toNat).sum

def big (mss : BitVec 32) (lens : List (BitVec 32)) : List (BitVec 32) := lens.filter (fun len => mss < len)

/-- The number the callback gives to a packet, for its index. -/
def number (i : Nat) : BitVec 32 := .ofNat 32 (i + 1)

/-- The packets with a number below `slow`. -/
def slowStart (slow : BitVec 32) (lens : List (BitVec 32)) : List (BitVec 32) :=
  (lens.zipIdx.filter (fun packet => number packet.2 < slow)).map Prod.fst

def afterSlowStart (slow : BitVec 32) (lens : List (BitVec 32)) : List (BitVec 32) :=
  (lens.zipIdx.filter (fun packet => ¬number packet.2 < slow)).map Prod.fst

def eligible (params : Params) (lens : List (BitVec 32)) : List (BitVec 32) :=
  if params.leavesOut then afterSlowStart params.lroSlowStartPkts lens else lens

def leftOut (params : Params) (lens : List (BitVec 32)) : List (BitVec 32) :=
  if params.leavesOut then slowStart params.lroSlowStartPkts lens else []

/-- The share is computed: all lengths are obtained, coalescing is on, and a large packet was noticed. -/
structure Computes (params : Params) (packets : List (Except TeErrno (BitVec 32))) : Prop where
  readable : ∀ rc, .error rc ∉ packets
  captured : BitVec.ofNat 32 (obtained packets).length ≠ 0
  enabled : (params.lroWorks || params.groOn || params.groHwOn) = true
  large : ∃ packet ∈ (obtained packets).zipIdx, params.mss < packet.1 ∧ number packet.2 ≠ 0

/-- The share is a share: there is something to divide by, and what is divided is the data of the large ones
among the very packets that are in the total. -/
def ShareOk (params : Params) (packets : List (Except TeErrno (BitVec 32))) : Prop :=
  ∀ bigPktsPld eligibleData, (report params packets).share = some (bigPktsPld, eligibleData) →
    0 < eligibleData ∧ bigPktsPld ≤ eligibleData ∧
      eligibleData.toNat = pld (eligible params (obtained packets)) ∧
      bigPktsPld.toNat = pld (big params.mss (eligible params (obtained packets)))

section
variable {mss slow : BitVec 32} {lens : List (BitVec 32)} {info : PktsInfo}

@[simp] theorem pld_nil : pld [] = 0 := rfl

@[simp] theorem pld_cons (len : BitVec 32) (lens : List (BitVec 32)) : pld (len :: lens) = len.toNat + pld lens := by
  simp [pld]

@[simp] theorem pld_append (front back : List (BitVec 32)) : pld (front ++ back) = pld front + pld back := by
  simp [pld]

theorem pld_filter_add (large : BitVec 32 → Bool) (lens : List (BitVec 32)) :
    pld (lens.filter large) + pld (lens.filter (fun len => !large len)) = pld lens := by
  induction lens with
  | nil => rfl
  | cons len lens ih =>
    cases known : large len <;> simp [known] <;> omega

theorem pld_big_le (mss : BitVec 32) (lens : List (BitVec 32)) : pld (big mss lens) ≤ pld lens :=
  pld_filter_add (fun len => mss < len) lens ▸ Nat.le_add_right _ _

theorem le_pld {len : BitVec 32} (mem : len ∈ lens) : len.toNat ≤ pld lens :=
  List.le_sum_of_mem (List.mem_map_of_mem mem)

theorem pld_le (lens : List (BitVec 32)) : pld lens ≤ lens.length * 2 ^ 32 := by
  induction lens with
  | nil => exact Nat.zero_le _
  | cons len lens ih =>
    have small := len.isLt
    rw [pld_cons, List.length_cons]
    omega

theorem pld_lt (few : lens.length < 2 ^ 32) : pld lens < 2 ^ 64 := by
  have bound := pld_le lens
  omega

theorem zipIdx_snoc (lens : List (BitVec 32)) (len : BitVec 32) :
    (lens ++ [len]).zipIdx = lens.zipIdx ++ [(len, lens.length)] := by
  simp [List.zipIdx_append]

theorem slowStart_snoc (slow : BitVec 32) (lens : List (BitVec 32)) (len : BitVec 32) :
    slowStart slow (lens ++ [len]) =
      slowStart slow lens ++ if number lens.length < slow then [len] else [] := by
  unfold slowStart
  rw [zipIdx_snoc, List.filter_append, List.map_append]
  congr 1
  split
  next early =>
    simp only [List.filter_singleton, early, decide_true]
    rfl
  next late =>
    simp only [List.filter_singleton, late, decide_false]
    rfl

theorem afterSlowStart_snoc (slow : BitVec 32) (lens : List (BitVec 32)) (len : BitVec 32) :
    afterSlowStart slow (lens ++ [len]) =
      afterSlowStart slow lens ++ if number lens.length < slow then [] else [len] := by
  unfold afterSlowStart
  rw [zipIdx_snoc, List.filter_append, List.map_append]
  congr 1
  split
  next early =>
    simp only [List.filter_singleton, early, not_true, decide_false]
    rfl
  next late =>
    simp only [List.filter_singleton, late, not_false_eq_true, decide_true]
    rfl

theorem pld_big_append (mss : BitVec 32) (front back : List (BitVec 32)) :
    pld (big mss (front ++ back)) = pld (big mss front) + pld (big mss back) := by
  simp [big]

theorem pld_parts (slow : BitVec 32) (lens : List (BitVec 32)) :
    pld (slowStart slow lens) + pld (afterSlowStart slow lens) = pld lens := by
  induction lens using List.reverseRecOn with
  | nil => rfl
  | append_singleton lens len ih =>
    rw [slowStart_snoc, afterSlowStart_snoc]
    split <;> simp <;> omega

theorem pld_big_parts (mss slow : BitVec 32) (lens : List (BitVec 32)) :
    pld (big mss (slowStart slow lens)) + pld (big mss (afterSlowStart slow lens)) = pld (big mss lens) := by
  induction lens using List.reverseRecOn with
  | nil => rfl
  | append_singleton lens len ih =>
    rw [slowStart_snoc, afterSlowStart_snoc]
    split <;> simp only [pld_big_append, List.append_nil] <;> omega

theorem mem_slowStart {len : BitVec 32} :
    len ∈ slowStart slow lens ↔ ∃ i, lens[i]? = some len ∧ number i < slow := by
  simp only [slowStart, List.mem_map, List.mem_filter, decide_eq_true_eq]
  constructor
  · rintro ⟨⟨_, i⟩, ⟨mem, early⟩, rfl⟩
    exact ⟨i, List.mem_zipIdx_iff_getElem?.1 mem, early⟩
  · rintro ⟨i, here, early⟩
    exact ⟨(len, i), ⟨List.mem_zipIdx_iff_getElem?.2 here, early⟩, rfl⟩

structure Counted (mss slow : BitVec 32) (lens : List (BitVec 32)) (info : PktsInfo) : Prop where
  mss_eq : info.mss = mss
  slowStartPkts : info.slowStartPkts = slow
  pktsNum : info.pktsNum = .ofNat 32 lens.length
  pktsPld : info.pktsPld = .ofNat 64 (pld lens)
  slowStartPld : info.slowStartPld = .ofNat 64 (pld (slowStart slow lens))
  bigPktsPld : info.bigPktsPld = .ofNat 64 (pld (big mss lens))
  firstBig : info.firstBig = 0 ↔ ∀ packet ∈ lens.zipIdx, mss < packet.1 → number packet.2 = 0

theorem ofNat_add_setWidth (n : Nat) (len : BitVec 32) :
    BitVec.ofNat 64 n + len.setWidth 64 = .ofNat 64 (n + len.toNat) := by
  rw [BitVec.ofNat_add, BitVec.ofNat_toNat]

theorem Counted.process (counted : Counted mss slow lens info) (len : BitVec 32) :
    Counted mss slow (lens ++ [len]) (processPkts info (.ok len)) := by
  have num : info.pktsNum + 1 = number lens.length := by
    rw [counted.pktsNum, number, BitVec.ofNat_add]
    rfl
  have total : info.pktsPld + len.setWidth 64 = .ofNat 64 (pld (lens ++ [len])) := by
    rw [counted.pktsPld, ofNat_add_setWidth]
    simp
  have early : (if number lens.length < info.slowStartPkts then info.slowStartPld + len.setWidth 64
      else info.slowStartPld) = .ofNat 64 (pld (slowStart slow (lens ++ [len]))) := by
    rw [counted.slowStartPkts, counted.slowStartPld, slowStart_snoc]
    split
    · rw [ofNat_add_setWidth]
      simp
    · simp
  have first := counted.firstBig
  have length : (lens ++ [len]).length = lens.length + 1 := List.length_append
  unfold processPkts
  simp only [counted.mss_eq, num]
  by_cases large : len > mss
  · rw [if_pos large]
    refine ⟨rfl, counted.slowStartPkts, by rw [length]; rfl, total, early, ?_, ?_⟩
    · show info.bigPktsPld + len.setWidth 64 = _
      rw [counted.bigPktsPld, ofNat_add_setWidth, pld_big_append]
      simp [big, large]
    · show (if info.firstBig = 0 then number lens.length else info.firstBig) = 0 ↔ _
      simp only [zipIdx_snoc, List.mem_append, List.mem_singleton, or_imp, forall_and, forall_eq]
      rw [← first]
      have bigger : mss < len := large
      split
      next none => simp only [none, bigger, true_and, true_imp_iff]
      next found => simp only [found, false_and]
  · rw [if_neg large]
    refine ⟨rfl, counted.slowStartPkts, by rw [length]; rfl, total, early, ?_, ?_⟩
    · show info.bigPktsPld = _
      rw [counted.bigPktsPld, pld_big_append]
      simp [big, large]
    · show info.firstBig = 0 ↔ _
      simp only [zipIdx_snoc, List.mem_append, List.mem_singleton, or_imp, forall_and, forall_eq]
      have smaller : ¬mss < len := large
      rw [← first]
      simp only [smaller, false_imp_iff, and_true]

end

section
variable {params : Params} {packets : List (Except TeErrno (BitVec 32))}

theorem processPkts_failed (info : PktsInfo) (packet : Except TeErrno (BitVec 32)) :
    (processPkts info packet).failed = true ↔ info.failed = true ∨ ∃ rc, packet = .error rc := by
  cases packet with
  | error rc => simp [processPkts]
  | ok len =>
    unfold processPkts
    simp only
    split <;> simp

theorem failed_foldl (info : PktsInfo) :
    (packets.foldl processPkts info).failed = true ↔ info.failed = true ∨ ∃ rc, .error rc ∈ packets := by
  induction packets generalizing info with
  | nil => simp
  | cons packet packets ih =>
    rw [List.foldl_cons, ih, processPkts_failed]
    simp only [List.mem_cons, exists_or, or_assoc, eq_comm]

theorem counted_foldl (params : Params) (packets : List (Except TeErrno (BitVec 32))) :
    Counted params.mss params.stats.slowStartPkts (obtained packets) (packets.foldl processPkts params.stats) := by
  induction packets using List.reverseRecOn with
  | nil => exact ⟨rfl, rfl, rfl, rfl, rfl, rfl, by simp [Params.stats, obtained]⟩
  | append_singleton packets packet ih =>
    rw [List.foldl_append, obtained, List.filterMap_append]
    cases packet with
    | error rc =>
      have same : packets.filterMap Except.toOption ++ [Except.error rc].filterMap Except.toOption =
          obtained packets := List.append_nil _
      rw [same]
      exact ⟨ih.mss_eq, ih.slowStartPkts, ih.pktsNum, ih.pktsPld, ih.slowStartPld, ih.bigPktsPld, ih.firstBig⟩
    | ok len => exact ih.process len

theorem stats_slowStartPkts (out : params.leavesOut = true) :
    params.stats.slowStartPkts = params.lroSlowStartPkts := by
  simp only [Params.leavesOut, Bool.and_eq_true, decide_eq_true_eq] at out
  exact if_pos out.2

theorem pld_leftOut_add (params : Params) (lens : List (BitVec 32)) :
    pld (leftOut params lens) + pld (eligible params lens) = pld lens := by
  unfold leftOut eligible
  split
  · exact pld_parts _ lens
  · simp

theorem pld_big_leftOut_add (params : Params) (lens : List (BitVec 32)) :
    pld (big params.mss (leftOut params lens)) + pld (big params.mss (eligible params lens)) =
      pld (big params.mss lens) := by
  unfold leftOut eligible
  split
  · exact pld_big_parts _ _ lens
  · simp [big]

theorem eligibleData_run {lens : List (BitVec 32)} {stats : PktsInfo}
    (counted : Counted params.mss params.stats.slowStartPkts lens stats) (start : Report) :
    ∃ errorVerdicts, eligibleData params stats start =
      (.ok (.ofNat 64 (pld (eligible params lens))), { start with errorVerdicts := errorVerdicts }) := by
  unfold eligibleData
  by_cases out : params.leavesOut = true
  · have left : stats.pktsPld - stats.slowStartPld = .ofNat 64 (pld (eligible params lens)) := by
      rw [counted.pktsPld, counted.slowStartPld, stats_slowStartPkts out, eligible, if_pos out,
        ← pld_parts params.lroSlowStartPkts lens, BitVec.ofNat_add, add_sub_cancel_left]
    rw [if_pos out, left]
    unfold when
    split
    · exact ⟨_, rfl⟩
    · exact ⟨_, rfl⟩
  · rw [if_neg out, counted.pktsPld, eligible, if_neg out]
    exact ⟨_, rfl⟩

def Reports (params : Params) (packets : List (Except TeErrno (BitVec 32))) (report : Report) : Prop :=
  (Computes params packets → report.share =
    some (.ofNat 64 (pld (big params.mss (obtained packets))), .ofNat 64 (pld (eligible params (obtained packets))))) ∧
    (¬Computes params packets → report.share = none)

theorem Reports.nothing {report : Report} (none : report.share = none) (not : ¬Computes params packets) :
    Reports params packets report :=
  ⟨fun computes => absurd computes not, fun _ => none⟩

theorem checkNoBig_wp {stats : PktsInfo} {start : Report} (fresh : start.share = none)
    (not : ¬Computes params packets) :
    (checkNoBig params stats).wp (fun _ => Reports params packets) (fun _ => Reports params packets) start := by
  have same : ∀ report : Report, report.share = none → Reports params packets report :=
    fun report none => Reports.nothing none not
  unfold checkNoBig
  apply wp_when
  · intro _
    split
    · exact same _ fresh
    · exact same _ fresh
  · intro _
    exact same _ fresh

theorem checkShare_wp {stats : PktsInfo} {start : Report}
    (counted : Counted params.mss params.stats.slowStartPkts (obtained packets) stats) (fresh : start.share = none)
    (noticed : ¬stats.firstBig = 0 ↔ Computes params packets) :
    (checkShare params stats).wp (fun _ => Reports params packets) (fun _ => Reports params packets) start := by
  rw [checkShare, wp_bind]
  apply wp_when
  · intro none
    apply Reports.nothing fresh
    rw [← noticed]
    simpa using none
  · intro found
    have computes : Computes params packets := noticed.1 (by simpa using found)
    obtain ⟨errorVerdicts, run⟩ := eligibleData_run counted start
    have share : ∀ report : Report, report.share = some (stats.bigPktsPld,
        .ofNat 64 (pld (eligible params (obtained packets)))) → Reports params packets report :=
      fun report same => ⟨fun _ => by rw [same, counted.bigPktsPld], fun not => absurd computes not⟩
    rw [wp, bind_ok run, ← wp, wp_bind, wp_update]
    apply wp_when
    · intro _
      exact share _ rfl
    · intro _
      exact share _ rfl

theorem report_counted (params : Params) (packets : List (Except TeErrno (BitVec 32))) :
    Reports params packets (report params packets) := by
  have counted := counted_foldl params packets
  have failed : (packets.foldl processPkts params.stats).failed = true ↔ _ := failed_foldl params.stats
  have spec : (checkPackets params packets).wp (fun _ => Reports params packets) (fun _ => Reports params packets)
      ⟨[], [], none⟩ := by
    unfold checkPackets
    by_cases bad : (packets.foldl processPkts params.stats).failed = true
    · obtain ⟨rc, mem⟩ : ∃ rc, .error rc ∈ packets := (failed.1 bad).resolve_left (by simp [Params.stats])
      simp only [bad, if_true]
      exact Reports.nothing rfl (fun computes => computes.readable rc mem)
    · have readable : ∀ rc, .error rc ∉ packets := fun rc mem => bad (failed.2 (.inr ⟨rc, mem⟩))
      simp only [bad, if_false, counted.pktsNum, Bool.false_eq_true]
      rw [wp_bind]
      apply wp_when
      · intro empty
        exact Reports.nothing rfl (fun computes => computes.captured (of_decide_eq_true empty))
      · intro some
        have captured := of_decide_eq_false some
        split
        next disabled =>
          apply checkNoBig_wp rfl
          intro computes
          have enabled := computes.enabled
          grind
        next enabled =>
          apply checkShare_wp counted rfl
          rw [counted.firstBig]
          constructor
          · intro noticed
            simp only [not_forall, exists_prop] at noticed
            exact ⟨readable, captured, by grind, noticed⟩
          · intro computes small
            obtain ⟨packet, mem, large, nonzero⟩ := computes.large
            exact nonzero (small packet mem large)
  exact wp_final (Reports params packets) spec (fun _ _ post => post) (fun _ _ post => post)

theorem toNat_ofNat_eq_iff (n : Nat) : (BitVec.ofNat 64 n).toNat = n ↔ n < 2 ^ 64 := by
  rw [BitVec.toNat_ofNat]
  constructor
  · intro same
    exact same ▸ Nat.mod_lt n (by decide)
  · exact Nat.mod_eq_of_lt

theorem shareOk_iff (params : Params) (packets : List (Except TeErrno (BitVec 32))) :
    ShareOk params packets ↔ (Computes params packets →
      2 ^ 64 ∣ pld (big params.mss (leftOut params (obtained packets))) ∧
        0 < pld (eligible params (obtained packets)) ∧ pld (eligible params (obtained packets)) < 2 ^ 64) := by
  obtain ⟨computed, nothing⟩ := report_counted params packets
  by_cases computes : Computes params packets
  · have parts := pld_big_leftOut_add params (obtained packets)
    have less := pld_big_le params.mss (eligible params (obtained packets))
    simp only [ShareOk, computed computes, Option.some.injEq, Prod.mk.injEq, computes, true_imp_iff]
    constructor
    · intro ok
      obtain ⟨positive, -, total, large⟩ := ok _ _ ⟨rfl, rfl⟩
      have small := (toNat_ofNat_eq_iff _).1 total
      rw [BitVec.lt_def, total] at positive
      rw [BitVec.toNat_ofNat] at large
      refine ⟨?_, positive, small⟩
      omega
    · rintro ⟨whole, positive, small⟩ _ _ ⟨rfl, rfl⟩
      have total := (toNat_ofNat_eq_iff _).2 small
      have large : (BitVec.ofNat 64 (pld (big params.mss (obtained packets)))).toNat =
          pld (big params.mss (eligible params (obtained packets))) := by
        rw [BitVec.toNat_ofNat]
        omega
      refine ⟨?_, ?_, total, large⟩
      · rwa [BitVec.lt_def, total]
      · rwa [BitVec.le_def, total, large]
  · simp [ShareOk, nothing computes, computes]

theorem length_obtained_le (packets : List (Except TeErrno (BitVec 32))) :
    (obtained packets).length ≤ packets.length :=
  List.length_filterMap_le _ _

theorem number_toNat {i : Nat} (few : i + 1 < 2 ^ 32) : (number i).toNat = i + 1 := by
  rw [number, BitVec.toNat_ofNat, Nat.mod_eq_of_lt few]

theorem big_eq_nil_iff {mss : BitVec 32} {lens : List (BitVec 32)} :
    pld (big mss lens) = 0 ↔ ∀ len ∈ lens, len ≤ mss := by
  constructor
  · intro zero len mem
    by_contra large
    have found : len ∈ big mss lens := List.mem_filter.2 ⟨mem, by simpa using large⟩
    have bound := le_pld found
    rw [BitVec.not_le, BitVec.lt_def] at large
    omega
  · intro small
    have none : big mss lens = [] := List.filter_eq_nil_iff.2 (fun len mem => by simpa using small len mem)
    rw [none, pld_nil]

theorem computes_of_large (few : packets.length < 2 ^ 32) (readable : ∀ rc, .error rc ∉ packets)
    (enabled : (params.lroWorks || params.groOn || params.groHwOn) = true) {len : BitVec 32} {i : Nat}
    (here : (obtained packets)[i]? = some len) (large : params.mss < len) : Computes params packets := by
  have short := length_obtained_le packets
  obtain ⟨inside, -⟩ := List.getElem?_eq_some_iff.1 here
  have value := number_toNat (i := i) (by omega)
  refine ⟨readable, ?_, enabled, (len, i), List.mem_zipIdx_iff_getElem?.2 here, large, ?_⟩
  · intro zero
    have same := congrArg BitVec.toNat zero
    rw [BitVec.toNat_ofNat, Nat.mod_eq_of_lt (by omega)] at same
    rw [same] at inside
    exact absurd inside (Nat.not_lt_zero i)
  · intro zero
    rw [zero] at value
    exact absurd value (by simp)

theorem shareOk_iff_of_few (few : packets.length < 2 ^ 32) :
    ShareOk params packets ↔
      ((∀ rc, .error rc ∉ packets) → params.lroWorks = true → 0 < params.lroSlowStartPkts.toInt →
        ∀ i len, (obtained packets)[i]? = some len → i + 1 < params.lroSlowStartPkts.toNat → len ≤ params.mss) := by
  have short := length_obtained_le packets
  have parts := pld_leftOut_add params (obtained packets)
  have total : pld (obtained packets) < 2 ^ 64 := pld_lt (by omega)
  rw [shareOk_iff]
  constructor
  · intro whole readable works slow i len here early
    have out : params.leavesOut = true := by simp [Params.leavesOut, works, slow]
    obtain ⟨inside, -⟩ := List.getElem?_eq_some_iff.1 here
    have value := number_toNat (i := i) (by omega)
    have left : len ∈ leftOut params (obtained packets) := by
      rw [leftOut, if_pos out, mem_slowStart]
      exact ⟨i, here, by rwa [BitVec.lt_def, value]⟩
    by_contra large
    have computes := computes_of_large few readable (by simp [works]) here (BitVec.not_le.1 large)
    have less := pld_big_le params.mss (leftOut params (obtained packets))
    have zero := Nat.eq_zero_of_dvd_of_lt (whole computes).1 (by omega)
    exact large (big_eq_nil_iff.1 zero len left)
  · intro small computes
    have none : pld (big params.mss (leftOut params (obtained packets))) = 0 := by
      rw [big_eq_nil_iff, leftOut]
      split
      next out =>
        simp only [Params.leavesOut, Bool.and_eq_true, decide_eq_true_eq] at out
        intro len mem
        obtain ⟨i, here, early⟩ := mem_slowStart.1 mem
        obtain ⟨inside, -⟩ := List.getElem?_eq_some_iff.1 here
        rw [BitVec.lt_def, number_toNat (by omega)] at early
        exact small computes.readable out.1 out.2 i len here early
      next => simp
    have positive : 0 < pld (big params.mss (obtained packets)) := by
      obtain ⟨packet, mem, large, -⟩ := computes.large
      apply Nat.pos_of_ne_zero
      intro zero
      have le := big_eq_nil_iff.1 zero packet.1 (List.fst_mem_of_mem_zipIdx mem)
      exact absurd large (BitVec.not_lt.2 le)
    have rest := pld_big_leftOut_add params (obtained packets)
    have less := pld_big_le params.mss (eligible params (obtained packets))
    exact ⟨by simp [none], by omega, by omega⟩

end

/-- Large packets of the slow start are counted in what is divided only: the share is one exactly if these carry
nothing, as far as the counters can tell. -/
theorem share_ok_iff (params : Params) (packets : List (Except TeErrno (BitVec 32))) :
    (ShareOk params packets ↔ (Computes params packets →
      2 ^ 64 ∣ pld (big params.mss (leftOut params (obtained packets))) ∧
        0 < pld (eligible params (obtained packets)) ∧ pld (eligible params (obtained packets)) < 2 ^ 64)) ∧
    (packets.length < 2 ^ 32 → (ShareOk params packets ↔
      ((∀ rc, .error rc ∉ packets) → params.lroWorks = true → 0 < params.lroSlowStartPkts.toInt →
        ∀ i len, (obtained packets)[i]? = some len → i + 1 < params.lroSlowStartPkts.toNat → len ≤ params.mss))) :=
  ⟨shareOk_iff params packets, shareOk_iff_of_few⟩

def lroAfterTwo : Params := ⟨true, true, false, false, 2, 1460⟩

/-- A large packet after the slow start. -/
theorem share_ok_late_packet :
    ShareOk lroAfterTwo [.ok 1460, .ok 2920] ∧
      (report lroAfterTwo [.ok 1460, .ok 2920]).share = some (2920, 2920) := by
  refine ⟨((share_ok_iff lroAfterTwo [.ok 1460, .ok 2920]).2 (by decide)).2 ?_, by decide⟩
  intro _ _ _ i len here early
  have first : i = 0 := by
    have bound : i + 1 < 2 := early
    omega
  subst first
  obtain rfl : (1460 : BitVec 32) = len := Option.some.inj here
  exact BitVec.le_refl _

/-- A large first packet makes a share of two, on its own a division by zero, and with more data behind it a
share that is not one of the packets in the total. -/
theorem share_large_first_packet :
    (report lroAfterTwo [.ok 2920, .ok 1460]).share = some (2920, 1460) ∧
    (report lroAfterTwo [.ok 2920]).share = some (2920, 0) ∧
    (report lroAfterTwo [.ok 2920, .ok 1460, .ok 1460]).share = some (2920, 2920) ∧
    pld (big 1460 (eligible lroAfterTwo [2920, 1460, 1460])) = 0 ∧
    ¬ShareOk lroAfterTwo [.ok 2920, .ok 1460] := by
  have share : (report lroAfterTwo [.ok 2920, .ok 1460]).share = some (2920, 1460) := by decide
  refine ⟨share, by decide, by decide, by decide, ?_⟩
  intro holds
  exact absurd (holds 2920 1460 share).2.1 (by decide)

end NetDrv.ReceiveOffload
