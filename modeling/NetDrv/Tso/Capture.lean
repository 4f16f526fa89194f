import NetDrv.Lib.Serial
import NetDrv.Te

/-! The callback of the TSO test over captured TCP packets, and the summary it
leaves. The origin of the counted bytes moves when an earlier segment arrives late;
in a window of sequence numbers the summary is that of the whole capture, whatever
its order, as long as the 32-bit counter of packets does not come round to one again. -/

namespace NetDrv.Tso
open Serial

structure TcpSegInfo where
  seqn : BitVec 32
  len : BitVec 32
  deriving DecidableEq, Repr

structure PktsInfo where
  mss : BitVec 32
  pktsNum : BitVec 32
  firstSeqn : BitVec 32
  lastSeqn : BitVec 32
  totalLen : BitVec 32
  largePktsDetected : Bool
  failed : Bool
  segs : List TcpSegInfo
  deriving DecidableEq, Repr

structure CapturedPkt where
  seqn : Except TeErrno (BitVec 32)
  pldLen : Except TeErrno (BitVec 32)

def TcpSegInfo.pkt (seg : TcpSegInfo) : CapturedPkt := ⟨.ok seg.seqn, .ok seg.len⟩

/-- How `process_pkts()` starts on `pkts_info`. -/
def PktsInfo.start (mss : BitVec 32) : PktsInfo := ⟨mss, 0, 0, 0, 0, false, false, []⟩

section
variable (cmp : Compare 32)

/-- The sequence numbers and the length after the first packet. -/
def PktsInfo.first (info : PktsInfo) (seg : TcpSegInfo) : PktsInfo :=
  { info with firstSeqn := seg.seqn, lastSeqn := seg.seqn, totalLen := seg.len }

def PktsInfo.extend (info : PktsInfo) (seg : TcpSegInfo) : PktsInfo :=
  let lastSeqn := if cmp.compare seg.seqn info.lastSeqn > 0 then seg.seqn else info.lastSeqn
  let earlier := cmp.compare seg.seqn info.firstSeqn < 0
  let moved := if earlier then info.totalLen + (info.firstSeqn - seg.seqn) else info.totalLen
  let firstSeqn := if earlier then seg.seqn else info.firstSeqn
  let totalLen := (seg.seqn - firstSeqn) + seg.len
  { info with
    firstSeqn := firstSeqn
    lastSeqn := lastSeqn
    totalLen := if totalLen > moved then totalLen else moved }

def processPkts (info : PktsInfo) (pkt : CapturedPkt) : PktsInfo :=
  let info : PktsInfo := { info with pktsNum := info.pktsNum + 1 }
  match pkt.seqn, pkt.pldLen with
  | .error _, _ => { info with failed := true }
  | .ok _, .error _ => { info with failed := true }
  | .ok seqn, .ok pldLen =>
    let seg : TcpSegInfo := ⟨seqn, pldLen⟩
    let info := if info.pktsNum = 1 then info.first seg else info.extend cmp seg
    { info with
      segs := info.segs ++ [seg]
      largePktsDetected := info.largePktsDetected || decide (pldLen > info.mss) }

/-- `tapi_tad_trrecv_get()`: the callback is called on the packets in the order of their capture. -/
def trrecvGet (info : PktsInfo) (pkts : List CapturedPkt) : PktsInfo := pkts.foldl (processPkts cmp) info

def summary (mss : BitVec 32) (segs : List TcpSegInfo) : PktsInfo :=
  trrecvGet cmp (.start mss) (segs.map TcpSegInfo.pkt)

end

/-- The segment, with its end, lies in a window of `size` bytes from `base` on. -/
def TcpSegInfo.Within (base : BitVec 32) (size : Nat) (seg : TcpSegInfo) : Prop :=
  ahead base seg.seqn + seg.len.toNat ≤ size

/-- What the callback maintains over the segments it has seen. -/
structure Summarizes (base : BitVec 32) (segs : List TcpSegInfo) (info : PktsInfo) : Prop where
  count : info.pktsNum = .ofNat 32 segs.length
  earliest : IsEarliest base (segs.map TcpSegInfo.seqn) info.firstSeqn
  latest : IsLatest base (segs.map TcpSegInfo.seqn) info.lastSeqn
  covers : ∀ seg ∈ segs, ahead base seg.seqn + seg.len.toNat ≤ ahead base info.firstSeqn + info.totalLen.toNat
  reached : ∃ seg ∈ segs, ahead base seg.seqn + seg.len.toNat = ahead base info.firstSeqn + info.totalLen.toNat
  readable : info.failed = false

variable {cmp : Compare 32} {base : BitVec 32} {size : Nat} {segs : List TcpSegInfo} {seg : TcpSegInfo}
  {info : PktsInfo}

theorem processPkts_pkt (info : PktsInfo) (seg : TcpSegInfo) :
    processPkts cmp info seg.pkt =
      let next := if info.pktsNum = 0 then info.first seg else info.extend cmp seg
      { next with
        pktsNum := info.pktsNum + 1
        segs := info.segs ++ [seg]
        largePktsDetected := info.largePktsDetected || decide (seg.len > info.mss) } := by
  by_cases first : info.pktsNum = 0#32
  · simp [processPkts, TcpSegInfo.pkt, first, PktsInfo.first]
  · simp [processPkts, TcpSegInfo.pkt, first, PktsInfo.extend]

@[simp] theorem processPkts_mss (info : PktsInfo) (pkt : CapturedPkt) : (processPkts cmp info pkt).mss = info.mss := by
  unfold processPkts
  split
  · rfl
  · rfl
  · simp only
    split <;> rfl

section Extend
variable (window : 2 * size < 2 ^ 32) (within : seg.Within base size)
include window within

theorem extend_firstSeqn (start : ahead base info.firstSeqn ≤ size) :
    (info.extend cmp seg).firstSeqn =
      if ahead base seg.seqn < ahead base info.firstSeqn then seg.seqn else info.firstSeqn := by
  have seqn : ahead base seg.seqn ≤ size := Nat.le_trans (Nat.le_add_right _ _) within
  simp only [PktsInfo.extend, cmp.neg_iff window seqn start]

theorem extend_lastSeqn (last : ahead base info.lastSeqn ≤ size) :
    (info.extend cmp seg).lastSeqn =
      if ahead base info.lastSeqn < ahead base seg.seqn then seg.seqn else info.lastSeqn := by
  have seqn : ahead base seg.seqn ≤ size := Nat.le_trans (Nat.le_add_right _ _) within
  simp only [PktsInfo.extend, gt_iff_lt, cmp.pos_iff window seqn last]

theorem extend_end (whole : ahead base info.firstSeqn + info.totalLen.toNat ≤ size) :
    ahead base (info.extend cmp seg).firstSeqn + (info.extend cmp seg).totalLen.toNat =
      max (ahead base info.firstSeqn + info.totalLen.toNat) (ahead base seg.seqn + seg.len.toNat) := by
  have start : ahead base info.firstSeqn ≤ size := Nat.le_trans (Nat.le_add_right _ _) whole
  have seqn : ahead base seg.seqn ≤ size := Nat.le_trans (Nat.le_add_right _ _) within
  unfold TcpSegInfo.Within at within
  by_cases earlier : ahead base seg.seqn < ahead base info.firstSeqn
  · have back : (info.firstSeqn - seg.seqn).toNat = ahead base info.firstSeqn - ahead base seg.seqn :=
      ahead_of_le (Nat.le_of_lt earlier)
    have moved : (info.totalLen + (info.firstSeqn - seg.seqn)).toNat =
        info.totalLen.toNat + (ahead base info.firstSeqn - ahead base seg.seqn) := by
      rw [BitVec.toNat_add, back]
      omega
    have total : (seg.seqn - seg.seqn + seg.len).toNat = seg.len.toNat := by simp
    simp only [PktsInfo.extend, cmp.neg_iff window seqn start, earlier, if_true, gt_iff_lt, BitVec.lt_def,
      apply_ite BitVec.toNat, moved, total]
    split <;> omega
  · have distance : (seg.seqn - info.firstSeqn).toNat = ahead base seg.seqn - ahead base info.firstSeqn :=
      ahead_of_le (Nat.le_of_not_lt earlier)
    have total : (seg.seqn - info.firstSeqn + seg.len).toNat =
        ahead base seg.seqn - ahead base info.firstSeqn + seg.len.toNat := by
      rw [BitVec.toNat_add, distance]
      omega
    simp only [PktsInfo.extend, cmp.neg_iff window seqn start, earlier, if_false, gt_iff_lt, BitVec.lt_def,
      apply_ite BitVec.toNat, total]
    split <;> omega

end Extend

theorem ofNat_length_ne_zero (some : segs ≠ []) (few : segs.length < 2 ^ 32) :
    (BitVec.ofNat 32 segs.length) ≠ 0 := by
  intro zero
  have value : (BitVec.ofNat 32 segs.length).toNat = segs.length := by
    rw [BitVec.toNat_ofNat, Nat.mod_eq_of_lt few]
  rw [zero] at value
  exact some (List.length_eq_zero_iff.mp value.symm)

theorem summarizes_first (seg : TcpSegInfo) (mss : BitVec 32) :
    Summarizes base [seg] (processPkts cmp (.start mss) seg.pkt) := by
  rw [processPkts_pkt]
  exact {
    count := rfl
    earliest := isEarliest_singleton base seg.seqn
    latest := isLatest_singleton base seg.seqn
    covers := by simp [PktsInfo.start, PktsInfo.first]
    reached := by simp [PktsInfo.start, PktsInfo.first]
    readable := rfl }

theorem Summarizes.snoc (few : segs.length < 2 ^ 32) (window : 2 * size < 2 ^ 32) (within : ∀ seg ∈ segs, seg.Within base size)
    (here : seg.Within base size) (summarizes : Summarizes base segs info) :
    Summarizes base (segs ++ [seg]) (processPkts cmp info seg.pkt) := by
  obtain ⟨furthest, member, reached⟩ := summarizes.reached
  have whole : ahead base info.firstSeqn + info.totalLen.toNat ≤ size := reached ▸ within furthest member
  have start : ahead base info.firstSeqn ≤ size := Nat.le_trans (Nat.le_add_right _ _) whole
  have last : ahead base info.lastSeqn ≤ size := by
    obtain ⟨other, present, same⟩ := List.mem_map.mp summarizes.latest.1
    exact same ▸ Nat.le_trans (Nat.le_add_right _ _) (within other present)
  have later : info.pktsNum ≠ 0 := by
    rw [summarizes.count]
    exact ofNat_length_ne_zero (List.ne_nil_of_mem member) few
  have ends : ahead base (info.extend cmp seg).firstSeqn + (info.extend cmp seg).totalLen.toNat =
      max (ahead base info.firstSeqn + info.totalLen.toNat) (ahead base seg.seqn + seg.len.toNat) :=
    extend_end window here whole
  rw [processPkts_pkt, if_neg later]
  exact {
    count := by simp [summarizes.count, BitVec.ofNat_add]
    earliest := by
      rw [List.map_append, List.map_singleton]
      simpa only [extend_firstSeqn window here start] using summarizes.earliest.snoc seg.seqn
    latest := by
      rw [List.map_append, List.map_singleton]
      simpa only [extend_lastSeqn window here last] using summarizes.latest.snoc seg.seqn
    covers := by
      intro other present
      simp only [ends]
      rcases List.mem_append.mp present with old | new
      · exact Nat.le_trans (summarizes.covers other old) (Nat.le_max_left _ _)
      · rw [List.mem_singleton.mp new]
        exact Nat.le_max_right _ _
    reached := by
      simp only [ends]
      rcases Nat.le_total (ahead base seg.seqn + seg.len.toNat)
        (ahead base info.firstSeqn + info.totalLen.toNat) with short | long
      · exact ⟨furthest, List.mem_append_left _ member, by rw [Nat.max_eq_left short, reached]⟩
      · exact ⟨seg, by simp, by rw [Nat.max_eq_right long]⟩
    readable := summarizes.readable }

theorem summary_snoc (mss : BitVec 32) (segs : List TcpSegInfo) (seg : TcpSegInfo) :
    summary cmp mss (segs ++ [seg]) = processPkts cmp (summary cmp mss segs) seg.pkt := by
  simp [summary, trrecvGet]

theorem summary_mss (mss : BitVec 32) (segs : List TcpSegInfo) : (summary cmp mss segs).mss = mss := by
  induction segs using List.reverseRecOn with
  | nil => rfl
  | append_singleton segs seg ih => rw [summary_snoc, processPkts_mss, ih]

theorem summary_segs (mss : BitVec 32) (segs : List TcpSegInfo) : (summary cmp mss segs).segs = segs := by
  induction segs using List.reverseRecOn with
  | nil => rfl
  | append_singleton segs seg ih => simp [summary_snoc, processPkts_pkt, ih]

theorem summary_large (mss : BitVec 32) (segs : List TcpSegInfo) :
    (summary cmp mss segs).largePktsDetected = true ↔ ∃ seg ∈ segs, mss < seg.len := by
  induction segs using List.reverseRecOn with
  | nil => simp [summary, trrecvGet, PktsInfo.start]
  | append_singleton segs seg ih =>
    simp [summary_snoc, processPkts_pkt, summary_mss, ih, or_and_right, exists_or]

theorem summary_pktsNum (mss : BitVec 32) (segs : List TcpSegInfo) :
    (summary cmp mss segs).pktsNum = .ofNat 32 segs.length := by
  induction segs using List.reverseRecOn with
  | nil => rfl
  | append_singleton segs seg ih => simp [summary_snoc, processPkts_pkt, ih, BitVec.ofNat_add]

theorem summary_restarts (mss : BitVec 32) (segs : List TcpSegInfo) (seg : TcpSegInfo) (round : segs.length = 2 ^ 32) :
    (summary cmp mss (segs ++ [seg])).firstSeqn = seg.seqn ∧ (summary cmp mss (segs ++ [seg])).totalLen = seg.len := by
  have zero : (summary cmp mss segs).pktsNum = 0 := by
    rw [summary_pktsNum, round]
    rfl
  rw [summary_snoc, processPkts_pkt, if_pos zero]
  exact ⟨rfl, rfl⟩

theorem summarizes_summary (mss : BitVec 32) (few : segs.length ≤ 2 ^ 32) (window : 2 * size < 2 ^ 32)
    (captured : segs ≠ []) (within : ∀ seg ∈ segs, seg.Within base size) : Summarizes base segs (summary cmp mss segs) := by
  induction segs using List.reverseRecOn with
  | nil => exact absurd rfl captured
  | append_singleton segs seg ih =>
    have before : ∀ other ∈ segs, other.Within base size :=
      fun other member => within other (List.mem_append_left _ member)
    have fewer : segs.length < 2 ^ 32 := by
      rw [List.length_append, List.length_singleton] at few
      omega
    rw [summary_snoc]
    rcases List.eq_nil_or_concat segs with rfl | ⟨_, _, rfl⟩
    · exact summarizes_first seg mss
    · exact (ih (Nat.le_of_lt fewer) (by simp) before).snoc fewer window before (within seg (by simp))

theorem Summarizes.total (summarizes : Summarizes base segs info) :
    (∀ seg ∈ segs, ahead info.firstSeqn seg.seqn + seg.len.toNat ≤ info.totalLen.toNat) ∧
      ∃ seg ∈ segs, ahead info.firstSeqn seg.seqn + seg.len.toNat = info.totalLen.toNat := by
  have distance : ∀ seg ∈ segs, ahead base seg.seqn = ahead base info.firstSeqn + ahead info.firstSeqn seg.seqn := by
    intro seg member
    have order := summarizes.earliest.2 seg.seqn (List.mem_map_of_mem member)
    have shift := ahead_of_le order
    omega
  constructor
  · intro seg member
    have covered := summarizes.covers seg member
    rw [distance seg member] at covered
    omega
  · obtain ⟨seg, member, reached⟩ := summarizes.reached
    rw [distance seg member] at reached
    exact ⟨seg, member, by omega⟩

theorem Summarizes.agree {arrival : List TcpSegInfo} {other : PktsInfo} (summarizes : Summarizes base segs info)
    (seen : Summarizes base arrival other) (order : arrival.Perm segs) :
    other.firstSeqn = info.firstSeqn ∧ other.lastSeqn = info.lastSeqn ∧ other.totalLen = info.totalLen := by
  have first : other.firstSeqn = info.firstSeqn :=
    (seen.earliest.perm (order.map TcpSegInfo.seqn)).unique summarizes.earliest
  have last : other.lastSeqn = info.lastSeqn :=
    (seen.latest.perm (order.map TcpSegInfo.seqn)).unique summarizes.latest
  refine ⟨first, last, ?_⟩
  obtain ⟨covers, seg, member, reached⟩ := summarizes.total
  obtain ⟨covers', seg', member', reached'⟩ := seen.total
  have upper := covers seg' (order.mem_iff.mp member')
  have lower := covers' seg (order.mem_iff.mpr member)
  rw [first] at reached' lower
  apply BitVec.eq_of_toNat_eq
  omega

/-- The summary of a capture of up to `2^32` packets is right in every order of them, and the same in all. -/
theorem process_pkts_order_independent (cmp : Compare 32) (mss base : BitVec 32) (size : Nat)
    (segs arrival : List TcpSegInfo) (few : segs.length ≤ 2 ^ 32) (window : size < 2 ^ 31) (captured : segs ≠ [])
    (within : ∀ seg ∈ segs, seg.Within base size) (order : arrival.Perm segs) :
    let info := summary cmp mss arrival
    IsEarliest base (segs.map TcpSegInfo.seqn) info.firstSeqn ∧
    IsLatest base (segs.map TcpSegInfo.seqn) info.lastSeqn ∧
    (∀ seg ∈ segs, ahead info.firstSeqn seg.seqn + seg.len.toNat ≤ info.totalLen.toNat) ∧
    (∃ seg ∈ segs, ahead info.firstSeqn seg.seqn + seg.len.toNat = info.totalLen.toNat) ∧
    (info.largePktsDetected = true ↔ ∃ seg ∈ segs, mss < seg.len) ∧
    info.segs = arrival ∧
    (info.firstSeqn = (summary cmp mss segs).firstSeqn ∧ info.lastSeqn = (summary cmp mss segs).lastSeqn ∧
      info.totalLen = (summary cmp mss segs).totalLen ∧
      info.largePktsDetected = (summary cmp mss segs).largePktsDetected) := by
  intro info
  have double : 2 * size < 2 ^ 32 := by omega
  have arrived : arrival ≠ [] := fun empty => captured (List.nil_perm.mp (empty ▸ order))
  have whole : Summarizes base segs (summary cmp mss segs) := summarizes_summary mss few double captured within
  have seen : Summarizes base arrival info :=
    summarizes_summary mss (order.length_eq ▸ few) double arrived (fun seg member => within seg (order.mem_iff.mp member))
  have large : info.largePktsDetected = true ↔ ∃ seg ∈ segs, mss < seg.len := by
    simp only [info, summary_large, order.mem_iff]
  have detected : info.largePktsDetected = (summary cmp mss segs).largePktsDetected :=
    Bool.eq_iff_iff.mpr (large.trans (summary_large mss segs).symm)
  obtain ⟨first, last, total⟩ := whole.agree seen order
  obtain ⟨covers, reached⟩ := whole.total
  refine ⟨first ▸ whole.earliest, last ▸ whole.latest, ?_, ?_, large, summary_segs mss arrival, first, last, total,
    detected⟩
  · rwa [first, total]
  · rwa [first, total]

/-- Two segments around zero, the later one captured first. -/
theorem process_pkts_wrapped :
    (summary (signed 32) 100 [⟨10, 90⟩, ⟨0xfffffff6, 20⟩]).firstSeqn = 0xfffffff6 ∧
      IsLatest 0xfffffff6 [0xfffffff6, 10] (summary (signed 32) 100 [⟨10, 90⟩, ⟨0xfffffff6, 20⟩]).lastSeqn := by
  have right := process_pkts_order_independent (signed 32) 100 0xfffffff6 110 [⟨0xfffffff6, 20⟩, ⟨10, 90⟩]
    [⟨10, 90⟩, ⟨0xfffffff6, 20⟩] (by decide) (by decide) (by simp) (by unfold TcpSegInfo.Within; decide) (.swap _ _ [])
  exact ⟨by decide, right.2.1⟩

/-- One segment captured again and again until the counter has come round, and one more behind it. -/
def overfull : List TcpSegInfo := List.replicate (2 ^ 32) ⟨0, 10⟩ ++ [⟨20, 10⟩]

theorem mem_overfull {seg : TcpSegInfo} (member : seg ∈ overfull) : seg = ⟨0, 10⟩ ∨ seg = ⟨20, 10⟩ := by
  rcases List.mem_append.mp member with again | last
  · exact .inl (List.eq_of_mem_replicate again)
  · exact .inr (List.mem_singleton.mp last)

/-- The segment that is captured last is taken for the earliest one. -/
theorem process_pkts_counter_wraps :
    overfull ≠ [] ∧ (∀ seg ∈ overfull, seg.Within 0 30) ∧
      (summary (signed 32) 100 overfull).firstSeqn = 20 ∧ (summary (signed 32) 100 overfull).totalLen = 10 ∧
      ¬IsEarliest 0 (overfull.map TcpSegInfo.seqn) 20 := by
  have first : (⟨0, 10⟩ : TcpSegInfo) ∈ overfull :=
    List.mem_append_left _ (List.mem_replicate.mpr ⟨by decide, rfl⟩)
  obtain ⟨firstSeqn, totalLen⟩ : (summary (signed 32) 100 overfull).firstSeqn = 20 ∧
      (summary (signed 32) 100 overfull).totalLen = 10 :=
    summary_restarts 100 (List.replicate (2 ^ 32) ⟨0, 10⟩) ⟨20, 10⟩ List.length_replicate
  refine ⟨List.ne_nil_of_mem first, ?_, firstSeqn, totalLen, ?_⟩
  · intro seg member
    rcases mem_overfull member with rfl | rfl
    · show ahead (0 : BitVec 32) 0 + 10 ≤ 30
      decide
    · show ahead (0 : BitVec 32) 20 + 10 ≤ 30
      decide
  · intro earliest
    exact absurd (earliest.2 0 (List.mem_map_of_mem first)) (by decide)

end NetDrv.Tso
