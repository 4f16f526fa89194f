import NetDrv.Lib.Script
import NetDrv.Tso.Split
import Mathlib.Data.Finset.Card
import Mathlib.Data.Finset.Image
import Mathlib.Data.Finset.Union

/-! The checks over both captures of the TSO test and the data they vouch for. Each
capture is checked by its span only, and the receiver's by comparison with the
sender's; a hole that both have in the same place goes unseen. -/

namespace NetDrv.Tso
open Serial Script

/-- A check fails with the jump it makes; with none, its loop did not end within the fuel. The state is what
was printed by `ERROR_VERDICT()`. -/
abbrev Check := Script (Option Jump) (List String) Unit

def testVerdict (text : String) : Check := Script.fail (some (.verdict text))

def errorVerdict (text : String) : Check := update (fun printed => printed ++ [text])

/-- What `tapi_tad_trrecv_get()` does on a CSAP. -/
structure Csap where
  pkts : List CapturedPkt
  rc : Except TeErrno Unit

def Csap.of (segs : List TcpSegInfo) : Csap := ⟨segs.map TcpSegInfo.pkt, .ok ()⟩

def Csap.checkRc (csap : Csap) : Check :=
  match csap.rc with
  | .ok _ => pure ()
  | .error rc => Script.fail (some (.checkRc rc))

def checkCsapGen (info : PktsInfo) (sent : BitVec 32) (csapName : String) : Check := do
  when info.failed (testVerdict ("Failed to process captured packet(s) from " ++ csapName ++ " CSAP"))
  when (decide (info.pktsNum = 0)) (testVerdict ("No packets were captured on " ++ csapName ++ " CSAP"))
  when (decide (info.totalLen ≠ sent)) (testVerdict ("Number of bytes in packets captured by " ++ csapName ++
    " CSAP does not match number of bytes sent"))

section
variable (cmp : Compare 32)

def mismatch (got exp : TcpSegInfo) : Bool := decide (cmp.compare got.seqn exp.seqn ≠ 0 ∨ got.len ≠ exp.len)

def checkRxPkts (rxSegs expected : List TcpSegInfo) : Check := do
  let different := decide (rxSegs.length ≠ expected.length)
  when different (errorVerdict "Unexpected number of TCP segments captured on Tester")
  let fail := different || (rxSegs.zip expected).any (fun (got, exp) => mismatch cmp got exp)
  when fail (testVerdict "TCP segments captured on Tester do not match expected TSO splitting result")

/-- The check that Tx packets are large if and only if TSO is on. -/
def checkLarge (txStats : PktsInfo) (tsoOn : Bool) : Check :=
  if tsoOn then
    when (!txStats.largePktsDetected)
      (testVerdict "TSO is on, however no bigger than MSS Tx packets were captured")
  else
    when txStats.largePktsDetected (testVerdict "TSO is off, however bigger than MSS Tx packets were captured")

def checkCapturedPkts (fuel : Nat) (csapTx csapRx : Csap) (sendLen mss : BitVec 32) (tsoOn : Bool) : Check := do
  let txStats := trrecvGet cmp (.start mss) csapTx.pkts
  csapTx.checkRc
  checkCsapGen txStats sendLen "IUT"
  checkLarge txStats tsoOn
  let rxStats := trrecvGet cmp (.start mss) csapRx.pkts
  csapRx.checkRc
  checkCsapGen rxStats sendLen "Tester"
  when rxStats.largePktsDetected (testVerdict "Larger than MSS packets were captured on Tester")
  match splitPktsByMss fuel mss txStats.segs with
  | none => Script.fail none
  | some expected => checkRxPkts cmp rxStats.segs expected

/-- The checks of two captures end without a verdict. -/
def Passes (tx rx : List TcpSegInfo) (sendLen mss : BitVec 32) (tsoOn : Bool) : Prop :=
  ∃ fuel, (checkCapturedPkts cmp fuel (.of tx) (.of rx) sendLen mss tsoOn []).1 = .ok ()

end

/-- The numbers of `len` bytes from `seqn` on. -/
def stream (seqn : BitVec 32) (len : Nat) : Finset (BitVec 32) :=
  (Finset.range len).image (fun i => seqn + .ofNat 32 i)

def TcpSegInfo.bytes (seg : TcpSegInfo) : Finset (BitVec 32) := stream seg.seqn seg.len.toNat

def capturedBytes (segs : List TcpSegInfo) : Finset (BitVec 32) := segs.toFinset.biUnion TcpSegInfo.bytes

/-- From the earliest sequence number to the furthest end of a segment there are `len` bytes. -/
def Spans (base : BitVec 32) (segs : List TcpSegInfo) (len : Nat) : Prop :=
  ∃ first, IsEarliest base (segs.map TcpSegInfo.seqn) first ∧
    (∀ seg ∈ segs, ahead first seg.seqn + seg.len.toNat ≤ len) ∧
    ∃ seg ∈ segs, ahead first seg.seqn + seg.len.toNat = len

/-- The `len` bytes from the earliest sequence number on are all there. -/
def Covers (base : BitVec 32) (segs : List TcpSegInfo) (len : Nat) : Prop :=
  ∃ first, IsEarliest base (segs.map TcpSegInfo.seqn) first ∧ stream first len ⊆ capturedBytes segs

/-- What the checks compare: the spans, the presence of large packets and the segments. -/
structure Matches (base : BitVec 32) (mss sendLen : BitVec 32) (tsoOn : Bool) (tx rx : List TcpSegInfo) : Prop where
  txSpan : Spans base tx sendLen.toNat
  rxSpan : Spans base rx sendLen.toNat
  large : tsoOn = true ↔ ∃ seg ∈ tx, mss < seg.len
  splits : SplitsTo mss tx rx

section Guards
variable (cmp : Compare 32)

theorem guards_checkCsapGen (info : PktsInfo) (sent : BitVec 32) (csapName : String) :
    (checkCsapGen info sent csapName).Guards (info.failed = false ∧ info.pktsNum ≠ 0 ∧ info.totalLen = sent) := by
  apply Guards.congr ((guards_when_fail _ _).seq ((guards_when_fail _ _).seq (guards_when_fail _ _)))
  simp

theorem guards_checkLarge (txStats : PktsInfo) (tsoOn : Bool) :
    (checkLarge txStats tsoOn).Guards (tsoOn = true ↔ txStats.largePktsDetected = true) := by
  cases tsoOn with
  | true => exact (guards_when_fail _ _).congr (by simp)
  | false => exact (guards_when_fail _ _).congr (by simp)

theorem mismatch_eq_false_iff (got exp : TcpSegInfo) : mismatch cmp got exp = false ↔ got = exp := by
  obtain ⟨seqn, len⟩ := got
  obtain ⟨seqn', len'⟩ := exp
  simp [mismatch, cmp.eq_zero]

theorem zip_mismatch_iff {rxSegs expected : List TcpSegInfo} (length : rxSegs.length = expected.length) :
    (rxSegs.zip expected).any (fun (got, exp) => mismatch cmp got exp) = false ↔ rxSegs = expected := by
  induction rxSegs generalizing expected with
  | nil => simp [List.length_eq_zero_iff.mp length.symm]
  | cons got rxSegs ih =>
    cases expected with
    | nil => exact absurd length (by simp)
    | cons exp expected =>
      have tail := ih (Nat.succ.inj length)
      rw [List.zip_cons_cons, List.any_cons, Bool.or_eq_false_iff, mismatch_eq_false_iff, tail, List.cons.injEq]

theorem guards_checkRxPkts (rxSegs expected : List TcpSegInfo) :
    (checkRxPkts cmp rxSegs expected).Guards (rxSegs = expected) := by
  by_cases length : rxSegs.length = expected.length
  · apply Guards.congr _ (zip_mismatch_iff cmp length)
    simp only [checkRxPkts, length, ne_eq, not_true, decide_false, Bool.false_or]
    exact guards_when_fail _ _
  · constructor
    · intro same
      exact absurd (congrArg List.length same) length
    · intro _ s
      simp only [checkRxPkts, length, ne_eq, not_false_eq_true, decide_true, Bool.true_or]
      exact ⟨_, _, rfl⟩

theorem guards_checkCapturedPkts (fuel : Nat) (tx rx : List TcpSegInfo) (sendLen mss : BitVec 32) (tsoOn : Bool) :
    let txStats := summary cmp mss tx
    let rxStats := summary cmp mss rx
    (checkCapturedPkts cmp fuel (.of tx) (.of rx) sendLen mss tsoOn).Guards
      (True ∧ (txStats.failed = false ∧ txStats.pktsNum ≠ 0 ∧ txStats.totalLen = sendLen) ∧
        (tsoOn = true ↔ txStats.largePktsDetected = true) ∧
        True ∧ (rxStats.failed = false ∧ rxStats.pktsNum ≠ 0 ∧ rxStats.totalLen = sendLen) ∧
        rxStats.largePktsDetected = false ∧ splitPktsByMss fuel mss txStats.segs = some rxStats.segs) := by
  intro txStats rxStats
  have last : Guards (match splitPktsByMss fuel mss txStats.segs with
      | none => Script.fail none
      | some expected => checkRxPkts cmp rxStats.segs expected : Check)
      (splitPktsByMss fuel mss txStats.segs = some rxStats.segs) := by
    cases splitPktsByMss fuel mss txStats.segs with
    | none => exact ⟨fun wrong => absurd wrong (by simp), fun _ s => ⟨_, s, rfl⟩⟩
    | some expected => exact (guards_checkRxPkts cmp rxStats.segs expected).congr (by simp [eq_comm])
  exact guards_pure.seq ((guards_checkCsapGen txStats sendLen "IUT").seq ((guards_checkLarge txStats tsoOn).seq
    (guards_pure.seq ((guards_checkCsapGen rxStats sendLen "Tester").seq ((guards_when_fail _ _).seq last)))))

end Guards

section Window
variable {cmp : Compare 32} {base mss sendLen : BitVec 32} {size : Nat} {segs tx rx : List TcpSegInfo}
  {info : PktsInfo} {tsoOn : Bool}

theorem Summarizes.spans_iff (summarizes : Summarizes base segs info) :
    info.totalLen = sendLen ↔ Spans base segs sendLen.toNat := by
  obtain ⟨covers, reached⟩ := summarizes.total
  constructor
  · intro total
    subst total
    exact ⟨info.firstSeqn, summarizes.earliest, covers, reached⟩
  · intro spans
    obtain ⟨first, earliest, bounded, seg, member, attained⟩ := spans
    obtain ⟨seg', member', reached'⟩ := reached
    obtain rfl : info.firstSeqn = first := summarizes.earliest.unique earliest
    have upper := covers seg member
    have lower := bounded seg' member'
    apply BitVec.eq_of_toNat_eq
    omega

theorem Spans.nonempty {len : Nat} (spans : Spans base segs len) : segs ≠ [] := by
  obtain ⟨first, -, -, seg, member, -⟩ := spans
  exact List.ne_nil_of_mem member

theorem summary_checks (few : segs.length < 2 ^ 32) (window : 2 * size < 2 ^ 32) (within : ∀ seg ∈ segs, seg.Within base size) :
    ((summary cmp mss segs).failed = false ∧ (summary cmp mss segs).pktsNum ≠ 0 ∧
      (summary cmp mss segs).totalLen = sendLen) ↔ Spans base segs sendLen.toNat := by
  constructor
  · intro passed
    have captured : segs ≠ [] := by
      rintro rfl
      exact passed.2.1 rfl
    exact (summarizes_summary mss (Nat.le_of_lt few) window captured within).spans_iff.mp passed.2.2
  · intro spans
    have summarizes : Summarizes base segs (summary cmp mss segs) :=
      summarizes_summary mss (Nat.le_of_lt few) window spans.nonempty within
    refine ⟨summarizes.readable, ?_, summarizes.spans_iff.mpr spans⟩
    rw [summarizes.count]
    exact ofNat_length_ne_zero spans.nonempty few

theorem Passes.splits (passes : Passes cmp tx rx sendLen mss tsoOn) : SplitsTo mss tx rx := by
  obtain ⟨fuel, passed⟩ := passes
  have checks := ((guards_checkCapturedPkts cmp fuel tx rx sendLen mss tsoOn).ok_iff []).mp passed
  simp only [summary_segs] at checks
  exact ⟨fuel, checks.2.2.2.2.2.2⟩

theorem passes_iff (positive : 0 < mss) (fewTx : tx.length < 2 ^ 32) (fewRx : rx.length < 2 ^ 32) (window : 2 * size < 2 ^ 32) (withinTx : ∀ seg ∈ tx, seg.Within base size)
    (withinRx : ∀ seg ∈ rx, seg.Within base size) :
    Passes cmp tx rx sendLen mss tsoOn ↔ Matches base mss sendLen tsoOn tx rx := by
  have checks : ∀ fuel, (checkCapturedPkts cmp fuel (.of tx) (.of rx) sendLen mss tsoOn []).1 = .ok () ↔ _ :=
    fun fuel => (guards_checkCapturedPkts cmp fuel tx rx sendLen mss tsoOn).ok_iff []
  simp only [summary_checks fewTx window withinTx, summary_checks fewRx window withinRx, summary_large, summary_segs,
    true_and] at checks
  unfold Passes
  simp only [checks]
  constructor
  · intro passed
    obtain ⟨fuel, txSpan, large, rxSpan, -, splits⟩ := passed
    exact ⟨txSpan, rxSpan, large, fuel, splits⟩
  · intro same
    obtain ⟨fuel, splits⟩ := same.splits
    refine ⟨fuel, same.txSpan, same.large, same.rxSpan, ?_, splits⟩
    rw [Bool.eq_false_iff, ne_eq, summary_large]
    rintro ⟨seg, member, big⟩
    rw [(splitsTo_iff positive).mp same.splits] at member
    exact absurd big (BitVec.not_lt.mpr (splitAll_fits positive member).2)

end Window

section Bytes
variable {base mss sendLen first : BitVec 32} {segs tx rx : List TcpSegInfo} {len : Nat} {tsoOn : Bool}

theorem mem_stream_iff (small : len ≤ 2 ^ 32) (seqn byte : BitVec 32) :
    byte ∈ stream seqn len ↔ ahead seqn byte < len := by
  simp only [stream, Finset.mem_image, Finset.mem_range]
  constructor
  · intro member
    obtain ⟨i, below, rfl⟩ := member
    have value : (BitVec.ofNat 32 i).toNat = i := toNat_ofNat_len (by omega)
    rw [ahead_add (by rw [ahead_self]; omega), ahead_self]
    omega
  · intro below
    refine ⟨ahead seqn byte, below, ?_⟩
    rw [ahead, BitVec.ofNat_toNat, BitVec.setWidth_eq, add_sub_cancel]

theorem card_stream (small : len < 2 ^ 32) (seqn : BitVec 32) : (stream seqn len).card = len := by
  rw [stream, Finset.card_image_of_injOn, Finset.card_range]
  intro i below j below' same
  simp only [Finset.coe_range, Set.mem_Iio] at below below'
  have values := congrArg BitVec.toNat (add_left_cancel same)
  rwa [toNat_ofNat_len (by omega), toNat_ofNat_len (by omega)] at values

theorem mem_capturedBytes_iff (segs : List TcpSegInfo) (byte : BitVec 32) :
    byte ∈ capturedBytes segs ↔ ∃ seg ∈ segs, ahead seg.seqn byte < seg.len.toNat := by
  simp only [capturedBytes, Finset.mem_biUnion, List.mem_toFinset, TcpSegInfo.bytes]
  constructor
  · intro member
    obtain ⟨seg, present, inside⟩ := member
    exact ⟨seg, present, (mem_stream_iff (Nat.le_of_lt seg.len.isLt) _ _).mp inside⟩
  · intro member
    obtain ⟨seg, present, inside⟩ := member
    exact ⟨seg, present, (mem_stream_iff (Nat.le_of_lt seg.len.isLt) _ _).mpr inside⟩

theorem capturedBytes_subset (small : len < 2 ^ 32)
    (bounded : ∀ seg ∈ segs, ahead first seg.seqn + seg.len.toNat ≤ len) : capturedBytes segs ⊆ stream first len := by
  intro byte member
  obtain ⟨seg, present, inside⟩ := (mem_capturedBytes_iff segs byte).mp member
  have bound := bounded seg present
  have split : byte = seg.seqn + (byte - seg.seqn) := (add_sub_cancel seg.seqn byte).symm
  unfold ahead at inside
  rw [mem_stream_iff (Nat.le_of_lt small), split, ahead_add (by omega)]
  omega

theorem Spans.unique {len' : Nat} (spans : Spans base segs len) (spans' : Spans base segs len') : len = len' := by
  obtain ⟨first, earliest, bounded, seg, member, reached⟩ := spans
  obtain ⟨first', earliest', bounded', seg', member', reached'⟩ := spans'
  obtain rfl := earliest.unique earliest'
  have upper := bounded' seg member
  have lower := bounded seg' member'
  omega

theorem Covers.card (spans : Spans base segs len) (small : len < 2 ^ 32) (covers : Covers base segs len) :
    (capturedBytes segs).card = len := by
  obtain ⟨first, earliest, bounded, -⟩ := spans
  obtain ⟨first', earliest', all⟩ := covers
  obtain rfl := earliest.unique earliest'
  rw [Finset.Subset.antisymm (capturedBytes_subset small bounded) all, card_stream small]

end Bytes

section Extent
variable {base mss sendLen : BitVec 32} {size len : Nat} {segs tx rx xs ys : List TcpSegInfo} {tsoOn : Bool}

end Extent

end NetDrv.Tso
