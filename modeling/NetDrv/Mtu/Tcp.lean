import NetDrv.Lib.Serial
import NetDrv.Mtu.Rounds

/-! The TCP MTU test. Two sequence numbers are kept over the packets of a round, the
latest one of all and the earliest one of the small packets, in variables that are
wider than what they hold; a negative value says that there was no small packet. -/

namespace NetDrv.Mtu.Tcp
open Serial

structure CbArgs where
  maxPldSize : Int
  pktsNum : Nat
  firstSmallPktSeqn : Int
  lastSeqn : Int
  tooBigPkt : Bool
  failed : Bool
  deriving DecidableEq, Repr

structure CapturedPkt where
  pldLen : Except TeErrno (BitVec 32)
  seqn : Except TeErrno (BitVec 32)

def CbArgs.start (tcpMaxseg : Int) : CbArgs := ⟨tcpMaxseg, 0, 0, 0, false, false⟩

section
variable (cmp : Compare 32)

/-- The latest sequence number after one more packet. -/
def CbArgs.noteSeqn (args : CbArgs) (seqn : BitVec 32) : CbArgs :=
  if args.pktsNum = 1 ∨ cmp.compare (BitVec.ofInt 32 args.lastSeqn) seqn < 0 then
    { args with lastSeqn := seqn.toNat }
  else args

def CbArgs.noteLen (args : CbArgs) (pldLen seqn : BitVec 32) : CbArgs :=
  if pldLen.toInt < args.maxPldSize then
    if args.firstSmallPktSeqn < 0 ∨ cmp.compare seqn (BitVec.ofInt 32 args.firstSmallPktSeqn) < 0 then
      { args with firstSmallPktSeqn := seqn.toNat }
    else args
  else if pldLen.toInt > args.maxPldSize then { args with tooBigPkt := true }
  else args

def processTcp (args : CbArgs) (pkt : CapturedPkt) : CbArgs :=
  let args := if args.pktsNum = 0 then { args with firstSmallPktSeqn := -1 } else args
  let args := { args with pktsNum := args.pktsNum + 1 }
  match pkt.pldLen, pkt.seqn with
  | .error _, _ => { args with failed := true }
  | .ok _, .error _ => { args with failed := true }
  | .ok pldLen, .ok seqn => (args.noteSeqn cmp seqn).noteLen cmp pldLen seqn

def judge (args : CbArgs) : Except Jump Unit :=
  judgeCapture args.failed args.pktsNum args.tooBigPkt
    (decide (args.firstSmallPktSeqn ≥ 0 ∧ args.firstSmallPktSeqn ≠ args.lastSeqn))

def test : Test CapturedPkt CbArgs where
  callback := processTcp cmp
  reset args := { args with pktsNum := 0 }
  judge := judge

def maxMaxsegDiff : Int := 200

/-- What is decided from `TCP_MAXSEG` before the loop. -/
def prepare (mtu tcpMaxseg : Int) (pktSize : PktSize) : Except Jump (Sizes × CbArgs) :=
  if tcpMaxseg > mtu then .error (.verdict "Reported TCP_MAXSEG is too big")
  else if tcpMaxseg < mtu - maxMaxsegDiff then .error (.verdict "Reported TCP_MAXSEG is too small")
  else (chooseSizes 1 pktSize tcpMaxseg).map (fun sizes => (sizes, .start tcpMaxseg))

end

structure Seg where
  seqn : BitVec 32
  len : BitVec 32
  deriving DecidableEq, Repr

def Seg.pkt (seg : Seg) : CapturedPkt := ⟨.ok seg.len, .ok seg.seqn⟩

/-- The segments of one round, in the order of their capture. Their sequence numbers
lie in one window, which may wrap, and may be repeated. -/
structure Capture where
  segs : List Seg
  base : BitVec 32
  size : Nat
  captured : segs ≠ []
  short : ∀ seg ∈ segs, seg.len.toNat < 2 ^ 31
  window : size < 2 ^ 31
  within : ∀ seg ∈ segs, ahead base seg.seqn ≤ size

def Capture.pkts (capture : Capture) : List CapturedPkt := capture.segs.map Seg.pkt

def Capture.reorder (capture : Capture) {order : List Seg} (perm : order.Perm capture.segs) : Capture :=
  { capture with
    segs := order
    captured := fun empty => capture.captured (List.nil_perm.mp (empty ▸ perm))
    short := fun seg member => capture.short seg (perm.mem_iff.mp member)
    within := fun seg member => capture.within seg (perm.mem_iff.mp member) }

/-- No payload is bigger than `max`, and those that are smaller come with the latest sequence number. -/
structure Capture.Conforms (max : Int) (capture : Capture) : Prop where
  fits : ∀ seg ∈ capture.segs, (seg.len.toNat : Int) ≤ max
  last : ∀ seg ∈ capture.segs, (seg.len.toNat : Int) < max →
    IsLatest capture.base (capture.segs.map Seg.seqn) seg.seqn

/-- The segment carries less than `max` bytes. -/
def Seg.small (max : Int) (seg : Seg) : Bool := decide (seg.len.toInt < max)

def smallSeqns (max : Int) (segs : List Seg) : List (BitVec 32) := (segs.filter (Seg.small max)).map Seg.seqn

/-- The value stands for the earliest of the sequence numbers; there is none when it is negative. -/
inductive Marks (base : BitVec 32) (seqns : List (BitVec 32)) : Int → Prop where
  | absent (none : seqns = []) : Marks base seqns (-1)
  | present {seqn : BitVec 32} (earliest : IsEarliest base seqns seqn) : Marks base seqns seqn.toNat

/-- What the callback maintains over the segments of a round; `before` is whether a
bigger packet was captured in an earlier one. The value that stands for the small
packets is not reset before the first call. -/
structure Summarizes (base : BitVec 32) (max : Int) (before : Bool) (segs : List Seg) (args : CbArgs) : Prop where
  maxPldSize : args.maxPldSize = max
  count : args.pktsNum = segs.length
  small : Marks base (smallSeqns max segs) (if args.pktsNum = 0 then -1 else args.firstSmallPktSeqn)
  latest : segs ≠ [] → ∃ last, IsLatest base (segs.map Seg.seqn) last ∧ args.lastSeqn = last.toNat
  tooBig : args.tooBigPkt = (before || segs.any (fun seg => decide (max < seg.len.toInt)))
  readable : args.failed = false

variable {cmp : Compare 32} {base seqn : BitVec 32} {size : Nat} {max : Int} {before : Bool} {segs : List Seg}
  {seg : Seg} {args : CbArgs}

theorem noteSeqn_eq (args : CbArgs) (seqn : BitVec 32) :
    args.noteSeqn cmp seqn = { args with
      lastSeqn := if args.pktsNum = 1 ∨ cmp.compare (BitVec.ofInt 32 args.lastSeqn) seqn < 0 then seqn.toNat
        else args.lastSeqn } := by
  unfold CbArgs.noteSeqn
  split <;> rfl

theorem noteLen_eq (args : CbArgs) (seg : Seg) :
    args.noteLen cmp seg.len seg.seqn = { args with
      firstSmallPktSeqn :=
        if seg.small args.maxPldSize then
          if args.firstSmallPktSeqn < 0 ∨ cmp.compare seg.seqn (BitVec.ofInt 32 args.firstSmallPktSeqn) < 0 then
            seg.seqn.toNat
          else args.firstSmallPktSeqn
        else args.firstSmallPktSeqn
      tooBigPkt := args.tooBigPkt || decide (args.maxPldSize < seg.len.toInt) } := by
  unfold CbArgs.noteLen Seg.small
  by_cases less : seg.len.toInt < args.maxPldSize
  · have fits : ¬args.maxPldSize < seg.len.toInt := by omega
    simp only [less, fits, decide_true, decide_false, if_true, Bool.or_false]
    split <;> rfl
  · by_cases more : args.maxPldSize < seg.len.toInt
    · simp [less, more]
    · simp [less, more]

theorem ofInt_toNat (seqn : BitVec 32) : BitVec.ofInt 32 (seqn.toNat : Int) = seqn := by
  rw [BitVec.ofInt_natCast, BitVec.ofNat_toNat, BitVec.setWidth_eq]

theorem Marks.snoc {seqns : List (BitVec 32)} {value : Int} (window : 2 * size < 2 ^ 32)
    (within : ∀ other ∈ seqns, ahead base other ≤ size) (here : ahead base seqn ≤ size)
    (marks : Marks base seqns value) :
    Marks base (seqns ++ [seqn])
      (if value < 0 ∨ cmp.compare seqn (BitVec.ofInt 32 value) < 0 then seqn.toNat else value) := by
  cases marks with
  | absent none =>
    subst none
    rw [if_pos (Or.inl (by decide))]
    exact .present (isEarliest_singleton base seqn)
  | @present first earliest =>
    have negative : ¬(first.toNat : Int) < 0 := by omega
    have next := earliest.snoc seqn
    simp only [ofInt_toNat, negative, false_or, cmp.neg_iff window here (within first earliest.1)]
    split
    next earlier =>
      rw [if_pos earlier] at next
      exact .present next
    next later =>
      rw [if_neg later] at next
      exact .present next

theorem Marks.perm {seqns other : List (BitVec 32)} {value : Int} (marks : Marks base seqns value)
    (order : seqns.Perm other) : Marks base other value := by
  cases marks with
  | absent none =>
    subst none
    exact .absent (List.nil_perm.mp order)
  | present earliest => exact .present (earliest.perm order)

theorem Marks.unique {seqns : List (BitVec 32)} {value other : Int} (marks : Marks base seqns value)
    (second : Marks base seqns other) : value = other := by
  cases marks with
  | absent none =>
    subst none
    cases second with
    | absent _ => rfl
    | present earliest => simp [IsEarliest] at earliest
  | present earliest =>
    cases second with
    | absent none =>
      subst none
      simp [IsEarliest] at earliest
    | present earliest' => rw [earliest.unique earliest']

theorem processTcp_pkt (args : CbArgs) (seg : Seg) :
    processTcp cmp args seg.pkt =
      ((({ args with
        pktsNum := args.pktsNum + 1
        firstSmallPktSeqn := if args.pktsNum = 0 then -1 else args.firstSmallPktSeqn } : CbArgs).noteSeqn
          cmp seg.seqn).noteLen cmp seg.len seg.seqn) := by
  unfold processTcp Seg.pkt
  split <;> rfl

theorem smallSeqns_snoc (max : Int) (segs : List Seg) (seg : Seg) :
    smallSeqns max (segs ++ [seg]) = smallSeqns max segs ++ if seg.small max then [seg.seqn] else [] := by
  unfold smallSeqns
  by_cases small : seg.small max <;> simp [small]

theorem mem_smallSeqns : seqn ∈ smallSeqns max segs ↔ ∃ seg ∈ segs, seg.small max ∧ seg.seqn = seqn := by
  simp [smallSeqns, and_assoc]

theorem latest_snoc {last : BitVec 32} {seqns : List (BitVec 32)} (window : 2 * size < 2 ^ 32)
    (within : ∀ other ∈ seqns, ahead base other ≤ size) (here : ahead base seqn ≤ size)
    (latest : IsLatest base seqns last) :
    ∃ next, IsLatest base (seqns ++ [seqn]) next ∧
      (if cmp.compare last seqn < 0 then (seqn.toNat : Int) else last.toNat) = next.toNat := by
  have next := latest.snoc seqn
  simp only [cmp.neg_iff window (within last latest.1) here]
  split
  next later =>
    rw [if_pos later] at next
    exact ⟨seqn, next, rfl⟩
  next earlier =>
    rw [if_neg earlier] at next
    exact ⟨last, next, rfl⟩

theorem Summarizes.snoc (window : 2 * size < 2 ^ 32) (within : ∀ other ∈ segs, ahead base other.seqn ≤ size)
    (here : ahead base seg.seqn ≤ size) (summarizes : Summarizes base max before segs args) :
    Summarizes base max before (segs ++ [seg]) (processTcp cmp args seg.pkt) := by
  rw [processTcp_pkt, noteLen_eq, noteSeqn_eq]
  exact {
    maxPldSize := summarizes.maxPldSize
    count := by simp [summarizes.count]
    small := by
      have inside : ∀ other ∈ smallSeqns max segs, ahead base other ≤ size := by
        intro other member
        obtain ⟨origin, present, -, rfl⟩ := mem_smallSeqns.mp member
        exact within origin present
      rw [if_neg (Nat.succ_ne_zero _), smallSeqns_snoc]
      simp only [summarizes.maxPldSize]
      by_cases small : seg.small max
      · simpa only [small, if_true] using summarizes.small.snoc window inside here
      · simpa only [small, Bool.false_eq_true, if_false, List.append_nil] using summarizes.small
    latest := by
      intro _
      rw [List.map_append, List.map_singleton]
      by_cases first : segs = []
      · subst first
        have none : args.pktsNum = 0 := summarizes.count
        exact ⟨seg.seqn, isLatest_singleton base seg.seqn, by simp [none]⟩
      · obtain ⟨last, latest, same⟩ := summarizes.latest first
        have later : ¬args.pktsNum + 1 = 1 := by
          have some : segs.length ≠ 0 := fun empty => first (List.length_eq_zero_iff.mp empty)
          rw [summarizes.count]
          omega
        have inside : ∀ other ∈ segs.map Seg.seqn, ahead base other ≤ size := by
          intro other member
          obtain ⟨origin, present, rfl⟩ := List.mem_map.mp member
          exact within origin present
        simpa only [later, false_or, same, ofInt_toNat] using latest_snoc window inside here latest
    tooBig := by
      simp only [summarizes.maxPldSize, summarizes.tooBig, List.any_append, List.any_cons, List.any_nil,
        Bool.or_false, Bool.or_assoc]
    readable := summarizes.readable }

theorem summarizes_capture (window : 2 * size < 2 ^ 32) (maxPldSize : args.maxPldSize = max)
    (readable : args.failed = false) (within : ∀ seg ∈ segs, ahead base seg.seqn ≤ size) :
    Summarizes base max args.tooBigPkt segs ((test cmp).capture args (segs.map Seg.pkt)) := by
  induction segs using List.reverseRecOn with
  | nil =>
    exact {
      maxPldSize := maxPldSize
      count := rfl
      small := .absent rfl
      latest := fun some => absurd rfl some
      tooBig := (Bool.or_false _).symm
      readable := readable }
  | append_singleton segs seg ih =>
    have inside : ∀ other ∈ segs, ahead base other.seqn ≤ size :=
      fun other member => within other (List.mem_append_left _ member)
    rw [List.map_append, List.map_singleton, Test.capture_snoc]
    exact (ih inside).snoc window inside (within seg (by simp))

theorem Summarizes.agree {arrival : List Seg} {other : CbArgs} (summarizes : Summarizes base max before segs args)
    (seen : Summarizes base max before arrival other) (captured : segs ≠ []) (order : arrival.Perm segs) :
    other = args := by
  have arrived : arrival ≠ [] := fun empty => captured (List.nil_perm.mp (empty ▸ order))
  have count : other.pktsNum = args.pktsNum := by
    rw [seen.count, summarizes.count, order.length_eq]
  have later : args.pktsNum ≠ 0 := by
    rw [summarizes.count]
    exact fun empty => captured (List.length_eq_zero_iff.mp empty)
  have small : other.firstSmallPktSeqn = args.firstSmallPktSeqn := by
    have first := summarizes.small
    have second := seen.small
    rw [count, if_neg later] at second
    rw [if_neg later] at first
    exact (second.perm ((order.filter _).map _)).unique first
  have last : other.lastSeqn = args.lastSeqn := by
    obtain ⟨last, latest, same⟩ := summarizes.latest captured
    obtain ⟨last', latest', same'⟩ := seen.latest arrived
    rw [same, same', (latest'.perm (order.map _)).unique latest]
  have big : other.tooBigPkt = args.tooBigPkt := by
    rw [seen.tooBig, summarizes.tooBig, order.any_eq]
  have limit : other.maxPldSize = args.maxPldSize := seen.maxPldSize.trans summarizes.maxPldSize.symm
  have failed : other.failed = args.failed := seen.readable.trans summarizes.readable.symm
  cases other
  cases args
  simp only at limit count small last big failed
  rw [limit, count, small, last, big, failed]

theorem Marks.in_place_iff {value : Int} {last : BitVec 32} (marks : Marks base (smallSeqns max segs) value)
    (latest : IsLatest base (segs.map Seg.seqn) last) :
    ¬(value ≥ 0 ∧ value ≠ last.toNat) ↔
      ∀ seg ∈ segs, seg.small max → IsLatest base (segs.map Seg.seqn) seg.seqn := by
  cases marks with
  | absent none =>
    have nothing : ∀ seg ∈ segs, ¬seg.small max := by
      intro seg member small
      have present : seg.seqn ∈ smallSeqns max segs := mem_smallSeqns.mpr ⟨seg, member, small, rfl⟩
      simp [none] at present
    constructor
    · intro _ seg member small
      exact absurd small (nothing seg member)
    · intro _ present
      exact absurd present.1 (by decide)
  | @present first earliest =>
    obtain ⟨origin, member, small, rfl⟩ := mem_smallSeqns.mp earliest.1
    constructor
    · intro place seg present less
      have same : origin.seqn = last := by
        apply BitVec.eq_of_toNat_eq
        by_contra differ
        exact place ⟨by omega, by omega⟩
      have lower := earliest.2 seg.seqn (mem_smallSeqns.mpr ⟨seg, present, less, rfl⟩)
      have upper := latest.2 seg.seqn (List.mem_map_of_mem present)
      have equal : seg.seqn = last := ahead_inj (Nat.le_antisymm upper (same ▸ lower))
      exact equal ▸ latest
    · intro all misplaced
      have equal : origin.seqn = last := (all origin member small).unique latest
      exact misplaced.2 (by rw [equal])

theorem Summarizes.judge_iff (summarizes : Summarizes base max false segs args) (captured : segs ≠ []) :
    judge args = .ok () ↔ (∀ seg ∈ segs, seg.len.toInt ≤ max) ∧
      ∀ seg ∈ segs, seg.small max → IsLatest base (segs.map Seg.seqn) seg.seqn := by
  have later : args.pktsNum ≠ 0 := by
    rw [summarizes.count]
    exact fun empty => captured (List.length_eq_zero_iff.mp empty)
  obtain ⟨last, latest, same⟩ := summarizes.latest captured
  have marks := summarizes.small
  rw [if_neg later] at marks
  have big : args.tooBigPkt = false ↔ ∀ seg ∈ segs, seg.len.toInt ≤ max := by
    rw [summarizes.tooBig]
    simp
  rw [← marks.in_place_iff latest, ← big, judge, judgeCapture_eq_ok, same]
  simp [summarizes.readable, later]

theorem Capture.len_toInt (capture : Capture) (member : seg ∈ capture.segs) : seg.len.toInt = seg.len.toNat := by
  apply BitVec.toInt_eq_toNat_of_lt
  have short := capture.short seg member
  omega

theorem Capture.conforms_iff (capture : Capture) :
    capture.Conforms max ↔ (∀ seg ∈ capture.segs, seg.len.toInt ≤ max) ∧
      ∀ seg ∈ capture.segs, seg.small max → IsLatest capture.base (capture.segs.map Seg.seqn) seg.seqn := by
  constructor
  · intro conforms
    constructor
    · intro seg member
      rw [capture.len_toInt member]
      exact conforms.fits seg member
    · intro seg member small
      apply conforms.last seg member
      rw [← capture.len_toInt member]
      exact of_decide_eq_true small
  · intro accepted
    exact {
      fits := by
        intro seg member
        rw [← capture.len_toInt member]
        exact accepted.1 seg member
      last := by
        intro seg member less
        rw [← capture.len_toInt member] at less
        exact accepted.2 seg member (decide_eq_true less) }

@[simp] theorem noteSeqn_maxPldSize (args : CbArgs) (seqn : BitVec 32) :
    (args.noteSeqn cmp seqn).maxPldSize = args.maxPldSize := by
  unfold CbArgs.noteSeqn
  split <;> rfl

@[simp] theorem noteLen_maxPldSize (args : CbArgs) (pldLen seqn : BitVec 32) :
    (args.noteLen cmp pldLen seqn).maxPldSize = args.maxPldSize := by
  unfold CbArgs.noteLen
  split
  · split <;> rfl
  · split <;> rfl

@[simp] theorem processTcp_maxPldSize (args : CbArgs) (pkt : CapturedPkt) :
    (processTcp cmp args pkt).maxPldSize = args.maxPldSize := by
  have entered : (if args.pktsNum = 0 then { args with firstSmallPktSeqn := -1 } else args).maxPldSize =
      args.maxPldSize := by
    split <;> rfl
  unfold processTcp
  cases pkt.pldLen with
  | error rc => exact entered
  | ok pldLen =>
    cases pkt.seqn with
    | error rc => exact entered
    | ok seqn => simpa using entered

theorem capture_maxPldSize (args : CbArgs) (pkts : List CapturedPkt) :
    ((test cmp).capture args pkts).maxPldSize = args.maxPldSize :=
  Test.capture_keeps CbArgs.maxPldSize (fun _ => rfl) processTcp_maxPldSize args pkts

/-- What holds of the arguments between the rounds. -/
structure Between (max : Int) (args : CbArgs) : Prop where
  maxPldSize : args.maxPldSize = max
  tooBig : args.tooBigPkt = false
  readable : args.failed = false

theorem between_start (max : Int) : Between max (.start max) := ⟨rfl, rfl, rfl⟩

theorem Between.summarizes (between : Between max args) (capture : Capture) :
    Summarizes capture.base max false capture.segs ((test cmp).capture args capture.pkts) := by
  have double : 2 * capture.size < 2 ^ 32 := by
    have window := capture.window
    omega
  rw [← between.tooBig]
  exact summarizes_capture double between.maxPldSize between.readable capture.within

theorem judges (cmp : Compare 32) (max : Int) :
    (test cmp).Judges (Between max) Capture.pkts (Capture.Conforms max) where
  keeps args pkts between judged := by
    obtain ⟨readable, -, fits, -⟩ := judgeCapture_eq_ok.mp judged
    exact ⟨(capture_maxPldSize args pkts).trans between.maxPldSize, fits, readable⟩
  accepts args capture between := by
    rw [capture.conforms_iff]
    exact (between.summarizes capture).judge_iff capture.captured

theorem start_of_prepare {mtu tcpMaxseg : Int} {pktSize : PktSize} {sizes : Sizes}
    (prepared : prepare mtu tcpMaxseg pktSize = .ok (sizes, args)) : args = .start tcpMaxseg := by
  unfold prepare at prepared
  split at prepared
  · cases prepared
  · split at prepared
    · cases prepared
    · cases chosen : chooseSizes 1 pktSize tcpMaxseg with
      | error jump => simp [chosen, Except.map] at prepared
      | ok found =>
        simp only [chosen, Except.map, Except.ok.injEq, Prod.mk.injEq] at prepared
        exact prepared.2.symm

theorem sendLoop_passes_iff {hosts : Hosts} {mtu tcpMaxseg : Int} {pktSize : PktSize} {sizes : Sizes}
    (prepared : prepare mtu tcpMaxseg pktSize = .ok (sizes, args)) {rounds : List (Round CapturedPkt)}
    {captures : List Capture}
    (shown : List.Forall₂ (fun round capture => round.Obtained hosts ∧ round.pkts = capture.pkts) rounds captures) :
    (∃ final, (test cmp).sendLoop hosts args rounds = .ok final) ↔
      ∀ capture ∈ captures, capture.Conforms tcpMaxseg := by
  rw [start_of_prepare prepared]
  exact (judges cmp tcpMaxseg).sendLoop_passes_iff (between_start tcpMaxseg) shown

/-- Whatever was captured before, a round passes exactly if its capture conforms, and
captured in any other order the same packets lead to the same end. -/
theorem tcp_mtu_verdict (cmp : Compare 32) (hosts : Hosts) (tcpMaxseg : Int) {earlier : List (Round CapturedPkt)}
    {args : CbArgs} (passed : (test cmp).sendLoop hosts (.start tcpMaxseg) earlier = .ok args)
    {round : Round CapturedPkt} (obtained : round.Obtained hosts) {capture : Capture}
    (shown : round.pkts = capture.pkts) :
    ((∃ next, (test cmp).round hosts args round = .ok next) ↔ capture.Conforms tcpMaxseg) ∧
    ∀ order : List Seg, order.Perm capture.segs →
      (test cmp).round hosts args { round with pkts := order.map Seg.pkt } = (test cmp).round hosts args round := by
  have between : Between tcpMaxseg args :=
    Test.sendLoop_inv (Between tcpMaxseg) (judges cmp tcpMaxseg).keeps (between_start tcpMaxseg) passed
  constructor
  · exact (judges cmp tcpMaxseg).round_passes_iff (between_start tcpMaxseg) passed obtained shown
  · intro order perm
    have same : (test cmp).capture args (order.map Seg.pkt) = (test cmp).capture args round.pkts := by
      rw [shown]
      exact (between.summarizes capture).agree (between.summarizes (capture.reorder perm)) capture.captured perm
    have again : Round.Obtained hosts { round with pkts := order.map Seg.pkt } :=
      ⟨obtained.exchanged, obtained.handed⟩
    rw [again.round_eq, obtained.round_eq]
    simp only [same]

/-- Three segments around zero that were captured backwards, the small one first. -/
def wrapped : Capture where
  segs := [⟨90, 40⟩, ⟨0xfffffff6, 100⟩, ⟨0xffffff92, 100⟩]
  base := 0xffffff92
  size := 240
  captured := by simp
  short := by decide
  window := by decide
  within := by decide

/-- They pass after a round that captured one full segment. -/
theorem tcp_mtu_wrapped_passes :
    ∃ next, (test (signed 32)).round ⟨"iut_rpcs", "tst_rpcs"⟩ ⟨100, 1, -1, 5, false, false⟩ (.smooth [1] wrapped.pkts) =
      .ok next := by
  have passed : (test (signed 32)).sendLoop ⟨"iut_rpcs", "tst_rpcs"⟩ (.start 100) [.smooth [1] [⟨.ok 100, .ok 5⟩]] =
    .ok ⟨100, 1, -1, 5, false, false⟩ := rfl
  have shown : (Round.smooth [1] wrapped.pkts).pkts = wrapped.pkts := rfl
  apply (tcp_mtu_verdict (signed 32) _ 100 passed (Round.smooth_obtained _ [1] wrapped.pkts) shown).1.mpr
  exact {
    fits := by decide
    last := by
      intro seg member less
      simp only [wrapped, List.mem_cons, List.not_mem_nil, or_false] at member
      rcases member with rfl | rfl | rfl
      · exact ⟨by simp [wrapped], by simp [wrapped, ahead]⟩
      · simp at less
      · simp at less }

end NetDrv.Mtu.Tcp
