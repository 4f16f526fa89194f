import NetDrv.Mtu.Fragments
import NetDrv.Mtu.Rounds

/-! The UDP MTU test. The callback numbers the packets of a round, takes the number
back for ICMPv6, and keeps the number of the first small packet; a small packet is
accepted if that is the last number. -/

namespace NetDrv.Mtu.Udp

structure CbArgs where
  ipv4 : Bool
  maxPldSize : Int
  maxFragSize : Int
  pktsNum : Nat
  firstSmallPkt : Int
  tooBigPkt : Bool
  failed : Bool
  deriving DecidableEq, Repr

/-- What is read from a captured packet: the `total-length` of IPv4 or the
`payload-length` of IPv6, and the `next-header`, whose reading is not checked. -/
structure CapturedPkt where
  length : Except TeErrno Int
  nextHdr : Int

def ipprotoIcmpv6 : Int := 58

def CbArgs.noteLen (args : CbArgs) (pldLen : Int) : CbArgs :=
  if pldLen < args.maxPldSize then
    -- an intermediary fragment may be a bit smaller
    if args.maxFragSize > 0 ∧ pldLen = args.maxFragSize then args
    else if args.firstSmallPkt < 0 then { args with firstSmallPkt := args.pktsNum }
    else args
  else if pldLen > args.maxPldSize then { args with tooBigPkt := true }
  else args

def CbArgs.enter (args : CbArgs) : CbArgs :=
  let args := if args.pktsNum = 0 then { args with firstSmallPkt := -1 } else args
  { args with pktsNum := args.pktsNum + 1 }

def processEth (args : CbArgs) (pkt : CapturedPkt) : CbArgs :=
  let args := args.enter
  match pkt.length with
  | .error _ => { args with failed := true }
  | .ok length =>
    let pldLen := if args.ipv4 then length else length + Family.inet6.l3HdrSize
    if !args.ipv4 ∧ pkt.nextHdr = ipprotoIcmpv6 then { args with pktsNum := args.pktsNum - 1 }
    else args.noteLen pldLen

def judge (args : CbArgs) : Except Jump Unit :=
  judgeCapture args.failed args.pktsNum args.tooBigPkt
    (decide (args.firstSmallPkt ≥ 0 ∧ args.firstSmallPkt ≠ args.pktsNum))

def test : Test CapturedPkt CbArgs where
  callback := processEth
  reset args := { args with pktsNum := 0 }
  judge := judge

def intermediaryFragSize (family : Family) (mtu : Int) : Int :=
  (mtu - family.l3HdrSize).tdiv 8 * 8 + family.l3HdrSize

def CbArgs.start (family : Family) (mtu : Int) (pktSize : PktSize) : CbArgs where
  ipv4 := family = .inet
  maxPldSize := mtu
  maxFragSize := if pktSize = .more then intermediaryFragSize family mtu else 0
  pktsNum := 0
  firstSmallPkt := 0
  tooBigPkt := false
  failed := false

def prepare (family : Family) (mtu : Int) (pktSize : PktSize) : Except Jump (Sizes × CbArgs) :=
  let mtuPldSize := mtu - family.l3HdrSize - udpHdrLen
  if mtuPldSize ≤ 1 then .error (.fail "MTU is too small")
  else (chooseSizes 0 pktSize mtuPldSize).map (fun sizes => (sizes, .start family mtu pktSize))

/-- A packet of the capture, with the length its IP header gives. -/
structure Frame where
  length : Int
  nextHdr : Int
  deriving DecidableEq, Repr

def Frame.pkt (frame : Frame) : CapturedPkt := ⟨.ok frame.length, frame.nextHdr⟩

def Frame.size (family : Family) (frame : Frame) : Int :=
  match family with
  | .inet => frame.length
  | .inet6 => frame.length + Family.inet6.l3HdrSize

def Frame.other (family : Family) (frame : Frame) : Bool :=
  decide (family = .inet ∨ frame.nextHdr ≠ ipprotoIcmpv6)

/-- The sizes of the packets that are not ICMPv6, in the order of their capture. -/
def otherSizes (family : Family) (frames : List Frame) : List Int :=
  (frames.filter (Frame.other family)).map (Frame.size family)

/-- Something was captured, nothing is bigger than the MTU, and all but the last packet are full. -/
structure Conforms (family : Family) (mtu : Int) (pktSize : PktSize) (sizes : List Int) : Prop where
  captured : sizes ≠ []
  fits : ∀ size ∈ sizes, size ≤ mtu
  full : ∀ size ∈ sizes.dropLast, size = mtu ∨ pktSize = .more ∧ size = intermediaryFragSize family mtu

/-- The callback takes a packet of this size for a small one. -/
def CbArgs.small (args : CbArgs) (size : Int) : Bool :=
  decide (size < args.maxPldSize ∧ ¬(args.maxFragSize > 0 ∧ size = args.maxFragSize))

/-- The number of the first small packet; there is none when it is negative. -/
inductive FirstSmall (small : Int → Bool) : List Int → Int → Prop where
  | absent {sizes : List Int} (none : ∀ size ∈ sizes, small size = false) : FirstSmall small sizes (-1)
  | present {earlier later : List Int} {size : Int} (none : ∀ size ∈ earlier, small size = false)
    (here : small size = true) : FirstSmall small (earlier ++ size :: later) (earlier.length + 1 : Nat)

variable {small : Int → Bool} {sizes : List Int} {number : Int}

theorem FirstSmall.snoc (first : FirstSmall small sizes number) (size : Int) :
    FirstSmall small (sizes ++ [size])
      (if small size = true ∧ number < 0 then (sizes.length + 1 : Nat) else number) := by
  cases first with
  | absent none =>
    by_cases here : small size = true
    · rw [if_pos ⟨here, by decide⟩]
      exact .present none here
    · rw [if_neg (fun found => here found.1)]
      apply FirstSmall.absent
      intro other member
      rcases List.mem_append.mp member with old | new
      · exact none other old
      · rw [List.mem_singleton.mp new]
        exact Bool.eq_false_iff.mpr here
  | @present earlier later found none here =>
    rw [if_neg (fun again => by omega), List.append_assoc, List.cons_append]
    exact .present none here

theorem FirstSmall.in_place_iff (first : FirstSmall small sizes number) :
    ¬(number ≥ 0 ∧ number ≠ sizes.length) ↔ ∀ size ∈ sizes.dropLast, small size = false := by
  cases first with
  | absent none =>
    constructor
    · intro _ size member
      exact none size ((List.dropLast_sublist _).subset member)
    · intro _ present
      exact absurd present.1 (by decide)
  | @present earlier later found none here =>
    by_cases last : later = []
    · subst last
      rw [List.dropLast_concat]
      constructor
      · intro _
        exact none
      · intro _ misplaced
        exact misplaced.2 (by simp)
    · have length : later.length ≠ 0 := fun empty => last (List.length_eq_zero_iff.mp empty)
      have inside : found ∈ (earlier ++ found :: later).dropLast := by
        rw [List.dropLast_append_of_ne_nil (List.cons_ne_nil _ _), List.dropLast_cons_of_ne_nil last]
        simp
      constructor
      · intro place
        apply absurd _ place
        rw [List.length_append, List.length_cons]
        omega
      · intro all
        rw [all found inside] at here
        exact absurd here (by decide)

variable {args initial : CbArgs}

theorem enter_eq (args : CbArgs) :
    args.enter = { args with
      pktsNum := args.pktsNum + 1
      firstSmallPkt := if args.pktsNum = 0 then -1 else args.firstSmallPkt } := by
  unfold CbArgs.enter
  split <;> rfl

theorem noteLen_eq (args : CbArgs) (size : Int) :
    args.noteLen size = { args with
      firstSmallPkt :=
        if args.small size = true ∧ args.firstSmallPkt < 0 then (args.pktsNum : Int) else args.firstSmallPkt
      tooBigPkt := args.tooBigPkt || decide (args.maxPldSize < size) } := by
  unfold CbArgs.noteLen CbArgs.small
  by_cases less : size < args.maxPldSize
  · have fits : ¬args.maxPldSize < size := by omega
    by_cases fragment : args.maxFragSize > 0 ∧ size = args.maxFragSize
    · have normal : ¬(size < args.maxPldSize ∧ ¬(args.maxFragSize > 0 ∧ size = args.maxFragSize)) :=
        fun small => small.2 fragment
      rw [if_pos less, if_pos fragment, decide_eq_false normal, decide_eq_false fits]
      simp
    · by_cases first : args.firstSmallPkt < 0
      · simp [less, fits, fragment, first]
      · simp [less, fits, fragment, first]
  · by_cases more : args.maxPldSize < size
    · simp [less, more]
    · simp [less, more]

/-- What the callback maintains over the sizes of the packets it has counted in a round;
`initial` are the arguments at its start. -/
structure Summarizes (initial : CbArgs) (sizes : List Int) (args : CbArgs) : Prop where
  ipv4 : args.ipv4 = initial.ipv4
  maxPldSize : args.maxPldSize = initial.maxPldSize
  maxFragSize : args.maxFragSize = initial.maxFragSize
  count : args.pktsNum = sizes.length
  small : FirstSmall initial.small sizes (if args.pktsNum = 0 then -1 else args.firstSmallPkt)
  tooBig : args.tooBigPkt = (initial.tooBigPkt || sizes.any (fun size => decide (initial.maxPldSize < size)))
  readable : args.failed = initial.failed

theorem Summarizes.small_eq (summarizes : Summarizes initial sizes args) : args.small = initial.small := by
  funext size
  unfold CbArgs.small
  rw [summarizes.maxPldSize, summarizes.maxFragSize]

theorem Summarizes.counted (summarizes : Summarizes initial sizes args) (size : Int) :
    Summarizes initial (sizes ++ [size]) (args.enter.noteLen size) := by
  have small : args.enter.small size = initial.small size := by
    rw [← summarizes.small_eq, enter_eq]
    rfl
  rw [noteLen_eq, small, enter_eq]
  exact {
    ipv4 := summarizes.ipv4
    maxPldSize := summarizes.maxPldSize
    maxFragSize := summarizes.maxFragSize
    count := by simp [summarizes.count]
    small := by
      have next := summarizes.small.snoc size
      rw [← summarizes.count] at next
      rw [if_neg (Nat.succ_ne_zero _)]
      exact next
    tooBig := by
      simp only [summarizes.maxPldSize, summarizes.tooBig, List.any_append, List.any_cons, List.any_nil,
        Bool.or_false, Bool.or_assoc]
    readable := summarizes.readable }

/-- A packet whose number is taken back. If it was the first one, the number of the
first small packet is reset once more by the next call. -/
theorem Summarizes.skipped (summarizes : Summarizes initial sizes args) :
    Summarizes initial sizes { args.enter with pktsNum := args.enter.pktsNum - 1 } := by
  rw [enter_eq]
  exact {
    ipv4 := summarizes.ipv4
    maxPldSize := summarizes.maxPldSize
    maxFragSize := summarizes.maxFragSize
    count := summarizes.count
    small := by
      have first := summarizes.small
      simp only [Nat.add_sub_cancel]
      split
      next none => rwa [if_pos none] at first
      next counted => rwa [if_neg counted] at first
    tooBig := summarizes.tooBig
    readable := summarizes.readable }

theorem otherSizes_snoc (family : Family) (frames : List Frame) (frame : Frame) :
    otherSizes family (frames ++ [frame]) =
      otherSizes family frames ++ if frame.other family then [frame.size family] else [] := by
  unfold otherSizes
  by_cases counted : frame.other family <;> simp [counted]

theorem Summarizes.processEth {family : Family} (version : initial.ipv4 = decide (family = .inet))
    (summarizes : Summarizes initial sizes args) (frame : Frame) :
    Summarizes initial (sizes ++ if frame.other family then [frame.size family] else []) (processEth args frame.pkt) := by
  have ipv4 : args.enter.ipv4 = decide (family = .inet) := by
    rw [enter_eq]
    exact summarizes.ipv4.trans version
  cases family with
  | inet => simpa [Udp.processEth, Frame.pkt, Frame.other, Frame.size, ipv4] using summarizes.counted frame.length
  | inet6 =>
    by_cases icmpv6 : frame.nextHdr = ipprotoIcmpv6
    · simpa [Udp.processEth, Frame.pkt, Frame.other, Frame.size, ipv4, icmpv6] using summarizes.skipped
    · simpa [Udp.processEth, Frame.pkt, Frame.other, Frame.size, ipv4, icmpv6] using
        summarizes.counted (frame.length + Family.inet6.l3HdrSize)

theorem summarizes_capture {family : Family} (version : initial.ipv4 = decide (family = .inet)) (frames : List Frame) :
    Summarizes initial (otherSizes family frames) (test.capture initial (frames.map Frame.pkt)) := by
  induction frames using List.reverseRecOn with
  | nil =>
    exact {
      ipv4 := rfl
      maxPldSize := rfl
      maxFragSize := rfl
      count := rfl
      small := .absent (by simp [otherSizes])
      tooBig := (Bool.or_false _).symm
      readable := rfl }
  | append_singleton frames frame ih =>
    rw [List.map_append, List.map_singleton, Test.capture_snoc, otherSizes_snoc]
    exact ih.processEth version frame

theorem Summarizes.judge_iff (summarizes : Summarizes initial sizes args) (fits : initial.tooBigPkt = false)
    (readable : initial.failed = false) :
    judge args = .ok () ↔ sizes ≠ [] ∧ (∀ size ∈ sizes, size ≤ initial.maxPldSize) ∧
      ∀ size ∈ sizes.dropLast, initial.small size = false := by
  have captured : args.pktsNum ≠ 0 ↔ sizes ≠ [] := by
    rw [summarizes.count, ne_eq, List.length_eq_zero_iff]
  have big : args.tooBigPkt = false ↔ ∀ size ∈ sizes, size ≤ initial.maxPldSize := by
    rw [summarizes.tooBig, fits]
    simp
  rw [judge, judgeCapture_eq_ok, captured, big, summarizes.readable, readable]
  simp only [true_and, decide_eq_false_iff_not]
  apply and_congr_right
  intro some
  have first := summarizes.small
  rw [if_neg (captured.mpr some)] at first
  rw [← first.in_place_iff, summarizes.count]

def CbArgs.input (args : CbArgs) : Bool × Int × Int := (args.ipv4, args.maxPldSize, args.maxFragSize)

theorem processEth_input (args : CbArgs) (pkt : CapturedPkt) : (processEth args pkt).input = args.input := by
  unfold processEth
  rw [enter_eq]
  cases pkt.length with
  | error rc => rfl
  | ok length =>
    simp only
    split
    · rfl
    · rw [noteLen_eq]
      rfl

theorem capture_input (args : CbArgs) (pkts : List CapturedPkt) : (test.capture args pkts).input = args.input :=
  Test.capture_keeps CbArgs.input (fun _ => rfl) processEth_input args pkts

/-- What holds of the arguments between the rounds. -/
structure Between (family : Family) (mtu : Int) (pktSize : PktSize) (args : CbArgs) : Prop where
  input : args.input = (CbArgs.start family mtu pktSize).input
  tooBig : args.tooBigPkt = false
  readable : args.failed = false

variable {family : Family} {mtu : Int} {pktSize : PktSize} {limits : Sizes}

theorem Between.small_eq (between : Between family mtu pktSize args) :
    args.small = (CbArgs.start family mtu pktSize).small := by
  obtain ⟨-, max, frag⟩ : args.ipv4 = _ ∧ args.maxPldSize = mtu ∧ args.maxFragSize = _ := by
    simpa [CbArgs.input, CbArgs.start] using between.input
  funext size
  unfold CbArgs.small
  rw [max, frag]
  rfl

theorem lt_of_prepare (prepared : prepare family mtu pktSize = .ok (limits, args)) :
    family.l3HdrSize + udpHdrLen + 1 < mtu ∧ args = .start family mtu pktSize ∧
      chooseSizes 0 pktSize (mtu - family.l3HdrSize - udpHdrLen) = .ok limits := by
  unfold prepare at prepared
  by_cases little : mtu - family.l3HdrSize - udpHdrLen ≤ 1
  · simp [little] at prepared
  · simp only [little, if_false] at prepared
    cases chosen : chooseSizes 0 pktSize (mtu - family.l3HdrSize - udpHdrLen) with
    | error jump => simp [chosen, Except.map] at prepared
    | ok found =>
      simp only [chosen, Except.map, Except.ok.injEq, Prod.mk.injEq] at prepared
      exact ⟨by omega, prepared.2.symm, by rw [prepared.1]⟩

theorem intermediaryFragSize_eq (room : family.l3HdrSize + udpHdrLen + 1 < mtu) :
    intermediaryFragSize family mtu = (mtu - family.l3HdrSize) / 8 * 8 + family.l3HdrSize := by
  unfold intermediaryFragSize
  rw [Int.tdiv_eq_ediv_of_nonneg (by omega)]

theorem start_small_iff (room : family.l3HdrSize + udpHdrLen + 1 < mtu) {size : Int} (fits : size ≤ mtu) :
    (CbArgs.start family mtu pktSize).small size = false ↔
      size = mtu ∨ pktSize = .more ∧ size = intermediaryFragSize family mtu := by
  have positive : 0 < intermediaryFragSize family mtu := by
    rw [intermediaryFragSize_eq room]
    unfold udpHdrLen at room
    omega
  by_cases more : pktSize = .more
  · subst more
    simp only [CbArgs.small, CbArgs.start, if_true, true_and, decide_eq_false_iff_not]
    omega
  · simp only [CbArgs.small, CbArgs.start, more, if_false, false_and, or_false, decide_eq_false_iff_not]
    omega

theorem judges (room : family.l3HdrSize + udpHdrLen + 1 < mtu) :
    test.Judges (Between family mtu pktSize) (List.map Frame.pkt)
      (fun frames => Conforms family mtu pktSize (otherSizes family frames)) where
  keeps args pkts between judged := by
    obtain ⟨readable, -, fits, -⟩ := judgeCapture_eq_ok.mp judged
    exact ⟨(capture_input args pkts).trans between.input, fits, readable⟩
  accepts args frames between := by
    obtain ⟨version, max, -⟩ : args.ipv4 = decide (family = .inet) ∧ args.maxPldSize = mtu ∧ args.maxFragSize = _ := by
      simpa [CbArgs.input, CbArgs.start] using between.input
    show judge (test.capture args (frames.map Frame.pkt)) = .ok () ↔ _
    rw [(summarizes_capture version frames).judge_iff between.tooBig between.readable, max, between.small_eq]
    constructor
    · intro accepted
      exact {
        captured := accepted.1
        fits := accepted.2.1
        full := by
          intro size member
          have fits := accepted.2.1 size ((List.dropLast_sublist _).subset member)
          exact (start_small_iff room fits).mp (accepted.2.2 size member) }
    · intro conforms
      apply And.intro conforms.captured
      apply And.intro conforms.fits
      intro size member
      have fits := conforms.fits size ((List.dropLast_sublist _).subset member)
      exact (start_small_iff room fits).mpr (conforms.full size member)

theorem prepare_of_least (least : family.leastMtu ≤ mtu) (pktSize : PktSize) :
    ∃ limits, prepare family mtu pktSize = .ok (limits, .start family mtu pktSize) := by
  have room : 40 ≤ mtu - family.l3HdrSize - udpHdrLen := by
    cases family <;> simp only [Family.leastMtu, Family.l3HdrSize, udpHdrLen] at * <;> omega
  have chosen : ∃ limits, chooseSizes 0 pktSize (mtu - family.l3HdrSize - udpHdrLen) = .ok limits := by
    generalize mtu - family.l3HdrSize - udpHdrLen = mtuPldSize at room
    have half : (3 * mtuPldSize).tdiv 2 = 3 * mtuPldSize / 2 := Int.tdiv_eq_ediv_of_nonneg (by omega)
    unfold chooseSizes
    cases pktSize with
    | less => exact ⟨_, if_neg (by simp only; omega)⟩
    | equal => exact ⟨_, if_neg (by simp only; omega)⟩
    | more => exact ⟨_, if_neg (by simp only [half]; omega)⟩
  obtain ⟨limits, chosen⟩ := chosen
  refine ⟨limits, ?_⟩
  simp only [prepare, chosen, if_neg (show ¬mtu - family.l3HdrSize - udpHdrLen ≤ 1 by omega)]
  rfl

theorem more_of_beyond {mtuPldSize sendLen : Int} (chosen : chooseSizes 0 pktSize mtuPldSize = .ok limits)
    (upper : sendLen ≤ limits.maxSize) (beyond : mtuPldSize < sendLen) : pktSize = .more := by
  cases pktSize with
  | less =>
    simp only [chooseSizes] at chosen
    split at chosen
    · cases chosen
    · cases chosen
      simp only at upper
      omega
  | equal =>
    simp only [chooseSizes] at chosen
    split at chosen
    · cases chosen
    · cases chosen
      simp only at upper
      omega
  | more => rfl

theorem full_fragment (least : (family.leastMtu : Int) ≤ mtu) :
    ((family.l3HdrSize + family.fragmentHdrSize +
      (mtu.toNat - (family.l3HdrSize + family.fragmentHdrSize)) / 8 * 8 : Nat) : Int) =
        intermediaryFragSize family mtu := by
  have room : family.l3HdrSize + udpHdrLen + 1 < mtu := by
    cases family <;> simp only [Family.leastMtu, Family.l3HdrSize, udpHdrLen] at * <;> omega
  rw [intermediaryFragSize_eq room]
  cases family <;> simp only [Family.leastMtu, Family.l3HdrSize, Family.fragmentHdrSize] at * <;> omega

theorem conforms_packetise (least : family.leastMtu ≤ mtu)
    (chosen : chooseSizes 0 pktSize (mtu - family.l3HdrSize - udpHdrLen) = .ok limits) {sendLen : Nat}
    (upper : sendLen ≤ limits.maxSize) :
    Conforms family mtu pktSize ((packetise family mtu.toNat sendLen).map Int.ofNat) := by
  by_cases single : family.l3HdrSize + (udpHdrLen + sendLen) ≤ mtu.toNat
  · simp only [packetise, if_pos single, List.map_singleton]
    exact {
      captured := List.cons_ne_nil _ _
      fits := by
        intro size member
        rw [List.mem_singleton.mp member]
        simp only [Int.ofNat_eq_natCast]
        omega
      full := by simp }
  · have more : pktSize = .more := more_of_beyond chosen upper (by omega)
    have eight : 8 ≤ mtu.toNat - (family.l3HdrSize + family.fragmentHdrSize) := by
      cases family <;> simp only [Family.leastMtu, Family.l3HdrSize, Family.fragmentHdrSize] at * <;> omega
    simp only [packetise, if_neg single, List.map_map]
    exact {
      captured := by simp [fragments_ne_nil]
      fits := by
        intro size member
        obtain ⟨carried, fragment, rfl⟩ := List.mem_map.mp member
        have fits := fragments_le eight fragment
        simp only [Function.comp, Int.ofNat_eq_natCast]
        omega
      full := by
        intro size member
        rw [← List.map_dropLast] at member
        obtain ⟨carried, fragment, rfl⟩ := List.mem_map.mp member
        right
        apply And.intro more
        rw [fragments_dropLast eight fragment]
        exact full_fragment least }

theorem sendLoop_passes_iff {hosts : Hosts} (prepared : prepare family mtu pktSize = .ok (limits, args))
    {rounds : List (Round CapturedPkt)} {captures : List (List Frame)}
    (shown : List.Forall₂ (fun round frames => round.Obtained hosts ∧ round.pkts = frames.map Frame.pkt) rounds
      captures) :
    (∃ final, test.sendLoop hosts args rounds = .ok final) ↔
      ∀ frames ∈ captures, Conforms family mtu pktSize (otherSizes family frames) := by
  obtain ⟨room, rfl, -⟩ := lt_of_prepare prepared
  exact (judges room).sendLoop_passes_iff ⟨rfl, rfl, rfl⟩ shown

theorem round_passes_iff {hosts : Hosts} {start : CbArgs} (prepared : prepare family mtu pktSize = .ok (limits, start))
    {earlier : List (Round CapturedPkt)} (passed : test.sendLoop hosts start earlier = .ok args)
    {round : Round CapturedPkt} {frames : List Frame} (obtained : round.Obtained hosts)
    (shown : round.pkts = frames.map Frame.pkt) :
    (∃ next, test.round hosts args round = .ok next) ↔ Conforms family mtu pktSize (otherSizes family frames) := by
  obtain ⟨room, rfl, -⟩ := lt_of_prepare prepared
  exact (judges room).round_passes_iff ⟨rfl, rfl, rfl⟩ passed obtained shown

/-- Whatever was captured before, and with any ICMPv6 packets among the others, a
round passes exactly if its packets conform. So the packets in which IP carries the
data of the test pass on every MTU that a link may have. -/
theorem udp_mtu_verdict (hosts : Hosts) (family : Family) (mtu : Int) (pktSize : PktSize) :
    (∀ limits start, prepare family mtu pktSize = .ok (limits, start) →
      ∀ earlier args, test.sendLoop hosts start earlier = .ok args →
      ∀ round frames, round.Obtained hosts → round.pkts = frames.map Frame.pkt →
        ((∃ next, test.round hosts args round = .ok next) ↔
          Conforms family mtu pktSize (otherSizes family frames))) ∧
    ((family.leastMtu : Int) ≤ mtu → ∃ limits start, prepare family mtu pktSize = .ok (limits, start) ∧
      ∀ earlier args, test.sendLoop hosts start earlier = .ok args →
      ∀ round frames, round.Obtained hosts → round.pkts = frames.map Frame.pkt →
        limits.minSize ≤ round.sendBuf.length → round.sendBuf.length ≤ limits.maxSize →
        otherSizes family frames = (packetise family mtu.toNat round.sendBuf.length).map Int.ofNat →
        ∃ next, test.round hosts args round = .ok next) := by
  constructor
  · intro limits start prepared earlier args passed round frames obtained shown
    exact round_passes_iff prepared passed obtained shown
  · intro least
    obtain ⟨limits, prepared⟩ := prepare_of_least least pktSize
    refine ⟨limits, _, prepared, ?_⟩
    intro earlier args passed round frames obtained shown _ upper packets
    rw [round_passes_iff prepared passed obtained shown, packets]
    obtain ⟨-, -, chosen⟩ := lt_of_prepare prepared
    exact conforms_packetise least chosen upper

/-- Two fragments over IPv6, the first one smaller than the MTU, with ICMPv6 packets around them. -/
def fragmented : List Frame := [⟨32, 58⟩, ⟨1240, 44⟩, ⟨24, 58⟩, ⟨21, 44⟩, ⟨32, 58⟩]

theorem udp_mtu_fragmented_passes :
    (∃ next, test.round ⟨"iut_rpcs", "tst_rpcs"⟩ (.start .inet6 1284 .more)
      (.smooth (List.replicate 1237 7) (fragmented.map Frame.pkt)) = .ok next) ∧
        Conforms .inet6 1284 .more [1280, 61] := by
  have sizes : packetise .inet6 1284 1237 = [1280, 61] := by
    have more : fragments 1236 1245 = 1232 :: fragments 1236 13 := fragments_more (by decide) (by decide)
    have last : fragments 1236 13 = [13] := fragments_last (by decide)
    simp [packetise, Family.l3HdrSize, Family.fragmentHdrSize, udpHdrLen, more, last]
  have prepared : prepare .inet6 1284 .more = .ok (⟨1237, 1854⟩, .start .inet6 1284 .more) := rfl
  have length : (List.replicate 1237 (7 : Byte)).length = 1237 := List.length_replicate
  generalize List.replicate 1237 (7 : Byte) = sendBuf at length
  have obtained := Round.smooth_obtained ⟨"iut_rpcs", "tst_rpcs"⟩ sendBuf (fragmented.map Frame.pkt)
  obtain ⟨accepts, carried⟩ := udp_mtu_verdict ⟨"iut_rpcs", "tst_rpcs"⟩ .inet6 1284 .more
  obtain ⟨limits, start, same, passes⟩ := carried (by decide)
  rw [prepared] at same
  cases same
  have passed := passes [] _ rfl (.smooth sendBuf (fragmented.map Frame.pkt)) fragmented obtained rfl
    (by rw [Round.smooth, length]; decide) (by rw [Round.smooth, length]; decide)
    (by rw [Round.smooth, length]; exact congrArg (List.map Int.ofNat) sizes.symm)
  exact ⟨passed, (accepts _ _ prepared [] _ rfl _ fragmented obtained rfl).mp passed⟩

end NetDrv.Mtu.Udp
