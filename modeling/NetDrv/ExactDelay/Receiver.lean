import NetDrv.ExactDelay.Sender

/-! The receiving agent. It keeps the last identifier as an `int64_t` that starts at
minus one and compares it once as a signed and once as an unsigned number, so the two
comparisons together accept exactly the identifiers that are larger as signed numbers. -/

namespace NetDrv.ExactDelay
open ByteOrder

inductive PollResult where
  | failed (errno : Nat)
  | timeout
  | ready (revents : BitVec 16)
  deriving DecidableEq, Repr

def pollin : BitVec 16 := 0x001

/-- What `recv()` copied into the payload buffer, at most `payloadSize` bytes of a datagram. -/
inductive RecvResult where
  | failed (errno : Nat)
  | data (bytes : List Byte)
  deriving DecidableEq, Repr

/-- One turn of the receiving loop: the answer of `poll()` and, if it is used, that of `recv()`. -/
structure RecvTurn where
  poll : PollResult
  recv : RecvResult
  deriving DecidableEq, Repr

structure RpcReturn where
  retval : BitVec 64
  error : Option RpcError
  deriving DecidableEq, Repr

def RpcReturn.fail (rc : TeErrno) (message : String) : RpcReturn := ⟨-1, some ⟨rc, message⟩⟩

/-- The loop of `recv_pkts_exact_delay()`; `none` while it still waits for `poll()`. -/
def recvLoop (host : Endian) : BitVec 64 → BitVec 64 → List RecvTurn → Option RpcReturn
  | _, _, [] => none
  | lastId, pktsCount, turn :: turns =>
    match turn.poll with
    | .failed errno => some (.fail (teRc .taUnix (.os errno)) "poll() failed")
    | .timeout => some ⟨pktsCount, none⟩
    | .ready revents =>
      if revents ≠ pollin then some (.fail (teRc .taUnix .efail) "poll() returned unexpected events")
      else
        match turn.recv with
        | .failed errno => some (.fail (teRc .taUnix (.os errno)) "recv() failed")
        | .data bytes =>
          if bytes.length ≠ payloadSize then
            some (.fail (teRc .taUnix .emsgsize) "recv() returned incorrect value")
          else
            let id := recvId host bytes
            if id.toInt < lastId.toInt then
              some (.fail (teRc .taUnix .eilseq) "received packet is out of order")
            else if id = lastId then
              some (.fail (teRc .taUnix .eilseq) "received packet is a duplicate")
            else recvLoop host id (pktsCount + 1) turns

def recvPktsExactDelay (host : Endian) (turns : List RecvTurn) : Option RpcReturn :=
  recvLoop host (-1) 0 turns

def delivery (bytes : List Byte) : RecvTurn := ⟨.ready pollin, .data bytes⟩

/-- All packets arrive, then `poll()` times out. -/
def deliveries (pkts : List (List Byte)) : List RecvTurn :=
  pkts.map delivery ++ [⟨.timeout, .data []⟩]

def recvRetval (host : Endian) (pkts : List (List Byte)) : Option Int :=
  (recvPktsExactDelay host (deliveries pkts)).map (fun out => out.retval.toInt)

/-- Every identifier is larger than the one before it as a signed number. -/
def Rising (lastId : BitVec 64) (ids : List (BitVec 64)) : Prop :=
  (lastId :: ids).IsChain (fun a b => a.toInt < b.toInt)

instance (lastId : BitVec 64) (ids : List (BitVec 64)) : Decidable (Rising lastId ids) :=
  inferInstanceAs (Decidable (List.IsChain _ _))

theorem larger_iff (id lastId : BitVec 64) :
    ¬id.toInt < lastId.toInt ∧ id ≠ lastId ↔ lastId.toInt < id.toInt := by
  constructor
  · rintro ⟨notLess, different⟩
    have distinct : id.toInt ≠ lastId.toInt := fun same => different (BitVec.eq_of_toInt_eq same)
    omega
  · intro less
    refine ⟨by omega, ?_⟩
    rintro rfl
    omega

theorem rising_cons (lastId id : BitVec 64) (ids : List (BitVec 64)) :
    Rising lastId (id :: ids) ↔ lastId.toInt < id.toInt ∧ Rising id ids := List.isChain_cons_cons

theorem recvLoop_delivery (host : Endian) (lastId count : BitVec 64) (bytes : List Byte)
    (turns : List RecvTurn) (size : bytes.length = payloadSize) :
    (recvLoop host lastId count (delivery bytes :: turns)).map RpcReturn.retval =
      if lastId.toInt < (recvId host bytes).toInt then
        (recvLoop host (recvId host bytes) (count + 1) turns).map RpcReturn.retval
      else some (-1) := by
  have order := larger_iff (recvId host bytes) lastId
  simp only [recvLoop, delivery, ne_eq, not_true_eq_false, if_false, size]
  by_cases larger : lastId.toInt < (recvId host bytes).toInt
  · obtain ⟨notLess, different⟩ := order.mpr larger
    rw [if_neg notLess, if_neg different, if_pos larger]
  · rw [if_neg larger]
    split
    · rfl
    · next notLess =>
      rw [if_pos (by by_contra different; exact larger (order.mp ⟨notLess, different⟩))]
      rfl

theorem recvLoop_deliveries (host : Endian) (pkts : List (List Byte)) (lastId count : BitVec 64)
    (sized : ∀ bytes ∈ pkts, bytes.length = payloadSize) :
    (recvLoop host lastId count (deliveries pkts)).map RpcReturn.retval =
      some (if Rising lastId (pkts.map (recvId host)) then count + BitVec.ofNat 64 pkts.length else -1) := by
  induction pkts generalizing lastId count with
  | nil => simp [deliveries, recvLoop, Rising]
  | cons bytes pkts ih =>
    have total : count + 1 + BitVec.ofNat 64 pkts.length = count + BitVec.ofNat 64 (pkts.length + 1) := by
      rw [BitVec.ofNat_add, BitVec.add_assoc, BitVec.add_comm 1]
      rfl
    have step := recvLoop_delivery host lastId count bytes (deliveries pkts) (sized bytes (by simp))
    rw [ih _ _ (fun other member => sized other (List.mem_cons_of_mem _ member)), total] at step
    apply step.trans
    simp only [List.map_cons, rising_cons, List.length_cons]
    by_cases larger : lastId.toInt < (recvId host bytes).toInt
    · simp only [larger, true_and, if_true]
    · simp only [larger, false_and, if_false]

/-- Identifiers which are strictly increasing and all below 2^63. -/
def Accepted (ids : List (BitVec 64)) : Prop :=
  ids.Pairwise (fun a b => a.toNat < b.toNat) ∧ ∀ id ∈ ids, id.toNat < 2 ^ 63

instance (ids : List (BitVec 64)) : Decidable (Accepted ids) :=
  inferInstanceAs (Decidable (_ ∧ _))

theorem nonneg_iff (id : BitVec 64) : (-1 : BitVec 64).toInt < id.toInt ↔ id.toNat < 2 ^ 63 := by
  have start : (-1 : BitVec 64).toInt = -1 := by decide
  have bound := id.isLt
  rw [start, BitVec.toInt_eq_toNat_cond]
  split <;> omega

theorem rising_iff_accepted (ids : List (BitVec 64)) : Rising (-1) ids ↔ Accepted ids := by
  have small : ∀ id : BitVec 64, id.toNat < 2 ^ 63 → id.toInt = id.toNat := by
    intro id bound
    exact BitVec.toInt_eq_toNat_of_lt (by omega)
  simp only [Rising, Accepted, List.isChain_iff_pairwise, List.pairwise_cons, nonneg_iff]
  constructor
  · rintro ⟨bounded, ordered⟩
    refine ⟨ordered.imp_of_mem ?_, bounded⟩
    intro a b left right less
    rw [small a (bounded a left), small b (bounded b right)] at less
    omega
  · rintro ⟨ordered, bounded⟩
    refine ⟨bounded, ordered.imp_of_mem ?_⟩
    intro a b left right less
    rw [small a (bounded a left), small b (bounded b right)]
    omega

theorem increasing_length_le {values : List Nat} {n : Nat} (increasing : values.Pairwise (· < ·))
    (bounded : ∀ value ∈ values, value < n) : values.length ≤ n := by
  have distinct : values.Nodup := increasing.imp (fun less => ne_of_lt less)
  have covered : values.toFinset ⊆ Finset.range n := by
    intro value member
    exact Finset.mem_range.mpr (bounded value (List.mem_toFinset.mp member))
  have count := Finset.card_le_card covered
  rwa [List.toFinset_card_of_nodup distinct, Finset.card_range] at count

theorem Accepted.length_le {ids : List (BitVec 64)} (accepted : Accepted ids) : ids.length ≤ 2 ^ 63 := by
  have increasing : (ids.map BitVec.toNat).Pairwise (· < ·) := List.pairwise_map.mpr accepted.1
  have bounded : ∀ value ∈ ids.map BitVec.toNat, value < 2 ^ 63 := by
    intro value member
    obtain ⟨id, present, rfl⟩ := List.mem_map.mp member
    exact accepted.2 id present
  simpa using increasing_length_le increasing bounded

/-- The number of accepted packets, as the `int64_t` the function returns. -/
def countReturned (n : Nat) : Int := if n < 2 ^ 63 then n else -2 ^ 63

theorem recvRetval_eq (host : Endian) (pkts : List (List Byte))
    (sized : ∀ bytes ∈ pkts, bytes.length = payloadSize) :
    recvRetval host pkts =
      some (if Accepted (pkts.map (recvId host)) then countReturned pkts.length else -1) := by
  have loop := recvLoop_deliveries host pkts (-1) 0 sized
  have signed : recvRetval host pkts =
      ((recvPktsExactDelay host (deliveries pkts)).map RpcReturn.retval).map BitVec.toInt := by
    rw [Option.map_map]
    rfl
  rw [signed, recvPktsExactDelay, loop, Option.map_some]
  simp only [rising_iff_accepted]
  by_cases accepted : Accepted (pkts.map (recvId host))
  · have most : pkts.length ≤ 2 ^ 63 := by simpa using accepted.length_le
    rw [if_pos accepted, if_pos accepted, countReturned]
    by_cases small : pkts.length < 2 ^ 63
    · rw [if_pos small, zero_add, count_toInt small]
    · have full : pkts.length = 2 ^ 63 := by omega
      rw [if_neg small, full]
      decide
  · rw [if_neg accepted, if_neg accepted]
    decide

theorem recvRetval_ids (sender receiver : Endian) (ids : List (BitVec 64)) :
    recvRetval receiver (ids.map (fun id => (sendPayload sender id).bytes sender)) =
      some (if Accepted ids then countReturned ids.length else -1) := by
  rw [recvRetval_eq]
  · simp [Function.comp_def, recvId_sendPayload]
  · intro bytes member
    obtain ⟨id, -, rfl⟩ := List.mem_map.mp member
    exact sendPayload_length sender id

theorem sent_length_lt (host : Endian) (inp : SendIn) (send : Nat → SendResult) (start : Timeval)
    (readings : List (Except TeErrno Timeval)) (positive : 0 < inp.delay.toNat) :
    (sendPktsExactDelay host inp send start readings).sent.length < 2 ^ 63 := by
  obtain ⟨last, st, pace, same⟩ := sendPktsExactDelay_onPace host inp send start readings positive
  have count := pace.length_le positive
  have time := inp.time2run.isLt
  have := Nat.div_le_self (horizon inp) inp.delay.toNat
  unfold horizon at this count
  rw [← same]
  omega

/-- The payload of the packet at position `n` of a run. -/
def SendRun.payloadAt (run : SendRun) (n : Nat) : List Byte := (run.sent.map Sent.pld).getD n []

theorem payloadAt_eq {host : Endian} {run : SendRun} (numbered : Numbered host run.sent) {n : Nat}
    (inside : n < run.sent.length) :
    run.payloadAt n = (sendPayload host (BitVec.ofNat 64 n)).bytes host := by
  unfold SendRun.payloadAt
  rw [numbered]
  simp [List.getD_eq_getElem?_getD, inside]

theorem accepted_positions {arrived : List Nat} (bounded : ∀ n ∈ arrived, n < 2 ^ 63) :
    Accepted (arrived.map (BitVec.ofNat 64)) ↔ arrived.Pairwise (· < ·) := by
  have value : ∀ n ∈ arrived, (BitVec.ofNat 64 n).toNat = n := by
    intro n member
    have := bounded n member
    rw [BitVec.toNat_ofNat]
    omega
  simp only [Accepted, List.pairwise_map]
  constructor
  · rintro ⟨ordered, -⟩
    apply ordered.imp_of_mem
    intro a b left right less
    rwa [value a left, value b right] at less
  · intro ordered
    refine ⟨ordered.imp_of_mem ?_, ?_⟩
    · intro a b left right less
      rwa [value a left, value b right]
    · intro id member
      obtain ⟨n, present, rfl⟩ := List.mem_map.mp member
      rw [value n present]
      exact bounded n present

/-- The receiver's verdict, first on identifiers in general and then on what a channel makes of a
run of the sender: `arrived` lists the positions of the packets in the order they are delivered, so
a channel that only drops packets makes it increasing, and a duplicate or a reordered pair is
exactly what keeps it from being so. -/
theorem recv_verdict (sender receiver : Endian) :
    (∀ ids : List (BitVec 64),
      recvRetval receiver (ids.map (fun id => (sendPayload sender id).bytes sender)) =
        some (if ids.Pairwise (fun a b => a.toNat < b.toNat) ∧ ∀ id ∈ ids, id.toNat < 2 ^ 63 then
          if ids.length < 2 ^ 63 then (ids.length : Int) else -2 ^ 63
        else -1)) ∧
    ∀ (inp : SendIn) (send : Nat → SendResult) (start : Timeval) (readings : List (Except TeErrno Timeval)),
      let run := sendPktsExactDelay sender inp send start readings
      (0 < inp.delay.toNat ∨ run.sent.length < 2 ^ 63) →
      ∀ arrived : List Nat, (∀ n ∈ arrived, n < run.sent.length) →
        recvRetval receiver (arrived.map run.payloadAt) =
          some (if arrived.Pairwise (· < ·) then (arrived.length : Int) else -1) := by
  refine ⟨recvRetval_ids sender receiver, ?_⟩
  intro inp send start readings run short arrived inside
  have count : run.sent.length < 2 ^ 63 :=
    short.elim (sent_length_lt sender inp send start readings) id
  obtain ⟨numbered, -⟩ := sendPktsExactDelay_counted sender inp send start readings
  have bounded : ∀ n ∈ arrived, n < 2 ^ 63 := fun n member => (inside n member).trans count
  have payloads : arrived.map run.payloadAt =
      (arrived.map (BitVec.ofNat 64)).map (fun id => (sendPayload sender id).bytes sender) := by
    rw [List.map_map]
    exact List.map_congr_left (fun n member => payloadAt_eq numbered (inside n member))
  rw [payloads, recvRetval_ids]
  simp only [accepted_positions bounded, List.length_map]
  by_cases ordered : arrived.Pairwise (· < ·)
  · have fewer := increasing_length_le ordered inside
    rw [if_pos ordered, if_pos ordered, countReturned, if_pos (by omega)]
  · rw [if_neg ordered, if_neg ordered]

/-- Two of three packets arrive in order, or in the wrong order. -/
theorem recv_verdict_of_three_sent :
    let run := sendPktsExactDelay .little ⟨10, 1⟩ (fun _ => .wrote payloadSize) ⟨7, 0⟩
      [.ok ⟨7, 11⟩, .ok ⟨7, 21⟩, .ok ⟨7, 31⟩]
    run.sent.length = 3 ∧ recvRetval .big ([0, 2].map run.payloadAt) = some 2 ∧
      recvRetval .big ([2, 0].map run.payloadAt) = some (-1) :=
  ⟨by decide,
    (recv_verdict .little .big).2 ⟨10, 1⟩ _ ⟨7, 0⟩ _ (.inl (by decide)) [0, 2] (by decide),
    (recv_verdict .little .big).2 ⟨10, 1⟩ _ ⟨7, 0⟩ _ (.inl (by decide)) [2, 0] (by decide)⟩

/-- The identifiers 0, 1, ..., `n - 1`. -/
def firstIds (n : Nat) : List (BitVec 64) := (List.range n).map (BitVec.ofNat 64)

theorem firstIds_accepted {n : Nat} (small : n ≤ 2 ^ 63) : Accepted (firstIds n) := by
  apply (accepted_positions ?_).mpr List.pairwise_lt_range
  intro value member
  have := List.mem_range.mp member
  omega

/-- All 2^63 acceptable identifiers in order: the count no longer fits into `int64_t`. -/
theorem recv_verdict_wraps :
    (firstIds (2 ^ 63)).length = 2 ^ 63 ∧
    (firstIds (2 ^ 63)).Pairwise (fun a b => a.toNat < b.toNat) ∧
    (∀ id ∈ firstIds (2 ^ 63), id.toNat < 2 ^ 63) ∧
    recvRetval .little ((firstIds (2 ^ 63)).map (fun id => (sendPayload .little id).bytes .little)) =
      some (-2 ^ 63) := by
  have size : (firstIds (2 ^ 63)).length = 2 ^ 63 := by simp [firstIds]
  have accepted := firstIds_accepted (le_refl (2 ^ 63))
  refine ⟨size, accepted.1, accepted.2, ?_⟩
  rw [recvRetval_ids, if_pos accepted, size, countReturned, if_neg (lt_irrefl _)]

end NetDrv.ExactDelay
