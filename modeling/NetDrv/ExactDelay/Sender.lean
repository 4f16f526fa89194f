import NetDrv.ExactDelay.Payload
import NetDrv.Lib.Slots

/-! The sending agent. It aims at the moments d, 2d, 3d, ... after its start and
recomputes the next one from the moment of the last packet, so a late packet skips
the moments it missed. The clock is an arbitrary sequence of readings. -/

namespace NetDrv.ExactDelay
open ByteOrder Slots

structure Timeval where
  tvSec : Int
  tvUsec : Int
  deriving DecidableEq, Repr

/-- The value an integer takes in a 64-bit `long int`. -/
def toLong (x : Int) : Int := x.bmod (2 ^ 64)

/-- `TIMEVAL_SUB()`, in microseconds. -/
def timevalSub (a b : Timeval) : Int :=
  toLong ((a.tvSec - b.tvSec) * 1000000 + (a.tvUsec - b.tvUsec))

def teUs2ms (us : Int) : Int := us.tdiv 1000

/-- `tarpc_net_drv_send_pkts_exact_delay_in` without the socket. -/
structure SendIn where
  delay : BitVec 32
  time2run : BitVec 32
  deriving DecidableEq, Repr

inductive SendResult where
  | failed (errno : Nat)
  | wrote (count : Nat)
  deriving DecidableEq, Repr

/-- A packet handed over to the socket, with the clock reading it was sent at. -/
structure Sent where
  now : Timeval
  pld : List Byte
  deriving DecidableEq, Repr

structure SendState where
  id : BitVec 64
  timeDiff : Int
  expDiff : Int
  sent : List Sent
  deriving DecidableEq, Repr

inductive SendStatus where
  /-- Still in the busy loop when the readings ran out. -/
  | waiting
  | returned (retval : BitVec 64) (error : Option RpcError)
  | fatal (rc : TeErrno)
  deriving DecidableEq, Repr

structure SendRun where
  sent : List Sent
  status : SendStatus
  deriving DecidableEq, Repr

/-- The head of the outer loop: the next sending moment. -/
def nextMoment (inp : SendIn) (st : SendState) : SendState :=
  if 0 < inp.delay.toNat then
    { st with expDiff := toLong ((st.timeDiff.tdiv inp.delay.toNat + 1) * inp.delay.toNat) }
  else st

section
variable (host : Endian) (inp : SendIn) (send : Nat → SendResult) (start : Timeval)

/-- Both loops of `send_pkts_exact_delay()`, one clock reading of the inner one at a time.
`send n` is the outcome of the call to `send()` made after `n` packets went out. -/
def sendLoop : SendState → List (Except TeErrno Timeval) → SendRun
  | st, [] => ⟨st.sent, .waiting⟩
  | st, .error rc :: _ => ⟨st.sent, .fatal rc⟩
  | st, .ok now :: readings =>
    let timeDiff := timevalSub now start
    if timeDiff > st.expDiff then
      if teUs2ms timeDiff > inp.time2run.toNat then ⟨st.sent, .returned st.id none⟩
      else
        let pld := (sendPayload host st.id).bytes host
        match send st.sent.length with
        | .failed errno =>
          ⟨st.sent, .returned (-1) (some ⟨teRc .taUnix (.os errno), "send() failed"⟩)⟩
        | .wrote count =>
          if count ≠ payloadSize then
            ⟨st.sent, .returned (-1) (some ⟨teRc .taUnix .emsgsize, "send() returned incorrect value"⟩)⟩
          else
            sendLoop (nextMoment inp
              { st with id := st.id + 1, timeDiff := timeDiff, sent := st.sent ++ [⟨now, pld⟩] }) readings
    else sendLoop { st with timeDiff := timeDiff } readings

def sendStart : SendState := nextMoment inp ⟨0, 0, 0, []⟩

/-- `send_pkts_exact_delay()`, started at the clock reading `start`. -/
def sendPktsExactDelay (readings : List (Except TeErrno Timeval)) : SendRun :=
  sendLoop host inp send start (sendStart inp) readings

end

/-- Microseconds between the start and the moment a packet was sent. -/
def Sent.offset (start : Timeval) (pkt : Sent) : Int := timevalSub pkt.now start

def offsets (start : Timeval) (sent : List Sent) : List Int := sent.map (Sent.offset start)

theorem count_toInt {n : Nat} (small : n < 2 ^ 63) : (BitVec.ofNat 64 n).toInt = n := by
  have value : (BitVec.ofNat 64 n).toNat = n := by
    rw [BitVec.toNat_ofNat]
    omega
  rw [BitVec.toInt_eq_toNat_of_lt (by omega), value]

/-- The packets on the wire are those of the identifiers 0, 1, 2, ... -/
def Numbered (host : Endian) (sent : List Sent) : Prop :=
  sent.map Sent.pld =
    (List.range sent.length).map (fun n => (sendPayload host (BitVec.ofNat 64 n)).bytes host)

theorem Numbered.concat {host : Endian} {sent : List Sent} (numbered : Numbered host sent) (now : Timeval) :
    Numbered host (sent ++ [⟨now, (sendPayload host (BitVec.ofNat 64 sent.length)).bytes host⟩]) := by
  unfold Numbered at *
  rw [List.length_append, List.length_singleton, List.range_succ, List.map_append, List.map_append, numbered]
  rfl

/-- The identifier counts the packets sent so far, modulo 2^64. -/
structure Counted (host : Endian) (st : SendState) : Prop where
  id : st.id = BitVec.ofNat 64 st.sent.length
  numbered : Numbered host st.sent

@[simp] theorem nextMoment_id (inp : SendIn) (st : SendState) : (nextMoment inp st).id = st.id := by
  unfold nextMoment
  split <;> rfl

@[simp] theorem nextMoment_sent (inp : SendIn) (st : SendState) : (nextMoment inp st).sent = st.sent := by
  unfold nextMoment
  split <;> rfl

theorem sendLoop_invariant (host : Endian) (inp : SendIn) (send : Nat → SendResult) (start : Timeval)
    (Inv : SendState → Prop)
    (wait : ∀ st time, Inv st → time ≤ st.expDiff → Inv { st with timeDiff := time })
    (advance : ∀ st now, Inv st → st.expDiff < timevalSub now start →
      teUs2ms (timevalSub now start) ≤ inp.time2run.toNat →
      Inv (nextMoment inp { st with
        id := st.id + 1
        timeDiff := timevalSub now start
        sent := st.sent ++ [⟨now, (sendPayload host st.id).bytes host⟩] }))
    (readings : List (Except TeErrno Timeval)) (st : SendState) (initial : Inv st) :
    ∃ last, Inv last ∧ (sendLoop host inp send start st readings).sent = last.sent ∧
      ∀ retval, (sendLoop host inp send start st readings).status = .returned retval none →
        retval = last.id := by
  induction readings generalizing st with
  | nil => exact ⟨st, initial, rfl, by intro retval absurd; cases absurd⟩
  | cons reading readings ih =>
    cases reading with
    | error rc => exact ⟨st, initial, rfl, by intro retval absurd; cases absurd⟩
    | ok now =>
      unfold sendLoop
      by_cases late : timevalSub now start > st.expDiff
      · simp only [if_pos late]
        by_cases expired : teUs2ms (timevalSub now start) > inp.time2run.toNat
        · simp only [if_pos expired]
          refine ⟨st, initial, rfl, ?_⟩
          intro retval same
          cases same
          rfl
        · simp only [if_neg expired]
          cases outcome : send st.sent.length with
          | failed errno => exact ⟨st, initial, rfl, by intro retval absurd; cases absurd⟩
          | wrote count =>
            by_cases wrong : count ≠ payloadSize
            · simp only [if_pos wrong]
              exact ⟨st, initial, rfl, by intro retval absurd; cases absurd⟩
            · simp only [if_neg wrong]
              exact ih _ (advance st now initial late (not_lt.mp expired))
      · simp only [if_neg late]
        exact ih _ (wait st _ initial (not_lt.mp late))

theorem counted_advance {host : Endian} {inp : SendIn} {st : SendState} (now : Timeval) (time : Int)
    (counted : Counted host st) :
    Counted host (nextMoment inp { st with
      id := st.id + 1
      timeDiff := time
      sent := st.sent ++ [⟨now, (sendPayload host st.id).bytes host⟩] }) := by
  constructor
  · simp only [nextMoment_id, nextMoment_sent, List.length_append, List.length_singleton, counted.id]
    rw [BitVec.ofNat_add]
    rfl
  · simp only [nextMoment_sent]
    rw [counted.id]
    exact counted.numbered.concat now

theorem sendPktsExactDelay_counted (host : Endian) (inp : SendIn) (send : Nat → SendResult)
    (start : Timeval) (readings : List (Except TeErrno Timeval)) :
    Numbered host (sendPktsExactDelay host inp send start readings).sent ∧
      ∀ retval, (sendPktsExactDelay host inp send start readings).status = .returned retval none →
        retval = BitVec.ofNat 64 (sendPktsExactDelay host inp send start readings).sent.length := by
  have initial : Counted host (sendStart inp) := by
    constructor <;> simp [sendStart, Numbered]
  obtain ⟨last, counted, sent, result⟩ := sendLoop_invariant host inp send start
    (Counted host) (fun _ _ counted _ => ⟨counted.id, counted.numbered⟩)
    (fun _ now counted _ _ => counted_advance now _ counted) readings _ initial
  refine ⟨?_, ?_⟩
  · rw [sendPktsExactDelay, sent]
    exact counted.numbered
  · intro retval returned
    rw [sendPktsExactDelay, sent, ← counted.id]
    exact result retval returned

/-- The last microsecond that still lies within `time2run` milliseconds. -/
def horizon (inp : SendIn) : Nat := inp.time2run.toNat * 1000 + 999

theorem toLong_of_lt {x : Int} (nonneg : 0 ≤ x) (small : x < 2 ^ 63) : toLong x = x :=
  Int.bmod_eq_of_le (by omega) (by omega)

theorem le_horizon {inp : SendIn} {time : Int} (nonneg : 0 ≤ time)
    (running : teUs2ms time ≤ inp.time2run.toNat) : time ≤ horizon inp := by
  rw [teUs2ms, Int.tdiv_eq_ediv_of_nonneg nonneg] at running
  unfold horizon
  omega

theorem nextMoment_expDiff (inp : SendIn) (st : SendState) (positive : 0 < inp.delay.toNat)
    (nonneg : 0 ≤ st.timeDiff) (running : st.timeDiff ≤ horizon inp) :
    (nextMoment inp st).expDiff = (slot inp.delay.toNat st.timeDiff + 1) * inp.delay.toNat := by
  have width : (0 : Int) < inp.delay.toNat := by exact_mod_cast positive
  have low := ((slot_eq_iff width).mp (rfl : slot inp.delay.toNat st.timeDiff = _)).1
  have start : 0 ≤ slot inp.delay.toNat st.timeDiff := Int.ediv_nonneg nonneg width.le
  have delay := inp.delay.isLt
  have time := inp.time2run.isLt
  have nonneg' : 0 ≤ (slot inp.delay.toNat st.timeDiff + 1) * (inp.delay.toNat : Int) := by positivity
  simp only [nextMoment, if_pos positive, Int.tdiv_eq_ediv_of_nonneg nonneg]
  apply toLong_of_lt nonneg'
  unfold horizon at running
  rw [add_mul, one_mul]
  omega

/-- `last` is the slot of the last packet, zero before the first one: the next moment is the end
of that slot, and everything sent so far lies in slots up to it. -/
structure OnPace (inp : SendIn) (start : Timeval) (last : Int) (st : SendState) : Prop where
  expDiff : st.expDiff = (last + 1) * inp.delay.toNat
  nonneg : 0 ≤ last
  paced : Paced inp.delay.toNat (offsets start st.sent)
  upTo : ∀ time ∈ offsets start st.sent, slot inp.delay.toNat time ≤ last
  first : ∀ time ∈ offsets start st.sent, 1 ≤ slot inp.delay.toNat time
  running : ∀ time ∈ offsets start st.sent, time ≤ horizon inp

theorem offsets_concat (start : Timeval) (sent : List Sent) (pkt : Sent) :
    offsets start (sent ++ [pkt]) = offsets start sent ++ [pkt.offset start] := by
  simp [offsets]

theorem onPace_advance {host : Endian} {inp : SendIn} {start : Timeval} {last : Int} {st : SendState}
    (positive : 0 < inp.delay.toNat) (pace : OnPace inp start last st) (now : Timeval)
    (late : st.expDiff < timevalSub now start)
    (running : teUs2ms (timevalSub now start) ≤ inp.time2run.toNat) :
    OnPace inp start (slot inp.delay.toNat (timevalSub now start)) (nextMoment inp { st with
      id := st.id + 1
      timeDiff := timevalSub now start
      sent := st.sent ++ [⟨now, (sendPayload host st.id).bytes host⟩] }) := by
  have width : (0 : Int) < inp.delay.toNat := by exact_mod_cast positive
  have past : (last + 1) * inp.delay.toNat < timevalSub now start := pace.expDiff ▸ late
  have later : last + 1 ≤ slot inp.delay.toNat (timevalSub now start) :=
    Int.le_ediv_of_mul_le width past.le
  have start' : 0 ≤ (last + 1) * (inp.delay.toNat : Int) := by
    have := pace.nonneg
    positivity
  have nonneg : 0 ≤ timevalSub now start := by omega
  have limit := le_horizon nonneg running
  have zero := pace.nonneg
  refine ⟨nextMoment_expDiff inp _ positive nonneg limit, by omega, ?_, ?_, ?_, ?_⟩ <;>
    simp only [nextMoment_sent, offsets_concat, Sent.offset]
  · apply pace.paced.concat
    intro earlier member
    have := pace.upTo earlier member
    omega
  · simp only [List.forall_mem_append, List.forall_mem_singleton]
    refine ⟨fun time member => ?_, le_rfl⟩
    have := pace.upTo time member
    omega
  · simp only [List.forall_mem_append, List.forall_mem_singleton]
    exact ⟨pace.first, by omega⟩
  · simp only [List.forall_mem_append, List.forall_mem_singleton]
    exact ⟨pace.running, limit⟩

theorem onPace_start (inp : SendIn) (start : Timeval) (positive : 0 < inp.delay.toNat) :
    OnPace inp start 0 (sendStart inp) := by
  have moment := nextMoment_expDiff inp ⟨0, 0, 0, []⟩ positive le_rfl (Int.natCast_nonneg _)
  have zero : slot inp.delay.toNat 0 = 0 := Int.zero_ediv _
  rw [zero] at moment
  refine ⟨moment, le_rfl, ?_, ?_, ?_, ?_⟩ <;> simp [sendStart, offsets, Paced]

theorem sendPktsExactDelay_onPace (host : Endian) (inp : SendIn) (send : Nat → SendResult)
    (start : Timeval) (readings : List (Except TeErrno Timeval)) (positive : 0 < inp.delay.toNat) :
    ∃ last st, OnPace inp start last st ∧
      st.sent = (sendPktsExactDelay host inp send start readings).sent := by
  obtain ⟨st, ⟨last, pace⟩, sent, -⟩ := sendLoop_invariant host inp send start
    (fun st => ∃ last, OnPace inp start last st)
    (fun _ _ ⟨last, pace⟩ _ => ⟨last, pace.expDiff, pace.nonneg, pace.paced, pace.upTo, pace.first, pace.running⟩)
    (fun _ now ⟨_, pace⟩ late running => ⟨_, onPace_advance positive pace now late running⟩)
    readings _ ⟨0, onPace_start inp start positive⟩
  exact ⟨last, st, pace, sent.symm⟩

theorem OnPace.length_le {inp : SendIn} {start : Timeval} {last : Int} {st : SendState}
    (positive : 0 < inp.delay.toNat) (pace : OnPace inp start last st) :
    st.sent.length ≤ horizon inp / inp.delay.toNat := by
  have width : (0 : Int) < inp.delay.toNat := by exact_mod_cast positive
  have bound : ∀ time ∈ offsets start st.sent,
      slot inp.delay.toNat time ≤ ((horizon inp / inp.delay.toNat : Nat) : Int) := by
    intro time member
    have := slot_mono width (pace.running time member)
    simpa [slot] using this
  simpa [offsets] using pace.paced.length_le pace.first bound

theorem sendLoop_no_error {host : Endian} {inp : SendIn} {send : Nat → SendResult} {start : Timeval}
    (succeeds : ∀ n, send n = .wrote payloadSize) (readings : List (Except TeErrno Timeval)) (st : SendState)
    (retval : BitVec 64) (error : Option RpcError)
    (returned : (sendLoop host inp send start st readings).status = .returned retval error) :
    error = none := by
  induction readings generalizing st with
  | nil => cases returned
  | cons reading readings ih =>
    cases reading with
    | error rc => cases returned
    | ok now =>
      unfold sendLoop at returned
      simp only [succeeds, ne_eq, not_true_eq_false, if_false] at returned
      split at returned
      · split at returned
        · cases returned
          rfl
        · exact ih _ returned
      · exact ih _ returned

/-- No burst, whatever the clock readings: at most one packet for each slot of `delay`
microseconds, none in the first one, none after the run time, and the count returned is the
number of packets. -/
theorem send_pacing (host : Endian) (inp : SendIn) (send : Nat → SendResult) (start : Timeval)
    (readings : List (Except TeErrno Timeval)) (positive : 0 < inp.delay.toNat)
    (succeeds : ∀ n, send n = .wrote payloadSize) :
    let run := sendPktsExactDelay host inp send start readings
    (offsets start run.sent).Pairwise (· < ·) ∧
    (∀ k : Int, ((offsets start run.sent).filter (fun time =>
      k * inp.delay.toNat ≤ time ∧ time < (k + 1) * inp.delay.toNat)).length ≤ 1) ∧
    (∀ time ∈ offsets start run.sent, inp.delay.toNat ≤ time) ∧
    (∀ time ∈ offsets start run.sent, time ≤ inp.time2run.toNat * 1000 + 999) ∧
    run.sent.map Sent.pld = (List.range run.sent.length).map
      (fun n => (sendPayload host (BitVec.ofNat 64 n)).bytes host) ∧
    run.sent.length ≤ (inp.time2run.toNat * 1000 + 999) / inp.delay.toNat ∧
    ∀ retval error, run.status = .returned retval error →
      error = none ∧ retval.toInt = run.sent.length := by
  intro run
  have width : (0 : Int) < inp.delay.toNat := by exact_mod_cast positive
  obtain ⟨last, st, pace, same⟩ := sendPktsExactDelay_onPace host inp send start readings positive
  obtain ⟨numbered, counted⟩ := sendPktsExactDelay_counted host inp send start readings
  have count := pace.length_le positive
  obtain ⟨_, _, paced, _, first, running⟩ := pace
  rw [same] at count paced first running
  refine ⟨paced.increasing width, paced.one_per_slot width, ?_, ?_, numbered, count, ?_⟩
  · intro time member
    have low := ((slot_eq_iff width).mp (rfl : slot inp.delay.toNat time = _)).1
    have := Int.mul_le_mul_of_nonneg_right (first time member) width.le
    omega
  · intro time member
    have := running time member
    unfold horizon at this
    omega
  · intro retval error returned
    have none := sendLoop_no_error succeeds readings _ retval error returned
    subst none
    refine ⟨rfl, ?_⟩
    have small : run.sent.length < 2 ^ 63 := by
      have time := inp.time2run.isLt
      have := Nat.div_le_self (horizon inp) inp.delay.toNat
      unfold horizon at this count
      change run.sent.length ≤ _ at count
      omega
    rw [counted retval returned]
    exact count_toInt small

/-- A clock that stalls, jumps over three slots and goes backwards. -/
theorem send_pacing_unsteady_clock :
    let run := sendPktsExactDelay .little ⟨10, 1⟩ (fun _ => .wrote payloadSize) ⟨7, 0⟩
      [.ok ⟨7, 10⟩, .ok ⟨7, 10⟩, .ok ⟨7, 45⟩, .ok ⟨7, 3⟩, .ok ⟨7, 51⟩, .ok ⟨8, 0⟩]
    (offsets ⟨7, 0⟩ run.sent).Pairwise (· < ·) ∧ offsets ⟨7, 0⟩ run.sent = [45, 51] ∧
      run.status = .returned 2 none :=
  ⟨(send_pacing .little ⟨10, 1⟩ (fun _ => .wrote payloadSize) ⟨7, 0⟩ _ (by decide) (fun _ => rfl)).1,
    by decide, by decide⟩

end NetDrv.ExactDelay
