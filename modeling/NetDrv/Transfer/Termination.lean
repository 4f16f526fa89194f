import NetDrv.Transfer.DataCheck

/-! When the receive loop ends, and what the data check returns then. The loop goes on
as long as the socket is readable, and a closed connection is readable for ever: each
`recv()` then returns no bytes, and a loop that still waits for some never ends. -/

namespace NetDrv.Transfer
open Loop

variable {call : Call} {receiver : Receiver} {p : Progress}

namespace Receiver

def Truncates (receiver : Receiver) (len : Nat) : Prop :=
  ∀ n gathered, receiver.received n = some gathered → gathered.length < len

/-- The connection is closed after fewer than `len` bytes: the socket is always readable, and from some call
of `recv()` on it is at the end of the stream. -/
def ClosesEarly (receiver : Receiver) (len : Nat) : Prop :=
  (∀ i, receiver.readable i = true) ∧
    ∃ n gathered, receiver.received n = some gathered ∧ gathered.length < len ∧
      ∀ m, n ≤ m → receiver.chunk m (jumboPktLenMax - gathered.length) = .ok []

theorem received_grows {m n : Nat} {gathered : List Byte} (later : m ≤ n)
    (whole : receiver.received n = some gathered) :
    ∃ before rest, receiver.received m = some before ∧ gathered = before ++ rest := by
  induction n, later using Nat.le_induction generalizing gathered with
  | base => exact ⟨gathered, [], whole, by simp⟩
  | succ n _ ih =>
    cases upTo : receiver.received n with
    | none => exact absurd (whole.symm.trans (received_none upTo (Nat.le_succ n))) (by simp)
    | some prior =>
      cases answer : receiver.chunk n (jumboPktLenMax - prior.length) with
      | error text => exact absurd (whole.symm.trans (received_failed upTo answer)) (by simp)
      | ok chunk =>
        obtain ⟨before, rest, same, split⟩ := ih upTo
        obtain rfl : gathered = prior ++ chunk := Option.some.inj (whole.symm.trans (received_next upTo answer))
        exact ⟨before, rest ++ chunk, same, by rw [split, List.append_assoc]⟩

theorem received_closed {n : Nat} {gathered : List Byte} (upTo : receiver.received n = some gathered)
    (closed : ∀ m, n ≤ m → receiver.chunk m (jumboPktLenMax - gathered.length) = .ok []) {m : Nat} (later : n ≤ m) :
    receiver.received m = some gathered := by
  induction m, later using Nat.le_induction with
  | base => exact upTo
  | succ m later ih => simpa using received_next ih (closed m later)

theorem ClosesEarly.short {len : Nat} (closes : receiver.ClosesEarly len) (m : Nat) : receiver.Short len m := by
  obtain ⟨-, n, gathered, upTo, short, closed⟩ := closes
  rcases Nat.le_total n m with later | earlier
  · exact ⟨gathered, received_closed upTo closed later, short⟩
  · obtain ⟨before, rest, same, rfl⟩ := received_grows earlier upTo
    rw [List.length_append] at short
    exact ⟨before, same, by omega⟩

theorem received_settles {len : Nat} (short : ∀ m, receiver.Short len m) :
    ∃ n gathered, ∀ m, n ≤ m → receiver.received m = some gathered := by
  suffices general : ∀ missing n gathered, receiver.received n = some gathered →
      len ≤ gathered.length + missing → ∃ n gathered, ∀ m, n ≤ m → receiver.received m = some gathered from
    general len 0 [] rfl (Nat.le_add_left len _)
  intro missing
  induction missing with
  | zero =>
    intro n gathered upTo enough
    obtain ⟨other, same, less⟩ := short n
    obtain rfl : gathered = other := Option.some.inj (upTo.symm.trans same)
    exact absurd less (Nat.not_lt.mpr enough)
  | succ missing ih =>
    intro n gathered upTo enough
    by_cases stable : ∀ m, n ≤ m → receiver.received m = some gathered
    · exact ⟨n, gathered, stable⟩
    · simp only [not_forall] at stable
      obtain ⟨m, later, changed⟩ := stable
      obtain ⟨longer, whole, -⟩ := short m
      obtain ⟨before, rest, same, rfl⟩ := received_grows later whole
      obtain rfl : gathered = before := Option.some.inj (upTo.symm.trans same)
      have grown : 0 < rest.length := by
        apply List.length_pos_of_ne_nil
        rintro rfl
        exact changed (by simpa using whole)
      apply ih m _ whole
      rw [List.length_append]
      omega

theorem closesEarly_iff (receiver : Receiver) (len : Nat) :
    receiver.ClosesEarly len ↔ (∀ i, receiver.readable i = true) ∧ ∀ m, receiver.Short len m := by
  constructor
  · intro closes
    exact ⟨closes.1, closes.short⟩
  · intro stalls
    obtain ⟨readable, short⟩ := stalls
    obtain ⟨n, gathered, stable⟩ := received_settles short
    obtain ⟨other, same, less⟩ := short n
    obtain rfl : gathered = other := Option.some.inj ((stable n (Nat.le_refl n)).symm.trans same)
    refine ⟨readable, n, gathered, same, less, ?_⟩
    intro m later
    have next := stable (m + 1) (Nat.le_succ_of_le later)
    cases answer : receiver.chunk m (jumboPktLenMax - gathered.length) with
    | error text => exact absurd (next.symm.trans (received_failed (stable m later) answer)) (by simp)
    | ok chunk =>
      have whole := Option.some.inj (next.symm.trans (received_next (stable m later) answer))
      rw [List.self_eq_append_right.mp whole]

end Receiver

/-- The loop comes to an end by a measure, and a call that receives too few bytes ends in a verdict. -/
def Settles (call : Call) (receiver : Receiver) : Prop :=
  (∃ measure, Decreasing (recvTurn call receiver) (Progress.start call) measure) ∧
    (receiver.Truncates call.len → ∃ message, Returns call receiver (.error (.verdict message)))

theorem not_ends_of_closesEarly {gathered : Except Jump Progress} (closes : receiver.ClosesEarly call.len) :
    ¬Ends (recvTurn call receiver) (Progress.start call) gathered := by
  apply not_ends (Gathering call receiver) _ gathering_start
  intro u gathering
  obtain ⟨unreadable, -⟩ | ⟨text, answer, -⟩ | ⟨chunk, -, answer, ⟨enough, -⟩ | ⟨next, onward⟩⟩ :=
    gathering.turn_cases
  · exact absurd (closes.1 u.turns) (by simp [unreadable])
  · obtain ⟨gathered, same, -⟩ := closes.short (u.turns + 1)
    exact absurd (same.symm.trans (gathering.received_error answer)) (by simp)
  · obtain ⟨gathered, same, less⟩ := closes.short (u.turns + 1)
    obtain rfl : gathered = _ := Option.some.inj (same.symm.trans (gathering.received_store answer))
    rw [gathering.store_take_length answer] at less
    exact absurd enough (Nat.not_le.mpr less)
  · exact ⟨u.store chunk, onward, next⟩

theorem turns_bounded (stays : ¬receiver.ClosesEarly call.len) :
    ∃ bound, ∀ q, Gathering call receiver q → q.turns ≤ bound := by
  rw [Receiver.closesEarly_iff, not_and_or, not_forall, not_forall] at stays
  obtain ⟨i, unreadable⟩ | ⟨m, enough⟩ := stays
  · refine ⟨i, fun q gathering => Nat.le_of_not_lt (fun past => ?_)⟩
    exact unreadable (gathering.readable i past)
  · refine ⟨m, fun q gathering => Nat.le_of_not_lt (fun past => ?_)⟩
    exact enough (gathering.earlier m (Nat.le_of_lt past))

theorem Gathering.turns_again {q : Progress} (gathering : Gathering call receiver p)
    (move : recvTurn call receiver p = .again q) : q.turns = p.turns + 1 := by
  obtain ⟨chunk, same, -⟩ := gathering.again_store move
  rw [same]
  rfl

theorem ends_of_not_closesEarly (stays : ¬receiver.ClosesEarly call.len) :
    ∃ gathered, Ends (recvTurn call receiver) (Progress.start call) gathered := by
  obtain ⟨bound, within⟩ := turns_bounded stays
  apply ends_of_measure (Gathering call receiver) (fun q => bound - q.turns) _ _ gathering_start
  · intro u v gathering move
    exact gathering.again move
  · intro u v gathering move
    have next := gathering.turns_again move
    have below := within v (gathering.again move)
    omega

theorem returns_of_ends {gathered : Except Jump Progress} (receives : Receives call receiver)
    (ends : Ends (recvTurn call receiver) (Progress.start call) gathered) :
    Returns call receiver (gathered >>= compareData call) := by
  obtain ⟨least, runs⟩ := run_of_ends ends
  refine ⟨least, ?_⟩
  simp [netDrvSendtoRecvCheckGen, receives.sent, receives.readable, runs least (Nat.le_refl least)]

theorem not_delivers_of_truncates {bytes : List Byte} {len : Nat} (size : bytes.length = len)
    (truncates : receiver.Truncates len) : ¬receiver.Delivers len bytes := by
  intro delivers
  obtain ⟨n, -, whole, -⟩ := delivers
  exact absurd size (Nat.ne_of_lt (truncates (n + 1) bytes whole))

theorem not_settles (closes : receiver.ClosesEarly call.len) : ¬Settles call receiver := by
  intro settles
  obtain ⟨⟨measure, decreasing⟩, -⟩ := settles
  obtain ⟨gathered, ends⟩ := ends_of_decreasing decreasing
  exact not_ends_of_closesEarly closes ends

theorem settles (receives : Receives call receiver) (stays : ¬receiver.ClosesEarly call.len) :
    Settles call receiver := by
  obtain ⟨gathered, ends⟩ := ends_of_not_closesEarly stays
  refine ⟨decreasing_of_ends ends, fun truncates => ?_⟩
  have missed := not_delivers_of_truncates call.sent_length truncates
  have returns := returns_of_ends receives ends
  obtain ⟨-, delivers⟩ | ⟨⟨message, verdict⟩, -⟩ := judged_of_ends ends
  · exact absurd delivers missed
  · exact ⟨message, verdict ▸ returns⟩

/-- The receive loop comes to its end unless the peer closes the connection before all the data. -/
theorem recv_loop_settles_iff (call : Call) (receiver : Receiver) (receives : Receives call receiver) :
    Settles call receiver ↔ ¬receiver.ClosesEarly call.len := by
  constructor
  · intro settled closes
    exact not_settles closes settled
  · exact settles receives

theorem recv_loop_settles_byte_by_byte : Receives twoBytes byteByByte ∧ Settles twoBytes byteByByte := by
  have receives : Receives twoBytes byteByByte := ⟨by decide +kernel, rfl⟩
  refine ⟨receives, (recv_loop_settles_iff twoBytes byteByByte receives).mpr ?_⟩
  intro closes
  have room : ∀ len, len < 2 → byteByByte.chunk 0 (jumboPktLenMax - len) = .ok [7] := by decide +kernel
  obtain ⟨-, n, gathered, -, short, closed⟩ := closes
  have last := closed n (Nat.le_refl n)
  exact absurd ((room gathered.length short).symm.trans last) (by simp)

/-- A peer that closes the connection after one byte. -/
def closingPeer : Receiver where
  readable _ := true
  recv n space := if room : n = 0 ∧ 1 ≤ space then .ok ⟨[7], room.2⟩ else .ok ⟨[], Nat.zero_le space⟩

theorem recv_loop_diverges_after_close :
    Receives twoBytes closingPeer ∧ closingPeer.received 1 = some (twoBytes.sent.take 1) ∧
      closingPeer.Truncates twoBytes.len ∧ ¬Settles twoBytes closingPeer := by
  have closes : closingPeer.ClosesEarly twoBytes.len := by
    refine ⟨fun _ => rfl, 1, [7], by decide +kernel, by decide +kernel, ?_⟩
    intro m later
    have rest : m ≠ 0 := Nat.ne_of_gt later
    simp [Receiver.chunk, closingPeer, rest, Except.map]
  refine ⟨⟨by decide +kernel, rfl⟩, by decide +kernel, ?_, not_settles closes⟩
  intro n gathered whole
  obtain ⟨other, same, short⟩ := closes.short n
  exact Option.some.inj (same.symm.trans whole) ▸ short

theorem not_closesEarly_of_delivers {len : Nat} {bytes : List Byte} (size : bytes.length = len)
    (delivers : receiver.Delivers len bytes) : ¬receiver.ClosesEarly len := by
  intro closes
  obtain ⟨n, -, whole, -⟩ := delivers
  obtain ⟨gathered, same, short⟩ := closes.short (n + 1)
  obtain rfl : bytes = gathered := Option.some.inj (whole.symm.trans same)
  exact absurd size (Nat.ne_of_lt short)

theorem returns_of_not_receives (apart : ¬Receives call receiver) : ∃ result, Returns call receiver result := by
  unfold Returns netDrvSendtoRecvCheckGen
  cases send : call.send with
  | error text => exact ⟨_, 0, rfl⟩
  | ok rc =>
    by_cases whole : rc = call.len
    · have unreadable : receiver.readable 0 = false :=
        Bool.eq_false_iff.mpr (fun readable => apart ⟨whole ▸ send, readable⟩)
      cases loss : call.mayLoss with
      | true => exact ⟨.ok 0, 0, by simp [whole, unreadable]⟩
      | false => exact ⟨_, 0, by simp only [whole, ne_eq, not_true, if_false, unreadable, Bool.false_eq_true]; rfl⟩
    · exact ⟨_, 0, by simp only [ne_eq, whole, not_false_eq_true, if_true]; rfl⟩

theorem returns_iff : (∃ result, Returns call receiver result) ↔
    call.send ≠ .ok call.len ∨ ¬receiver.ClosesEarly call.len := by
  constructor
  · intro returned
    obtain ⟨result, fuel, final⟩ := returned
    by_cases sent : call.send = .ok call.len
    · refine .inr (fun closes => ?_)
      simp only [netDrvSendtoRecvCheckGen, sent, ne_eq, not_true, if_false, closes.1 0, if_true,
        Option.map_eq_some_iff] at final
      obtain ⟨gathered, loop, -⟩ := final
      exact not_ends_of_closesEarly closes (ends_of_run loop)
    · exact .inl sent
  · intro ends
    by_cases receives : Receives call receiver
    · have stays : ¬receiver.ClosesEarly call.len := ends.resolve_left (not_not.mpr receives.sent)
      obtain ⟨gathered, left⟩ := ends_of_not_closesEarly stays
      exact ⟨_, returns_of_ends receives left⟩
    · exact returns_of_not_receives receives

/-- The data check accepts exactly the sent bytes, returns unless the peer closes early, and stays within its
buffer in every run. -/
theorem sendtoRecvCheck_accepts_sent (call : Call) (receiver : Receiver) :
    (Returns call receiver (.ok call.len) ↔ call.send = .ok call.len ∧ receiver.Delivers call.len call.sent) ∧
    ((∃ result, Returns call receiver result) ↔ call.send ≠ .ok call.len ∨ ¬receiver.ClosesEarly call.len) ∧
    (∀ result, Returns call receiver result →
      (result = .ok call.len ↔ call.send = .ok call.len ∧ receiver.Delivers call.len call.sent) ∧
      (result = .ok 0 → call.mayLoss = true ∧ receiver.readable 0 = false) ∧
      (result ≠ .ok call.len → result ≠ .ok 0 → ∃ message, result = .error (.verdict message))) ∧
    ∀ p, Reach (recvTurn call receiver) (Progress.start call) p →
      0 ≤ p.space ∧ ∀ chunk, p.recv receiver = .ok chunk → p.totalLen + chunk.length ≤ jumboPktLenMax := by
  refine ⟨⟨fun returns => (returns_accepts returns).1.mp rfl, fun accepted => ?_⟩, returns_iff,
    fun _ => returns_accepts, ?_⟩
  · obtain ⟨sent, delivers⟩ := accepted
    have stays := not_closesEarly_of_delivers call.sent_length delivers
    obtain ⟨result, returns⟩ := returns_iff.mpr (.inr stays)
    exact (returns_accepts returns).1.mpr ⟨sent, delivers⟩ ▸ returns
  · intro p reach
    have gathering : Gathering call receiver p :=
      reach_inv _ (fun u v here move => Gathering.again here move) gathering_start reach
    constructor
    · rw [gathering.space_eq]
      exact Int.natCast_nonneg _
    · intro chunk answer
      exact gathering.chunk_fits answer

theorem sendtoRecvCheck_accepts_two_bytes :
    Returns twoBytes byteByByte (.ok 2) ∧ byteByByte.Delivers 2 [7, 7] := by
  have returns : Returns twoBytes byteByByte (.ok 2) := ⟨2, by decide +kernel⟩
  have accepted := (sendtoRecvCheck_accepts_sent twoBytes byteByByte).1
  exact ⟨returns, (accepted.mp returns).2⟩

end NetDrv.Transfer
