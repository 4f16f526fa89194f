import NetDrv.Transfer.SendRecv

/-! How the data check judges what it received. At the head of the receive loop the
buffer starts with the chunks received so far, and they are too short; the ways out of
the loop are told apart by that. -/

namespace NetDrv.Transfer
open Loop

variable {call : Call} {receiver : Receiver} {p : Progress}

theorem Call.len_pos (call : Call) : 1 ≤ call.len := by
  unfold Call.len
  split
  · exact Nat.le_trans (by decide) (le_randRange jumboPktLenMin jumboPktLenMax call.rand)
  · exact le_randRange 1 maxPktLen call.rand

theorem Call.len_le (call : Call) : call.len ≤ jumboPktLenMax := by
  unfold Call.len
  split
  · exact randRange_le (by decide) call.rand
  · exact Nat.le_trans (randRange_le (by decide) call.rand) (by decide)

theorem Call.sent_length (call : Call) : call.sent.length = call.len := by
  simp [Call.sent]

theorem Receiver.received_next {n : Nat} {gathered chunk : List Byte}
    (before : receiver.received n = some gathered)
    (answer : receiver.chunk n (jumboPktLenMax - gathered.length) = .ok chunk) :
    receiver.received (n + 1) = some (gathered ++ chunk) := by
  simp [Receiver.received, before, answer]

theorem Receiver.received_failed {n : Nat} {gathered : List Byte} {text : String}
    (before : receiver.received n = some gathered)
    (answer : receiver.chunk n (jumboPktLenMax - gathered.length) = .error text) :
    receiver.received (n + 1) = none := by
  simp [Receiver.received, before, answer]

theorem Receiver.received_none {m n : Nat} (failed : receiver.received m = none) (later : m ≤ n) :
    receiver.received n = none := by
  induction n, later using Nat.le_induction with
  | base => exact failed
  | succ n _ ih => simp [Receiver.received, ih]

structure Gathering (call : Call) (receiver : Receiver) (p : Progress) : Prop where
  readable : ∀ i < p.turns, receiver.readable i = true
  size : p.recvBuf.length = jumboPktLenMax
  received : receiver.received p.turns = some (p.recvBuf.take p.totalLen)
  short : p.totalLen < call.len
  earlier : ∀ m ≤ p.turns, receiver.Short call.len m

theorem gathering_start : Gathering call receiver (Progress.start call) where
  readable i before := absurd before (Nat.not_lt_zero i)
  size := by simp [Progress.start]
  received := by simp [Progress.start, Receiver.received]
  short := call.len_pos
  earlier m before := by
    obtain rfl : m = 0 := Nat.le_zero.mp before
    exact ⟨[], rfl, call.len_pos⟩

namespace Gathering

theorem total_le (gathering : Gathering call receiver p) : p.totalLen ≤ jumboPktLenMax :=
  Nat.le_of_lt (Nat.lt_of_lt_of_le gathering.short call.len_le)

theorem take_length (gathering : Gathering call receiver p) : (p.recvBuf.take p.totalLen).length = p.totalLen := by
  rw [List.length_take, gathering.size]
  exact Nat.min_eq_left gathering.total_le

theorem space_eq (gathering : Gathering call receiver p) :
    p.space = (jumboPktLenMax - p.totalLen : Nat) := by
  have bound := gathering.total_le
  unfold Progress.space
  omega

theorem recv_eq (gathering : Gathering call receiver p) :
    p.recv receiver = receiver.chunk p.turns (jumboPktLenMax - p.totalLen) := by
  have small : jumboPktLenMax - p.totalLen < 2 ^ 64 :=
    Nat.lt_of_le_of_lt (Nat.sub_le jumboPktLenMax p.totalLen) (by decide)
  have same : (p.space % 2 ^ 64).toNat = jumboPktLenMax - p.totalLen := by
    rw [gathering.space_eq]
    omega
  rw [Progress.recv, same]

theorem chunk_fits (gathering : Gathering call receiver p) {chunk : List Byte}
    (answer : p.recv receiver = .ok chunk) : p.totalLen + chunk.length ≤ jumboPktLenMax := by
  have bound := gathering.total_le
  rw [gathering.recv_eq] at answer
  have within := Receiver.chunk_le answer
  omega

theorem received_store (gathering : Gathering call receiver p) {chunk : List Byte}
    (answer : p.recv receiver = .ok chunk) :
    receiver.received (p.turns + 1) = some ((p.store chunk).recvBuf.take (p.store chunk).totalLen) := by
  have next : receiver.received (p.turns + 1) = some (p.recvBuf.take p.totalLen ++ chunk) := by
    apply Receiver.received_next gathering.received
    rwa [gathering.take_length, ← gathering.recv_eq]
  have whole : (p.recvBuf.take p.totalLen ++ chunk).length = p.totalLen + chunk.length := by
    rw [List.length_append, gathering.take_length]
  rw [next]
  exact congrArg some (List.take_left' whole).symm

theorem received_error (gathering : Gathering call receiver p) {text : String}
    (answer : p.recv receiver = .error text) : receiver.received (p.turns + 1) = none := by
  apply Receiver.received_failed gathering.received
  rwa [gathering.take_length, ← gathering.recv_eq]

theorem store_size (gathering : Gathering call receiver p) {chunk : List Byte}
    (answer : p.recv receiver = .ok chunk) : (p.store chunk).recvBuf.length = jumboPktLenMax := by
  have fits := gathering.chunk_fits answer
  have size := gathering.size
  simp only [Progress.store, List.length_append, List.length_take, List.length_drop]
  omega

theorem store_take_length (gathering : Gathering call receiver p) {chunk : List Byte}
    (answer : p.recv receiver = .ok chunk) :
    ((p.store chunk).recvBuf.take (p.store chunk).totalLen).length = (p.store chunk).totalLen := by
  have fits : (p.store chunk).totalLen ≤ jumboPktLenMax := gathering.chunk_fits answer
  rw [List.length_take, gathering.store_size answer]
  exact Nat.min_eq_left fits

theorem store (gathering : Gathering call receiver p) {chunk : List Byte}
    (readable : receiver.readable p.turns = true) (answer : p.recv receiver = .ok chunk)
    (short : (p.store chunk).totalLen < call.len) : Gathering call receiver (p.store chunk) where
  readable := by
    show ∀ i < p.turns + 1, receiver.readable i = true
    exact Nat.forall_lt_succ_right.mpr ⟨gathering.readable, readable⟩
  size := gathering.store_size answer
  received := gathering.received_store answer
  short := short
  earlier := by
    intro m upTo
    rcases Nat.le_or_eq_of_le_succ upTo with before | now
    · exact gathering.earlier m before
    · subst now
      refine ⟨_, gathering.received_store answer, ?_⟩
      exact Nat.lt_of_le_of_lt (List.length_take_le _ _) short

theorem not_delivers (gathering : Gathering call receiver p) {bytes : List Byte} (size : bytes.length = call.len)
    (stopped : receiver.readable p.turns = false ∨ receiver.received (p.turns + 1) = none) :
    ¬receiver.Delivers call.len bytes := by
  intro delivers
  obtain ⟨n, readable, whole, -⟩ := delivers
  rcases Nat.lt_or_ge n p.turns with before | after
  · obtain ⟨gathered, same, short⟩ := gathering.earlier (n + 1) before
    obtain rfl : bytes = gathered := Option.some.inj (whole.symm.trans same)
    exact absurd size (Nat.ne_of_lt short)
  · rcases stopped with unreadable | failed
    · exact absurd (readable p.turns after) (by simp [unreadable])
    · have nothing := Receiver.received_none failed (Nat.succ_le_succ after)
      exact absurd (whole.symm.trans nothing) (by simp)

theorem delivers_iff (gathering : Gathering call receiver p) {gathered bytes : List Byte}
    (size : bytes.length = call.len) (readable : receiver.readable p.turns = true)
    (received : receiver.received (p.turns + 1) = some gathered) (enough : call.len ≤ gathered.length) :
    receiver.Delivers call.len bytes ↔ gathered = bytes := by
  constructor
  · intro delivers
    obtain ⟨n, -, whole, short⟩ := delivers
    rcases Nat.lt_trichotomy n p.turns with before | now | after
    · obtain ⟨other, same, less⟩ := gathering.earlier (n + 1) before
      obtain rfl : bytes = other := Option.some.inj (whole.symm.trans same)
      exact absurd size (Nat.ne_of_lt less)
    · subst now
      exact Option.some.inj (received.symm.trans whole)
    · obtain ⟨other, same, less⟩ := short (p.turns + 1) after
      obtain rfl : gathered = other := Option.some.inj (received.symm.trans same)
      exact absurd less (Nat.not_lt.mpr enough)
  · intro same
    refine ⟨p.turns, ?_, same ▸ received, gathering.earlier⟩
    intro i upTo
    rcases Nat.lt_or_eq_of_le upTo with before | now
    · exact gathering.readable i before
    · exact now ▸ readable

theorem turn_cases (gathering : Gathering call receiver p) :
    (receiver.readable p.turns = false ∧ recvTurn call receiver p = .leave (.ok p)) ∨
    (∃ text, p.recv receiver = .error text ∧
      recvTurn call receiver p = .leave (call.verdict ("recv() failed with error " ++ text))) ∨
    ∃ chunk, receiver.readable p.turns = true ∧ p.recv receiver = .ok chunk ∧
      ((call.len ≤ (p.store chunk).totalLen ∧ recvTurn call receiver p = .leave (.ok (p.store chunk))) ∨
        (Gathering call receiver (p.store chunk) ∧ recvTurn call receiver p = .again (p.store chunk))) := by
  cases readable : receiver.readable p.turns with
  | false => exact .inl ⟨rfl, by simp [recvTurn, readable]⟩
  | true =>
    cases answer : p.recv receiver with
    | error text => exact .inr (.inl ⟨text, rfl, by simp [recvTurn, readable, answer]⟩)
    | ok chunk =>
      refine .inr (.inr ⟨chunk, rfl, rfl, ?_⟩)
      by_cases enough : call.len ≤ (p.store chunk).totalLen
      · exact .inl ⟨enough, by simp [recvTurn, readable, answer, enough]⟩
      · exact .inr ⟨gathering.store readable answer (Nat.lt_of_not_le enough),
          by simp [recvTurn, readable, answer, enough]⟩

theorem again_store {q : Progress} (gathering : Gathering call receiver p)
    (move : recvTurn call receiver p = .again q) :
    ∃ chunk, q = p.store chunk ∧ Gathering call receiver (p.store chunk) := by
  obtain ⟨-, left⟩ | ⟨text, -, left⟩ | ⟨chunk, -, -, ⟨-, left⟩ | ⟨next, onward⟩⟩ := gathering.turn_cases
  · exact absurd (move.symm.trans left) (by simp)
  · exact absurd (move.symm.trans left) (by simp)
  · exact absurd (move.symm.trans left) (by simp)
  · exact ⟨chunk, Turn.again.inj (move.symm.trans onward), next⟩

theorem again {q : Progress} (gathering : Gathering call receiver p)
    (move : recvTurn call receiver p = .again q) : Gathering call receiver q := by
  obtain ⟨chunk, same, next⟩ := gathering.again_store move
  rw [same]
  exact next

end Gathering

/-- A result is the length if the sent bytes were delivered, and a verdict otherwise. -/
def Judged (call : Call) (receiver : Receiver) (result : Except Jump Nat) : Prop :=
  (result = .ok call.len ∧ receiver.Delivers call.len call.sent) ∨
    ((∃ message, result = .error (.verdict message)) ∧ ¬receiver.Delivers call.len call.sent)

theorem Judged.verdict {text : String} (missed : ¬receiver.Delivers call.len call.sent) :
    Judged call receiver (call.verdict text) := .inr ⟨⟨_, rfl⟩, missed⟩

theorem compareData_short (short : p.totalLen < call.len) :
    compareData call p = call.verdict "recv() returned unexpected result" := by
  simp [compareData, Nat.ne_of_lt short]

theorem judged_compareData {gathered : List Byte} (size : p.recvBuf.length = jumboPktLenMax)
    (total : p.totalLen ≤ jumboPktLenMax) (content : gathered = p.recvBuf.take p.totalLen)
    (delivers : receiver.Delivers call.len call.sent ↔ gathered = call.sent) :
    Judged call receiver (compareData call p) := by
  have gatheredLen : gathered.length = p.totalLen := by
    rw [content, List.length_take, size]
    exact Nat.min_eq_left total
  by_cases whole : p.totalLen = call.len
  · by_cases same : call.sent = p.recvBuf.take call.len
    · have equal : gathered = call.sent := by rw [content, whole, same]
      exact .inl ⟨by simp [compareData, whole, ← same], delivers.mpr equal⟩
    · have differ : gathered ≠ call.sent := by
        rw [content, whole]
        exact fun equal => same equal.symm
      have result : compareData call p = call.verdict "recv() returned unexpected data" := by
        simp [compareData, whole, same]
      rw [result]
      exact .verdict (fun delivered => differ (delivers.mp delivered))
  · have differ : gathered ≠ call.sent := by
      intro equal
      have lengths := congrArg List.length equal
      rw [gatheredLen, call.sent_length] at lengths
      exact whole lengths
    have result : compareData call p = call.verdict "recv() returned unexpected result" := by
      simp [compareData, whole]
    rw [result]
    exact .verdict (fun delivered => differ (delivers.mp delivered))

theorem judged_of_leave {gathered : Except Jump Progress} (gathering : Gathering call receiver p)
    (left : recvTurn call receiver p = .leave gathered) :
    Judged call receiver (gathered >>= compareData call) := by
  obtain ⟨unreadable, exit⟩ | ⟨text, answer, exit⟩ | ⟨chunk, readable, answer, ⟨enough, exit⟩ | ⟨-, onward⟩⟩ :=
    gathering.turn_cases
  · obtain rfl : gathered = .ok p := Turn.leave.inj (left.symm.trans exit)
    show Judged call receiver (compareData call p)
    rw [compareData_short gathering.short]
    exact .verdict (gathering.not_delivers call.sent_length (.inl unreadable))
  · obtain rfl : gathered = _ := Turn.leave.inj (left.symm.trans exit)
    show Judged call receiver (call.verdict ("recv() failed with error " ++ text))
    exact .verdict (gathering.not_delivers call.sent_length (.inr (gathering.received_error answer)))
  · obtain rfl : gathered = .ok (p.store chunk) := Turn.leave.inj (left.symm.trans exit)
    have total : (p.store chunk).totalLen ≤ jumboPktLenMax := gathering.chunk_fits answer
    have received := gathering.received_store answer
    show Judged call receiver (compareData call (p.store chunk))
    apply judged_compareData (gathering.store_size answer) total rfl
    exact gathering.delivers_iff call.sent_length readable received
      (Nat.le_trans enough (Nat.le_of_eq (gathering.store_take_length answer).symm))
  · exact absurd (left.symm.trans onward) (by simp)

theorem judged_of_ends {gathered : Except Jump Progress}
    (ends : Ends (recvTurn call receiver) (Progress.start call) gathered) :
    Judged call receiver (gathered >>= compareData call) := by
  apply ends_post (Gathering call receiver) _ _ gathering_start ends
  · intro u v gathering move
    exact gathering.again move
  · intro u outcome gathering left
    exact judged_of_leave gathering left

theorem returns_cases {result : Except Jump Nat} (returns : Returns call receiver result) :
    (call.send ≠ .ok call.len ∧ ∃ message, result = .error (.verdict message)) ∨
    (call.send = .ok call.len ∧ receiver.readable 0 = false ∧
      ((call.mayLoss = true ∧ result = .ok 0) ∨ ∃ message, result = .error (.verdict message))) ∨
    (Receives call receiver ∧ Judged call receiver result) := by
  obtain ⟨fuel, run⟩ := returns
  unfold netDrvSendtoRecvCheckGen at run
  cases send : call.send with
  | error text =>
    simp only [send, Option.some.injEq] at run
    exact .inl ⟨by simp, _, run.symm⟩
  | ok rc =>
    simp only [send] at run
    by_cases whole : rc = call.len
    · subst whole
      cases readable : receiver.readable 0 with
      | true =>
        simp only [ne_eq, not_true, if_false, readable, if_true, Option.map_eq_some_iff] at run
        obtain ⟨gathered, loop, final⟩ := run
        exact .inr (.inr ⟨⟨send, readable⟩, final ▸ judged_of_ends (ends_of_run loop)⟩)
      | false =>
        refine .inr (.inl ⟨rfl, rfl, ?_⟩)
        cases loss : call.mayLoss with
        | true => exact .inl ⟨rfl, by simpa [readable, loss, eq_comm] using run⟩
        | false =>
          simp only [ne_eq, not_true, if_false, readable, loss, Bool.false_eq_true, Option.some.injEq] at run
          exact .inr ⟨_, run.symm⟩
    · simp only [ne_eq, whole, not_false_eq_true, if_true, Option.some.injEq] at run
      exact .inl ⟨by simp [whole], _, run.symm⟩

theorem Receiver.Delivers.readable {len : Nat} {bytes : List Byte} (delivers : receiver.Delivers len bytes) :
    receiver.readable 0 = true := by
  obtain ⟨n, readable, -⟩ := delivers
  exact readable 0 (Nat.zero_le n)

theorem returns_accepts {result : Except Jump Nat} (returns : Returns call receiver result) :
    (result = .ok call.len ↔ call.send = .ok call.len ∧ receiver.Delivers call.len call.sent) ∧
      (result = .ok 0 → call.mayLoss = true ∧ receiver.readable 0 = false) ∧
      (result ≠ .ok call.len → result ≠ .ok 0 → ∃ message, result = .error (.verdict message)) := by
  have positive : call.len ≠ 0 := Nat.ne_of_gt call.len_pos
  obtain ⟨unsent, message, rfl⟩ | ⟨sent, unreadable, ⟨loss, rfl⟩ | ⟨message, rfl⟩⟩ | ⟨receives, judged⟩ :=
    returns_cases returns
  · simp [unsent]
  · have missed : ¬receiver.Delivers call.len call.sent :=
      fun delivers => absurd delivers.readable (by simp [unreadable])
    simp [missed, loss, unreadable, positive.symm]
  · have missed : ¬receiver.Delivers call.len call.sent :=
      fun delivers => absurd delivers.readable (by simp [unreadable])
    simp [missed]
  · obtain ⟨rfl, delivers⟩ | ⟨⟨message, rfl⟩, missed⟩ := judged
    · simp [receives.sent, delivers, positive]
    · simp [missed]

def twoBytes : Call where
  vpref := none
  mayLoss := false
  jumbo := false
  rand := 1
  fill _ := 7
  send := .ok 2
  stale _ := 0

/-- A socket that delivers the same byte again and again. -/
def byteByByte : Receiver where
  readable _ := true
  recv _ space := if room : 1 ≤ space then .ok ⟨[7], room⟩ else .ok ⟨[], Nat.zero_le space⟩

end NetDrv.Transfer
