import Mathlib.Data.List.Induction
import NetDrv.Te

/-! The send loop that both MTU tests have: data is sent and received, and the
packets captured meanwhile are handed to a callback and judged. The arguments of the
callback live through all rounds; only the number of packets is reset. -/

namespace NetDrv.Mtu

abbrev Byte := BitVec 8

inductive PktSize where
  | less
  | equal
  | more
  deriving DecidableEq, Repr

/-- What one round gets from the sockets and from the CSAP; errors come with their text. -/
structure Round (π : Type) where
  sendBuf : List Byte
  send : Except String Unit
  readable : Bool
  recv : Except String (List Byte)
  trrecvGet : Except TeErrno Unit
  pkts : List π

structure Hosts where
  sender : String
  receiver : String

/-- What differs between the tests: the callback, and what is checked after it was called on all packets. -/
structure Test (π σ : Type) where
  callback : σ → π → σ
  /-- `args.pkts_num = 0`. -/
  reset : σ → σ
  judge : σ → Except Jump Unit

/-- The limits on the length of the data of one `send()`. -/
structure Sizes where
  minSize : Int
  maxSize : Int
  deriving DecidableEq, Repr

/-- The limits that `pkt_size` stands for, when `least` is the length that is still less. -/
def chooseSizes (least : Int) (pktSize : PktSize) (mtuPldSize : Int) : Except Jump Sizes :=
  let sizes : Sizes := match pktSize with
    | .less => ⟨least, mtuPldSize - 1⟩
    | .equal => ⟨mtuPldSize, mtuPldSize⟩
    | .more => ⟨mtuPldSize + 1, (3 * mtuPldSize).tdiv 2⟩
  if sizes.minSize > sizes.maxSize then .error (.fail "Failed to choose constraints on data size correctly")
  else .ok sizes

/-- What is checked after the callback was called on the packets of a round. -/
def judgeCapture (failed : Bool) (pktsNum : Nat) (tooBigPkt misplaced : Bool) : Except Jump Unit :=
  if failed then .error (.fail "Failed to process captured packets on Tester")
  else if pktsNum = 0 then .error (.fail "Failed to capture any packets on Tester")
  else if tooBigPkt then .error (.verdict "A bigger-than-MTU packet was captured")
  else if misplaced then .error (.verdict "The first smaller-than-MTU packet was not the last one")
  else .ok ()

theorem judgeCapture_eq_ok {failed tooBigPkt misplaced : Bool} {pktsNum : Nat} :
    judgeCapture failed pktsNum tooBigPkt misplaced = .ok () ↔
      failed = false ∧ pktsNum ≠ 0 ∧ tooBigPkt = false ∧ misplaced = false := by
  unfold judgeCapture
  cases failed <;> cases tooBigPkt <;> cases misplaced <;> by_cases none : pktsNum = 0 <;> simp [none]

section
variable {π σ : Type} (test : Test π σ) (hosts : Hosts)

def Round.exchange (round : Round π) : Except Jump Unit :=
  match round.send with
  | .error text => .error (.verdict ("Failed to send data from " ++ hosts.sender ++ ", errno is " ++ text))
  | .ok _ =>
    if round.readable then
      match round.recv with
      | .error text => .error (.verdict ("Failed to receive a packet on " ++ hosts.receiver ++ ": " ++ text))
      | .ok data => if data ≠ round.sendBuf then .error (.verdict "Unexpected data was received") else .ok ()
    else .error (.verdict "Receiving socket did not become readable")

/-- The arguments after the callback was called on the captured packets. -/
def Test.capture (args : σ) (pkts : List π) : σ := pkts.foldl test.callback (test.reset args)

def Test.round (args : σ) (round : Round π) : Except Jump σ := do
  round.exchange hosts
  match round.trrecvGet with
  | .error rc => .error (.checkRc rc)
  | .ok _ =>
    test.judge (test.capture args round.pkts)
    .ok (test.capture args round.pkts)

def Test.sendLoop (args : σ) (rounds : List (Round π)) : Except Jump σ := rounds.foldlM (test.round hosts) args

/-- The capture of the round is obtained: the data went through and the CSAP handed its packets over. -/
structure Round.Obtained (round : Round π) : Prop where
  exchanged : round.exchange hosts = .ok ()
  handed : round.trrecvGet = .ok ()

def Round.smooth (sendBuf : List Byte) (pkts : List π) : Round π := ⟨sendBuf, .ok (), true, .ok sendBuf, .ok (), pkts⟩

theorem Round.smooth_obtained (sendBuf : List Byte) (pkts : List π) : (Round.smooth sendBuf pkts).Obtained hosts :=
  ⟨by simp [Round.exchange, Round.smooth], rfl⟩

variable {test hosts}

theorem Test.capture_snoc (args : σ) (pkts : List π) (pkt : π) :
    test.capture args (pkts ++ [pkt]) = test.callback (test.capture args pkts) pkt := by
  simp [Test.capture]

theorem Test.capture_keeps {α : Type} (read : σ → α) (reset : ∀ args, read (test.reset args) = read args)
    (callback : ∀ args pkt, read (test.callback args pkt) = read args) (args : σ) (pkts : List π) :
    read (test.capture args pkts) = read args := by
  induction pkts using List.reverseRecOn with
  | nil => exact reset args
  | append_singleton pkts pkt ih => rw [Test.capture_snoc, callback, ih]

theorem Round.Obtained.round_eq {round : Round π} (obtained : round.Obtained hosts) (args : σ) :
    test.round hosts args round =
      (test.judge (test.capture args round.pkts)).map (fun _ => test.capture args round.pkts) := by
  simp only [Test.round, obtained.exchanged, obtained.handed]
  cases test.judge (test.capture args round.pkts) <;> rfl

theorem Round.Obtained.passes_iff {round : Round π} (obtained : round.Obtained hosts) (args : σ) :
    (∃ next, test.round hosts args round = .ok next) ↔ test.judge (test.capture args round.pkts) = .ok () := by
  rw [obtained.round_eq]
  cases test.judge (test.capture args round.pkts) with
  | error jump => simp [Except.map]
  | ok _ => simp [Except.map]

theorem Test.judged_of_round {round : Round π} {args next : σ} (passed : test.round hosts args round = .ok next) :
    next = test.capture args round.pkts ∧ test.judge next = .ok () := by
  simp only [Test.round] at passed
  cases exchanged : round.exchange hosts with
  | error jump => simp [exchanged, bind, Except.bind] at passed
  | ok _ =>
    cases handed : round.trrecvGet with
    | error rc => simp [exchanged, handed, bind, Except.bind] at passed
    | ok _ =>
      cases judged : test.judge (test.capture args round.pkts) with
      | error jump => simp [exchanged, handed, judged, bind, Except.bind] at passed
      | ok _ =>
        simp only [exchanged, handed, judged, bind, Except.bind, Except.ok.injEq] at passed
        exact ⟨passed.symm, passed ▸ judged⟩

theorem Test.sendLoop_inv (inv : σ → Prop) {args final : σ} {rounds : List (Round π)}
    (keeps : ∀ args pkts, inv args → test.judge (test.capture args pkts) = .ok () → inv (test.capture args pkts))
    (initial : inv args) (passed : test.sendLoop hosts args rounds = .ok final) : inv final := by
  induction rounds generalizing args with
  | nil =>
    obtain rfl : args = final := Except.ok.inj passed
    exact initial
  | cons round rounds ih =>
    simp only [Test.sendLoop, List.foldlM_cons] at passed
    cases first : test.round hosts args round with
    | error jump => simp [first, bind, Except.bind] at passed
    | ok next =>
      obtain ⟨rfl, judged⟩ := Test.judged_of_round first
      rw [first] at passed
      exact ih (keeps args round.pkts initial judged) passed

/-- In arguments with the invariant, packets that show a capture are accepted exactly if the capture is good. -/
structure Test.Judges {ν : Type} (test : Test π σ) (inv : σ → Prop) (pkts : ν → List π) (good : ν → Prop) : Prop where
  keeps : ∀ args pkts, inv args → test.judge (test.capture args pkts) = .ok () → inv (test.capture args pkts)
  accepts : ∀ args view, inv args → (test.judge (test.capture args (pkts view)) = .ok () ↔ good view)

namespace Test.Judges
variable {ν : Type} {inv : σ → Prop} {pkts : ν → List π} {good : ν → Prop} {args : σ}

theorem round_passes_iff (judges : test.Judges inv pkts good) {start : σ} (initial : inv start)
    {earlier : List (Round π)} (passed : test.sendLoop hosts start earlier = .ok args)
    {round : Round π} (obtained : round.Obtained hosts) {view : ν} (shown : round.pkts = pkts view) :
    (∃ next, test.round hosts args round = .ok next) ↔ good view := by
  have reached : inv args := Test.sendLoop_inv inv judges.keeps initial passed
  rw [obtained.passes_iff, shown]
  exact judges.accepts args view reached

theorem sendLoop_passes_iff (judges : test.Judges inv pkts good) (initial : inv args)
    {rounds : List (Round π)} {views : List ν}
    (shown : List.Forall₂ (fun round view => round.Obtained hosts ∧ round.pkts = pkts view) rounds views) :
    (∃ final, test.sendLoop hosts args rounds = .ok final) ↔ ∀ view ∈ views, good view := by
  induction shown generalizing args with
  | nil => simp [Test.sendLoop, pure, Except.pure]
  | @cons round view rounds views shown _ ih =>
    have head : (∃ next, test.round hosts args round = .ok next) ↔ good view := by
      rw [shown.1.passes_iff, shown.2]
      exact judges.accepts args view initial
    rw [List.forall_mem_cons, ← head]
    simp only [Test.sendLoop, List.foldlM_cons]
    cases first : test.round hosts args round with
    | error jump => simp [bind, Except.bind]
    | ok next =>
      obtain ⟨rfl, judged⟩ := Test.judged_of_round first
      have rest := ih (judges.keeps args round.pkts initial judged)
      rw [← rest]
      simp [bind, Except.bind, Test.sendLoop]

end Test.Judges
end
end NetDrv.Mtu
