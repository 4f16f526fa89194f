import NetDrv.Rss.Toeplitz

/-! When the detected Toeplitz variant can be trusted: exactly when each search for
ports ends before it runs out of attempts. After that many attempts the code goes on
with the last ports and with the queues of an older attempt. -/

namespace NetDrv.Rss
open Script

/-- A variant is supported by the connection used: both variants predict a queue for it, the ports were free,
and the packets came where `variant` and not where the other one predicts. -/
def Supported (nic : Nic) (traffic : Traffic) (done : Try) (variant : Variant) : Prop :=
  ∃ iut tst queue stats other, done.connection = some (iut, tst) ∧
    ⟨.iut, iut.port, true⟩ ∈ done.reports ∧ ⟨.tst, tst.port, true⟩ ∈ done.reports ∧
    traffic.statsRead = .ok stats ∧ gotQueue stats = .ok queue ∧
    nic.predicted variant tst iut = .ok queue.toInt32 ∧
    nic.predicted variant.other tst iut = .ok other ∧ other ≠ queue.toInt32

section
variable (nic : Nic) (iutAddr tstAddr : SockAddr) (choice : Choice)

/-- The address of the IUT in attempt `i`. -/
def Choice.iut (i : Nat) : SockAddr := iutAddr.setPort (choice.port i .iut)
/-- The address of the tester in attempt `i`. -/
def Choice.tst (i : Nat) : SockAddr := tstAddr.setPort (choice.port i .tst)

/-- The ports of attempt `i` tell the variants apart and are free. -/
def Discriminates (i : Nat) : Prop :=
  ∃ queueStd queueSym,
    nic.predicted .standard (choice.tst tstAddr i) (choice.iut iutAddr i) = .ok queueStd ∧
    nic.predicted .symOrXor (choice.tst tstAddr i) (choice.iut iutAddr i) = .ok queueSym ∧
    queueStd ≠ queueSym ∧ choice.portIsFree i .iut = .ok true ∧ choice.portIsFree i .tst = .ok true

/-- Some call that attempt `i` makes returns an error. -/
def Fails (i : Nat) : Prop :=
  (∃ variant rc, nic.toeplitzHashSa variant (choice.tst tstAddr i) (choice.iut iutAddr i) = .error rc) ∨
  ∃ hashStd hashSym,
    nic.toeplitzHashSa .standard (choice.tst tstAddr i) (choice.iut iutAddr i) = .ok hashStd ∧
    nic.toeplitzHashSa .symOrXor (choice.tst tstAddr i) (choice.iut iutAddr i) = .ok hashSym ∧
    hashStd % nic.tableSize ≠ hashSym % nic.tableSize ∧
    ((∃ rc, nic.indirGet (hashStd % nic.tableSize) = .error rc) ∨
      (∃ rc, nic.indirGet (hashSym % nic.tableSize) = .error rc) ∨
      nic.indirGet (hashStd % nic.tableSize) ≠ nic.indirGet (hashSym % nic.tableSize) ∧
        ((∃ rc, choice.portIsFree i .iut = .error rc) ∨
          choice.portIsFree i .iut = .ok true ∧ ∃ rc, choice.portIsFree i .tst = .error rc))

/-- Attempt `i` ends the search, one way or the other. -/
def Ends (i : Nat) : Prop := Discriminates nic iutAddr tstAddr choice i ∨ Fails nic iutAddr tstAddr choice i

/-- Attempt `i` chose the ports that the search ended with. -/
structure Found (i : Nat) (t : Try) : Prop where
  discriminates : Discriminates nic iutAddr tstAddr choice i
  iut : t.newIutAddr = choice.iut iutAddr i
  tst : t.newTstAddr = choice.tst tstAddr i
  std : nic.predicted .standard t.newTstAddr t.newIutAddr = .ok t.queueStd
  sym : nic.predicted .symOrXor t.newTstAddr t.newIutAddr = .ok t.queueSym
  differ : t.queueStd ≠ t.queueSym
  iutFree : ⟨.iut, t.newIutAddr.port, true⟩ ∈ t.reports
  tstFree : ⟨.tst, t.newTstAddr.port, true⟩ ∈ t.reports

/-- None of the attempts so far ended the search. -/
structure Missed (before : List Nat) (t : Try) : Prop where
  iut : ∀ port, t.newIutAddr.setPort port = iutAddr.setPort port
  tst : ∀ port, t.newTstAddr.setPort port = tstAddr.setPort port
  reports : ∀ report ∈ t.reports, report.side = .tst → report.free = false
  attempts : ∀ i ∈ before, ¬Ends nic iutAddr tstAddr choice i

variable {nic iutAddr tstAddr choice}

theorem port_ne_zero (i : Nat) (side : Side) : choice.port i side ≠ 0 := by
  have low := le_randRange minPort maxPort (choice.rand i side)
  have high : randRange minPort maxPort (choice.rand i side) ≤ maxPort := randRange_le (by decide) _
  intro zero
  have value := congrArg BitVec.toNat zero
  rw [Choice.port, BitVec.toNat_ofNat] at value
  simp only [minPort, maxPort] at *
  rw [Nat.mod_eq_of_lt (by omega)] at value
  simp at value
  omega

theorem predicted_eq {variant : Variant} {src dst : SockAddr} {hash : UInt32}
    (hashed : nic.toeplitzHashSa variant src dst = .ok hash) :
    nic.predicted variant src dst = nic.indirGet (hash % nic.tableSize) := by
  simp only [Nic.predicted, hashed, bind, Except.bind]

theorem rpcCheckPortIsFree_wp {i : Nat} {side : Side} {port : BitVec 16} {t : Try} :
    (rpcCheckPortIsFree choice i side port).wp
      (fun free u => choice.portIsFree i side = .ok free ∧ u = { t with reports := t.reports ++ [⟨side, port, free⟩] })
      (fun _ _ => ∃ rc, choice.portIsFree i side = .error rc) t := by
  simp only [rpcCheckPortIsFree, wp_bind, wp_checkRc, wp_update, wp_pure]
  split <;> simp_all

theorem not_ends {i : Nat} {hashStd hashSym : UInt32}
    (hashedStd : nic.toeplitzHashSa .standard (choice.tst tstAddr i) (choice.iut iutAddr i) = .ok hashStd)
    (hashedSym : nic.toeplitzHashSa .symOrXor (choice.tst tstAddr i) (choice.iut iutAddr i) = .ok hashSym)
    (goes : hashStd % nic.tableSize = hashSym % nic.tableSize ∨
      ∃ queueStd queueSym, nic.indirGet (hashStd % nic.tableSize) = .ok queueStd ∧
        nic.indirGet (hashSym % nic.tableSize) = .ok queueSym ∧
        (queueStd = queueSym ∨ choice.portIsFree i .iut = .ok false ∨
          choice.portIsFree i .iut = .ok true ∧ choice.portIsFree i .tst = .ok false)) :
    ¬Ends nic iutAddr tstAddr choice i := by
  rintro (⟨queueStd, queueSym, std, sym, differ, iutFree, tstFree⟩ | ⟨variant, rc, failed⟩ |
    ⟨hashStd', hashSym', std, sym, differ, failed⟩)
  · rw [predicted_eq hashedStd] at std
    rw [predicted_eq hashedSym] at sym
    rcases goes with same | ⟨_, _, std', sym', same | busy | ⟨_, busy⟩⟩ <;> simp_all
  · cases variant <;> simp_all
  · rcases goes with same | ⟨_, _, std', sym', same | busy | ⟨_, busy⟩⟩ <;> simp_all

theorem Missed.next {before : List Nat} {i : Nat} {t u : Try} (missed : Missed nic iutAddr tstAddr choice before t)
    (iut : u.newIutAddr = choice.iut iutAddr i) (tst : u.newTstAddr = choice.tst tstAddr i)
    (reports : ∀ report ∈ u.reports, report ∈ t.reports ∨ report.side = .iut ∨ report.free = false)
    (goes : ¬Ends nic iutAddr tstAddr choice i) : Missed nic iutAddr tstAddr choice (before ++ [i]) u := by
  refine ⟨fun port => by rw [iut]; rfl, fun port => by rw [tst]; rfl, ?_, ?_⟩
  · intro report member side
    rcases reports report member with old | iutSide | busy
    · exact missed.reports report old side
    · rw [side] at iutSide
      exact Side.noConfusion iutSide
    · exact busy
  · intro attempt member
    rcases List.mem_append.mp member with early | last
    · exact missed.attempts attempt early
    · rwa [List.mem_singleton.mp last]

theorem choosePorts_wp {before : List Nat} {t : Try} (i : Nat) (missed : Missed nic iutAddr tstAddr choice before t) :
    (choosePorts nic choice i).wp
      (fun found u => if found then Found nic iutAddr tstAddr choice i u
        else Missed nic iutAddr tstAddr choice (before ++ [i]) u)
      (fun _ _ => Fails nic iutAddr tstAddr choice i) t := by
  simp only [choosePorts, wp_bind, wp_update, wp_gets, wp_checkRc, missed.iut, missed.tst]
  have iut : iutAddr.setPort (choice.port i .iut) = choice.iut iutAddr i := rfl
  have tst : tstAddr.setPort (choice.port i .tst) = choice.tst tstAddr i := rfl
  rw [iut, tst]
  cases hashedStd : nic.toeplitzHashSa .standard (choice.tst tstAddr i) (choice.iut iutAddr i) with
  | error rc => exact .inl ⟨_, _, hashedStd⟩
  | ok hashStd =>
  cases hashedSym : nic.toeplitzHashSa .symOrXor (choice.tst tstAddr i) (choice.iut iutAddr i) with
  | error rc => exact .inl ⟨_, _, hashedSym⟩
  | ok hashSym =>
  dsimp only
  by_cases same : hashStd % nic.tableSize = hashSym % nic.tableSize
  · rw [if_neg (not_not.mpr same)]
    exact missed.next rfl rfl (fun _ old => .inl old) (not_ends hashedStd hashedSym (.inl same))
  rw [if_pos same]
  simp only [wp_bind, wp_update, wp_checkRc]
  cases readStd : nic.indirGet (hashStd % nic.tableSize) with
  | error rc => exact .inr ⟨_, _, hashedStd, hashedSym, same, .inl ⟨_, readStd⟩⟩
  | ok queueStd =>
  cases readSym : nic.indirGet (hashSym % nic.tableSize) with
  | error rc => exact .inr ⟨_, _, hashedStd, hashedSym, same, .inr (.inl ⟨_, readSym⟩)⟩
  | ok queueSym =>
  dsimp only
  have goes : (queueStd = queueSym ∨ choice.portIsFree i .iut = .ok false ∨
      choice.portIsFree i .iut = .ok true ∧ choice.portIsFree i .tst = .ok false) →
      ¬Ends nic iutAddr tstAddr choice i :=
    fun reason => not_ends hashedStd hashedSym (.inr ⟨_, _, readStd, readSym, reason⟩)
  by_cases sameQueue : queueStd = queueSym
  · rw [if_neg (not_not.mpr sameQueue)]
    exact missed.next rfl rfl (fun _ old => .inl old) (goes (.inl sameQueue))
  rw [if_pos sameQueue, if_neg (port_ne_zero i .iut)]
  have refused : ((∃ rc, choice.portIsFree i .iut = .error rc) ∨
      choice.portIsFree i .iut = .ok true ∧ ∃ rc, choice.portIsFree i .tst = .error rc) →
      Fails nic iutAddr tstAddr choice i := fun reason =>
    .inr ⟨_, _, hashedStd, hashedSym, same, .inr (.inr ⟨by simpa [readStd, readSym] using sameQueue, reason⟩)⟩
  refine wp_seq rpcCheckPortIsFree_wp ?_ (fun _ _ failed => refused (.inl failed))
  rintro (_ | _) u ⟨iutAnswer, rfl⟩
  · refine missed.next rfl rfl (fun report member => ?_) (goes (.inr (.inl iutAnswer)))
    rcases List.mem_append.mp member with old | new
    · exact .inl old
    · rw [List.mem_singleton.mp new]
      exact .inr (.inl rfl)
  · refine wp_mono rpcCheckPortIsFree_wp ?_ (fun _ _ failed => refused (.inr ⟨iutAnswer, failed⟩))
    rintro (_ | _) v ⟨tstAnswer, rfl⟩
    · refine missed.next rfl rfl (fun report member => ?_) (goes (.inr (.inr ⟨iutAnswer, tstAnswer⟩)))
      rcases List.mem_append.mp member with old | new
      · rcases List.mem_append.mp old with old | new
        · exact .inl old
        · rw [List.mem_singleton.mp new]
          exact .inr (.inl rfl)
      · rw [List.mem_singleton.mp new]
        exact .inr (.inr rfl)
    · have std := (predicted_eq hashedStd).trans readStd
      have sym := (predicted_eq hashedSym).trans readSym
      exact ⟨⟨_, _, std, sym, sameQueue, iutAnswer, tstAnswer⟩, rfl, rfl, std, sym, sameQueue,
        List.mem_append_left _ (List.mem_append_right _ (List.mem_singleton.mpr rfl)),
        List.mem_append_right _ (List.mem_singleton.mpr rfl)⟩

theorem search_wp (nic : Nic) (iutAddr tstAddr : SockAddr) (choice : Choice) (n : Nat) :
    (findFirst (List.range n) (choosePorts nic choice)).wp
      (fun found u => if found then ∃ i ∈ List.range n, Found nic iutAddr tstAddr choice i u
        else Missed nic iutAddr tstAddr choice (List.range n) u)
      (fun _ _ => ∃ i < n, Fails nic iutAddr tstAddr choice i) (Try.start iutAddr tstAddr choice) := by
  refine wp_search (Missed nic iutAddr tstAddr choice) (Found nic iutAddr tstAddr choice) _ ?_
    ⟨fun _ => rfl, fun _ => rfl, by simp [Try.start], by simp⟩
  intro before i after t whole missed
  exact wp_mono (choosePorts_wp i missed) (fun _ _ result => result)
    (fun _ _ failed => ⟨i, (range_split whole).2, failed⟩)

theorem search_exhausted {n : Nat} (goes : ∀ i < n, ¬Ends nic iutAddr tstAddr choice i) :
    ∃ t, findFirst (List.range n) (choosePorts nic choice) (Try.start iutAddr tstAddr choice) = (.ok false, t) ∧
      Missed nic iutAddr tstAddr choice (List.range n) t := by
  have searched := search_wp nic iutAddr tstAddr choice n
  unfold wp at searched
  split at searched
  next found t run =>
    cases found with
    | false => exact ⟨t, run, searched⟩
    | true =>
      obtain ⟨i, member, found⟩ := searched
      exact absurd (.inl found.discriminates) (goes i (List.mem_range.mp member))
  next =>
    obtain ⟨i, below, failed⟩ := searched
    exact absurd (.inr failed) (goes i below)

section
variable {traffic : Traffic} {t : Try}

theorem sendGetRxQueue_wp :
    (sendGetRxQueue traffic).wp
      (fun queue u => u = t ∧ ∃ stats, traffic.statsRead = .ok stats ∧ gotQueue stats = .ok queue)
      (fun _ _ => True) t := by
  simp only [sendGetRxQueue, wp_bind, wp_checkRc]
  split
  · refine wp_weaken (wp_forEach (fun _ u => u = t) _ ?_ rfl) ?_
    · rintro before i after u - rfl
      rw [wp_checkRc]
      split <;> trivial
    · rintro - u rfl
      rw [wp_bind, wp_checkRc]
      cases traffic.statsRead with
      | error rc => trivial
      | ok stats =>
        cases counted : gotQueue stats with
        | error jump => simp only [counted, wp_fail]
        | ok queue => simp only [counted, wp_pure, Except.ok.injEq, true_and, exists_eq_left']
  · trivial

theorem matchQueue_wp {queue : UInt32} :
    (matchQueue queue).wp
      (fun variant u => u = t ∧ (variant = .standard ∧ queue.toInt32 = t.queueStd ∨
        variant = .symOrXor ∧ queue.toInt32 = t.queueSym))
      (fun _ _ => True) t := by
  simp only [matchQueue, wp_bind, wp_gets]
  split
  · next std => exact ⟨rfl, .inl ⟨rfl, std⟩⟩
  · split
    · next sym => exact ⟨rfl, .inr ⟨rfl, sym⟩⟩
    · trivial

theorem wp_checkRc_seq {α : Type} {answer : Except TeErrno Unit} {rest : Script Jump Try α} {done : α → Try → Prop}
    (holds : rest.wp done (fun _ _ => True) t) : (do checkRc answer; rest).wp done (fun _ _ => True) t := by
  rw [wp_bind]
  exact wp_checkRc_any (fun _ => holds) (fun _ => trivial)

theorem useConnection_wp :
    (useConnection traffic).wp
      (fun variant u => u = { t with connection := some (t.newIutAddr, t.newTstAddr) } ∧
        ∃ stats queue, traffic.statsRead = .ok stats ∧ gotQueue stats = .ok queue ∧
          (variant = .standard ∧ queue.toInt32 = t.queueStd ∨
            variant = .symOrXor ∧ queue.toInt32 = t.queueSym))
      (fun _ _ => True) t := by
  unfold useConnection genConnection
  simp only [bind_assoc]
  apply wp_checkRc_seq
  rw [wp_bind, wp_update]
  apply wp_checkRc_seq
  apply wp_checkRc_seq
  refine wp_seq sendGetRxQueue_wp ?_ (fun _ _ _ => trivial)
  rintro queue u ⟨rfl, stats, read, counted⟩
  refine wp_seq matchQueue_wp ?_ (fun _ _ _ => trivial)
  rintro variant u ⟨rfl, matched⟩
  apply wp_checkRc_seq
  apply wp_checkRc_seq
  exact ⟨rfl, stats, queue, read, counted, matched⟩

end

theorem tryDetect_supported {traffic : Traffic} {variant : Variant} {done : Try}
    (ends : ∃ i < maxAttempts, Ends nic iutAddr tstAddr choice i)
    (run : tryDetect nic iutAddr tstAddr choice traffic = (.ok variant, done)) :
    Supported nic traffic done variant := by
  suffices holds : (tryDetectToeplitzVariant nic choice traffic).wp
      (fun variant done => Supported nic traffic done variant) (fun _ _ => True) (Try.start iutAddr tstAddr choice) by
    have supported := wp_ok holds run
    exact supported
  refine wp_seq (search_wp nic iutAddr tstAddr choice maxAttempts) ?_ (fun _ _ _ => trivial)
  rintro (_ | _) t searched
  · obtain ⟨i, below, ends⟩ := ends
    exact absurd ends (searched.attempts i (List.mem_range.mpr below))
  · obtain ⟨i, -, found⟩ := searched
    apply wp_weaken useConnection_wp
    rintro variant done ⟨rfl, stats, queue, read, counted, ⟨rfl, matched⟩ | ⟨rfl, matched⟩⟩
    · exact ⟨_, _, queue, stats, t.queueSym, rfl, found.iutFree, found.tstFree, read, counted,
        matched ▸ found.std, found.sym, matched ▸ found.differ.symm⟩
    · exact ⟨_, _, queue, stats, t.queueStd, rfl, found.iutFree, found.tstFree, read, counted,
        matched ▸ found.sym, found.std, matched ▸ found.differ⟩

def Traffic.onQueue (queue : UInt32) : Traffic :=
  ⟨.ok (), .ok (), .ok (), .ok (), fun _ => .ok (), .ok [⟨queue, 10⟩], fun _ => .ok ()⟩

theorem gotQueue_onQueue (queue : UInt32) : gotQueue [⟨queue, 10⟩] = .ok queue := by
  have bound := queue.toNat_lt
  have same : UInt32.ofInt (queue.toNat : Int) = queue := by
    rw [UInt32.ofInt, Int.emod_eq_of_lt (by omega) (by omega)]
    simp
  simp [gotQueue, countPkts, bind, Except.bind, pktsNum, same]

theorem useConnection_onQueue (t : Try) :
    useConnection (.onQueue t.queueStd.toUInt32) t =
      (.ok .standard, { t with connection := some (t.newIutAddr, t.newTstAddr) }) := by
  simp [useConnection, genConnection, Traffic.onQueue, checkRc, sendGetRxQueue, gotQueue_onQueue, matchQueue, bind, pure,
    update, gets, pktsNum, forEach, List.range, List.range.loop]

/-- After a search that ran out of attempts, packets on the queue left in `queue_std` are taken for the standard
hash, with nothing that supports it. -/
theorem tryDetect_unsupported (goes : ∀ i < maxAttempts, ¬Ends nic iutAddr tstAddr choice i) :
    ∃ t done, findFirst (List.range maxAttempts) (choosePorts nic choice) (Try.start iutAddr tstAddr choice) =
        (.ok false, t) ∧
      tryDetect nic iutAddr tstAddr choice (.onQueue t.queueStd.toUInt32) = (.ok .standard, done) ∧
      ¬Supported nic (.onQueue t.queueStd.toUInt32) done .standard := by
  obtain ⟨t, run, missed⟩ := search_exhausted goes
  refine ⟨t, { t with connection := some (t.newIutAddr, t.newTstAddr) }, run, ?_, ?_⟩
  · exact (bind_ok run).trans (useConnection_onQueue t)
  · rintro ⟨iut, tst, queue, stats, other, -, -, tstFree, -⟩
    exact Bool.noConfusion (missed.reports _ tstFree rfl)

end

section
variable {nic : Nic} {iutAddr tstAddr : SockAddr} {choice : Nat → Choice} {traffic : Nat → Traffic}

/-- After `i` attempts: they all agree. -/
structure Agreed (nic : Nic) (iutAddr tstAddr : SockAddr) (choice : Nat → Choice) (traffic : Nat → Traffic)
    (i : Nat) (p : Prologue) : Prop where
  stored : p.stored = none
  agreed : 0 < i → ∃ variant, p.variant = some variant ∧ p.prevVariant = some variant ∧
    ∀ k < i, (tryDetect nic iutAddr tstAddr (choice k) (traffic k)).1 = .ok variant

theorem detectOnce_wp {i : Nat} {p : Prologue} (agreed : Agreed nic iutAddr tstAddr choice traffic i p) :
    (detectOnce nic iutAddr tstAddr choice traffic i).wp
      (fun _ => Agreed nic iutAddr tstAddr choice traffic (i + 1)) (fun _ p => p.stored = none) p := by
  unfold detectOnce
  cases detected : (tryDetect nic iutAddr tstAddr (choice i) (traffic i)).1 with
  | error jump => exact agreed.stored
  | ok variant =>
    simp only [wp_bind, wp_update, wp_gets]
    by_cases differs : 0 < i ∧ p.prevVariant ≠ some variant
    · rw [decide_eq_true differs]
      exact agreed.stored
    · rw [decide_eq_false differs]
      refine ⟨agreed.stored, fun _ => ⟨variant, rfl, rfl, Nat.forall_lt_succ_right.mpr ⟨fun k early => ?_, detected⟩⟩⟩
      have later : 0 < i := Nat.zero_lt_of_lt early
      obtain ⟨old, -, prev, all⟩ := agreed.agreed later
      have same : p.prevVariant = some variant := by
        by_contra other
        exact differs ⟨later, other⟩
      rw [all k early, ← Option.some.inj (prev.symm.trans same)]

theorem detectToeplitzVariant_wp (registerObject addInstance : Except TeErrno Unit) :
    (detectToeplitzVariant nic iutAddr tstAddr choice traffic registerObject addInstance).wp
      (fun _ p => ∀ variant, p.stored = some variant →
        ∀ k < attemptsNum, (tryDetect nic iutAddr tstAddr (choice k) (traffic k)).1 = .ok variant)
      (fun _ p => p.stored = none) Prologue.start := by
  refine wp_seq (wp_forRange (Agreed nic iutAddr tstAddr choice traffic) attemptsNum
    (fun i _ p agreed => detectOnce_wp agreed) ⟨rfl, fun positive => absurd positive (Nat.lt_irrefl 0)⟩) ?_
    (fun _ _ failed => failed)
  intro _ p agreed
  obtain ⟨variant, current, -, all⟩ := agreed.agreed (by decide)
  have verdict : ∀ verdicts, (when (decide (p.variant = some .symOrXor)) (update (fun p : Prologue =>
      { p with ringVerdicts := p.ringVerdicts ++ verdicts }))).wp
      (fun _ p => p.stored = none) (fun (_ : Jump) p => p.stored = none) p := by
    intro verdicts
    unfold when
    split
    · exact agreed.stored
    · exact agreed.stored
  rw [wp_bind, wp_gets]
  refine wp_seq (verdict _) ?_ (fun _ _ failed => failed)
  intro _ u stored
  simp only [wp_bind, wp_checkRc, wp_update]
  split
  · split
    · intro reported same
      rw [current] at same
      rwa [← Option.some.inj same]
    · exact stored
  · exact stored

theorem detectToeplitzVariant_stored {registerObject addInstance : Except TeErrno Unit} {variant : Variant}
    (stored : (detectToeplitzVariant nic iutAddr tstAddr choice traffic registerObject addInstance
      Prologue.start).2.stored = some variant) :
    ∀ k < attemptsNum, (tryDetect nic iutAddr tstAddr (choice k) (traffic k)).1 = .ok variant := by
  refine wp_final (fun p => p.stored = some variant → _) (detectToeplitzVariant_wp registerObject addInstance)
    (fun _ p all => all variant) ?_ stored
  intro _ p empty same
  rw [empty] at same
  cases same

/-- A reported variant is supported whatever is observed, and so is the one stored, exactly if every search
for ports ends before its attempts run out. -/
theorem toeplitz_variant_supported (nic : Nic) (iutAddr tstAddr : SockAddr) (choice : Nat → Choice) :
    ((∀ k < attemptsNum, ∀ traffic variant done,
        tryDetect nic iutAddr tstAddr (choice k) traffic = (.ok variant, done) → Supported nic traffic done variant) ∧
      ∀ traffic registerObject addInstance variant,
        (detectToeplitzVariant nic iutAddr tstAddr choice traffic registerObject addInstance
          Prologue.start).2.stored = some variant →
        ∀ k < attemptsNum, ∃ done, tryDetect nic iutAddr tstAddr (choice k) (traffic k) = (.ok variant, done) ∧
          Supported nic (traffic k) done variant) ↔
    ∀ k < attemptsNum, ∃ i < maxAttempts, Ends nic iutAddr tstAddr (choice k) i := by
  constructor
  · rintro ⟨supported, -⟩ k below
    by_contra goes
    have exhausted : ∀ i < maxAttempts, ¬Ends nic iutAddr tstAddr (choice k) i :=
      fun i attempt ends => goes ⟨i, attempt, ends⟩
    obtain ⟨t, done, -, run, unsupported⟩ := tryDetect_unsupported exhausted
    exact unsupported (supported k below _ _ _ run)
  · intro ends
    refine ⟨fun k below traffic variant done run => tryDetect_supported (ends k below) run, ?_⟩
    intro traffic registerObject addInstance variant stored k below
    have reported := detectToeplitzVariant_stored stored k below
    refine ⟨_, Prod.ext reported rfl, ?_⟩
    exact tryDetect_supported (ends k below) (Prod.ext reported rfl)

/-- Two entries and two queues; each hash is the port of one side. -/
def twoQueues : Nic where
  toeplitzHashSa variant src dst :=
    match variant with
    | .standard => .ok (UInt32.ofNat dst.port.toNat)
    | .symOrXor => .ok (UInt32.ofNat src.port.toNat)
  indirGet i := .ok i.toInt32
  tableSize := 2
  multiple := by decide

/-- The first attempt chooses a busy port, the others choose one number for both ports. -/
def busyThenEqual : Choice where
  rand i side := if i = 0 ∧ side = .tst then 1 else 0
  portIsFree _ _ := .ok false
  stale _ := -1

theorem busyThenEqual_goes (i : Nat) : ¬Ends twoQueues ⟨[10], 0⟩ ⟨[11], 0⟩ busyThenEqual i := by
  cases i with
  | zero => exact not_ends rfl rfl (.inr ⟨0, 1, rfl, rfl, .inr (.inl rfl)⟩)
  | succ i => exact not_ends rfl rfl (.inl rfl)

theorem busyThenEqual_first (t : Try) :
    choosePorts twoQueues busyThenEqual 0 t = (.ok false, { t with
      newIutAddr := t.newIutAddr.setPort 20000, newTstAddr := t.newTstAddr.setPort 20001
      queueStd := 0, queueSym := 1, reports := t.reports ++ [⟨.iut, 20000, false⟩] }) := by
  have iut : busyThenEqual.port 0 .iut = 20000 := by decide
  have tst : busyThenEqual.port 0 .tst = 20001 := by decide
  have busy : busyThenEqual.portIsFree 0 .iut = .ok false := rfl
  simp [choosePorts, iut, tst, twoQueues, rpcCheckPortIsFree, busy, checkRc, SockAddr.setPort, bind, pure, update, gets]

theorem busyThenEqual_later (i : Nat) (t : Try) :
    choosePorts twoQueues busyThenEqual (i + 1) t = (.ok false, { t with
      newIutAddr := t.newIutAddr.setPort 20000, newTstAddr := t.newTstAddr.setPort 20000 }) := by
  have iut : busyThenEqual.port (i + 1) .iut = 20000 := rfl
  have tst : busyThenEqual.port (i + 1) .tst = 20000 := rfl
  simp [choosePorts, iut, tst, twoQueues, checkRc, SockAddr.setPort, bind, pure, update, gets]

theorem busyThenEqual_queueStd {n : Nat} {t : Try} (positive : 0 < n)
    (run : findFirst (List.range n) (choosePorts twoQueues busyThenEqual)
      (Try.start ⟨[10], 0⟩ ⟨[11], 0⟩ busyThenEqual) = (.ok false, t)) : t.queueStd = 0 := by
  have searched : (findFirst (List.range n) (choosePorts twoQueues busyThenEqual)).wp
      (fun found t => if found then ∃ i ∈ List.range n, False else List.range n ≠ [] → t.queueStd = 0)
      (fun _ _ => False) (Try.start ⟨[10], 0⟩ ⟨[11], 0⟩ busyThenEqual) := by
    refine wp_search (fun before (t : Try) => before ≠ [] → t.queueStd = 0) (fun _ _ => False) _ ?_
      (fun nonempty => absurd rfl nonempty)
    intro before i after t whole left
    obtain ⟨rfl, -⟩ := range_split whole
    cases before with
    | nil => simp [wp, busyThenEqual_first]
    | cons first before =>
      simp only [wp, List.length_cons, busyThenEqual_later]
      exact fun _ => left (List.cons_ne_nil _ _)
  have left := wp_ok searched run
  exact left (by simpa using Nat.ne_of_gt positive)

theorem toeplitz_variant_leftover :
    ∃ done, tryDetect twoQueues ⟨[10], 0⟩ ⟨[11], 0⟩ busyThenEqual (.onQueue 0) = (.ok .standard, done) ∧
      ¬Supported twoQueues (.onQueue 0) done .standard := by
  obtain ⟨t, done, run, reported, unsupported⟩ := tryDetect_unsupported (fun i _ => busyThenEqual_goes i)
  rw [busyThenEqual_queueStd (by decide +kernel) run] at reported unsupported
  exact ⟨done, reported, unsupported⟩

end
end NetDrv.Rss
