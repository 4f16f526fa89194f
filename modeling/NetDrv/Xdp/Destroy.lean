import NetDrv.Xdp.Lifecycle

/-! What `net_drv_xdp_destroy_sock()` and `net_drv_xdp_destroy_socks()` do in any state
in which the invariant holds, provided that a failed delete is noticed: the result of
the delete RPC is kept in a `te_errno`. -/

namespace NetDrv.Xdp
open Script

/-- A delete RPC that fails has a result that is negative as a `te_errno` too. -/
def Env.Notices (env : Env) : Prop :=
  ∀ n request, request.deletes = true → (env.reply n request).result < 0 →
    env.negative (env.reply n request).result = true

def Exchange.failedDelete (exchange : Exchange) : Bool :=
  exchange.rpc.deletes && decide (exchange.reply.result < 0)

def firstFailure (entries : List Exchange) : Option TeErrno :=
  (entries.find? Exchange.failedDelete).map (fun exchange => exchange.reply.errno)

/-- No delete that was tried between the two states failed. -/
def World.DeletesSucceed (w now : World) : Prop := firstFailure (now.log.drop w.log.length) = none

/-- The first RPC that destroying a structure takes. -/
def XdpSock.firstRelease (s : XdpSock) : Option Rpc :=
  if s.sock ≠ rpcNull then some (.socketDelete s.sock)
  else if s.umem ≠ rpcNull then some (.umemDelete s.umem)
  else if s.mem ≠ rpcNull then some (.free s.mem)
  else none

theorem firstFailure_append (front back : List Exchange) :
    firstFailure (front ++ back) = (firstFailure front).or (firstFailure back) := by
  simp only [firstFailure, List.find?_append]
  cases front.find? Exchange.failedDelete <;> rfl

theorem deletesSucceed_append {w now : World} {entries : List Exchange} (log : now.log = w.log ++ entries) :
    w.DeletesSucceed now ↔ firstFailure entries = none := by
  rw [World.DeletesSucceed, log, List.drop_left]

theorem deletesSucceed_trans {w middle now : World} (first : w.log <+: middle.log) (second : middle.log <+: now.log) :
    w.DeletesSucceed now ↔ w.DeletesSucceed middle ∧ middle.DeletesSucceed now := by
  obtain ⟨front, first⟩ := first
  obtain ⟨back, second⟩ := second
  have whole : now.log = w.log ++ (front ++ back) := by rw [← second, ← first, List.append_assoc]
  rw [deletesSucceed_append whole, deletesSucceed_append first.symm, deletesSucceed_append second.symm,
    firstFailure_append, Option.or_eq_none_iff]

/-- Steps on the structure at `addr`, with the RPCs they took. -/
structure Progress (addr : Nat) (w now : World) (entries : List Exchange) : Prop where
  inv : Inv now
  touches : Touches addr w now
  log : now.log = w.log ++ entries

section
variable {ε : Type} {env : Env} {addr : Nat} {w now : World}

theorem Progress.refl (inv : Inv w) : Progress addr w w [] := ⟨inv, .refl, by simp⟩

theorem Progress.grown {entries : List Exchange} (progress : Progress addr w now entries) : w.log <+: now.log :=
  ⟨entries, progress.log.symm⟩

theorem Progress.trans {middle : World} {front back : List Exchange} (left : Progress addr w middle front)
    (right : Progress addr middle now back) : Progress addr w now (front ++ back) where
  inv := right.inv
  touches := left.touches.trans right.touches
  log := by rw [right.log, left.log, List.append_assoc]

theorem Progress.rest {entries : List Exchange} (progress : Progress addr w now entries) {now' : World}
    (agent : now'.agent = now.agent) (heap : now'.heap = now.heap) (log : now'.log = now.log)
    (top : now'.top = now.top) (socksOut : now'.socksOut = now.socksOut) : Progress addr w now' entries where
  inv := by
    obtain ⟨owns, apart, older, faults⟩ := progress.inv
    rw [← agent] at older faults
    rw [← heap] at apart
    rw [← heap, ← agent] at owns
    exact ⟨owns, apart, older, faults⟩
  touches := by
    refine progress.touches.tail ⟨fun _ _ => by rw [heap], top, socksOut, .idle agent (fun _ => by rw [heap])⟩
  log := log.trans progress.log

theorem Progress.removed (inv : Inv w) {handle : Nat} (clear : XdpSock → XdpSock)
    (releasable : w.agent.Releasable handle) (held : (w.heap addr).Holds handle)
    (holds : ∀ h, (clear (w.heap addr)).Holds h ↔ (w.heap addr).Holds h ∧ h ≠ handle)
    (owns : Owns (w.agent.remove handle releasable.1) (clear (w.heap addr))) (exchange : Exchange) :
    Progress addr w
      { w with
        agent := w.agent.request handle true
        log := w.log ++ [exchange]
        heap := Function.update w.heap addr (clear (w.heap addr)) }
      [exchange] := by
  rw [Ledger.request_granted releasable]
  have touch : Touch addr w
      { w with
        agent := w.agent.remove handle releasable.1
        log := w.log ++ [exchange]
        heap := Function.update w.heap addr (clear (w.heap addr)) } := by
    refine ⟨fun other different => Function.update_of_ne different _ _, rfl, rfl, ?_⟩
    refine .released handle releasable.1 held rfl ?_
    simpa only [Function.update_self] using holds
  refine ⟨inv.touch touch ?_, .single touch, rfl⟩
  simpa only [Function.update_self] using owns

theorem Progress.refused (inv : Inv w) {handle : Nat} (releasable : w.agent.Releasable handle)
    (exchange : Exchange) :
    Progress addr w { w with agent := w.agent.request handle false, log := w.log ++ [exchange] } [exchange] := by
  rw [Ledger.request_refused releasable]
  exact ⟨⟨inv.owns, inv.apart, inv.older, inv.faults⟩,
    .single ⟨fun _ _ => rfl, rfl, rfl, .idle rfl (fun _ => Iff.rfl)⟩, rfl⟩

theorem wp_rpcRelease {done : Reply → World → Prop} {failed : ε → World → Prop} (request : Rpc) (handle : Nat) :
    (rpcRelease env request handle).wp done failed w ↔
      done (env.reply w.log.length request) { w with
        agent := w.agent.request handle (decide (0 ≤ (env.reply w.log.length request).result))
        log := w.log ++ [⟨request, env.reply w.log.length request⟩] } := Iff.rfl

theorem deleteStep_wp (notices : env.Notices) (inv : Inv w) (name : String) {request : Rpc}
    (deletes : request.deletes = true) {handle : Nat} (clear : XdpSock → XdpSock)
    (ready : handle ≠ rpcNull → ∃ releasable : w.agent.Releasable handle, (w.heap addr).Holds handle ∧
      (∀ h, (clear (w.heap addr)).Holds h ↔ (w.heap addr).Holds h ∧ h ≠ handle) ∧
      Owns (w.agent.remove handle releasable.1) (clear (w.heap addr))) :
    (deleteStep env name request handle addr clear).wp
      (fun _ now => ∃ entries, Progress addr w now entries ∧ firstFailure entries = none ∧
        (handle ≠ rpcNull → request ∈ entries.map Exchange.rpc ∧ now.heap addr = clear (w.heap addr)) ∧
        (handle = rpcNull → now = w))
      (fun rc now => ∃ entries, Progress addr w now entries ∧ firstFailure entries = some rc ∧
        handle ≠ rpcNull ∧ request ∈ entries.map Exchange.rpc) w := by
  by_cases null : handle = rpcNull
  · simp only [deleteStep, null, bne_self_eq_false, when]
    exact ⟨[], .refl inv, rfl, fun valid => absurd rfl valid, fun _ => rfl⟩
  obtain ⟨releasable, held, holds, owns⟩ := ready null
  rw [deleteStep, when, if_pos (bne_iff_ne.mpr null), wp_bind, wp_rpcRelease]
  by_cases failed : (env.reply w.log.length request).result < 0
  · have refused : decide (0 ≤ (env.reply w.log.length request).result) = false := by simpa using failed
    rw [checkDelete, if_pos (notices _ request deletes failed), refused]
    refine ⟨_, (Progress.refused inv releasable _).rest rfl rfl rfl rfl rfl, ?_, null, ?_⟩
    · simp [firstFailure, Exchange.failedDelete, deletes, failed]
    · simp
  · have granted : decide (0 ≤ (env.reply w.log.length request).result) = true := by simpa using failed
    rw [checkDelete, if_neg (fun negative => failed (env.nonnegative _ negative)), granted]
    refine ⟨_, Progress.removed inv clear releasable held holds owns _, ?_, fun _ => ⟨?_, ?_⟩,
      fun same => absurd same null⟩
    · simp [firstFailure, Exchange.failedDelete, failed]
    · simp
    · exact Function.update_self _ _ _

theorem Owns.holds_clear_sock {agent : Ledger Kind} {s s' : XdpSock} (owns : Owns agent s) (valid : s.sock ≠ 0)
    (mem : s'.mem = s.mem) (umem : s'.umem = s.umem) (sock : s'.sock = 0) (h : Nat) :
    s'.Holds h ↔ s.Holds h ∧ h ≠ s.sock := by
  have order := owns.sockOrder valid
  have order' := owns.umemOrder (Nat.ne_of_gt order.1)
  simp only [XdpSock.Holds, rpcNull, mem, umem, sock]
  omega

theorem Owns.holds_clear_umem {agent : Ledger Kind} {s s' : XdpSock} (owns : Owns agent s) (valid : s.umem ≠ 0)
    (none : s.sock = 0) (mem : s'.mem = s.mem) (umem : s'.umem = 0) (sock : s'.sock = 0) (h : Nat) :
    s'.Holds h ↔ s.Holds h ∧ h ≠ s.umem := by
  have order := owns.umemOrder valid
  simp only [XdpSock.Holds, rpcNull, mem, umem, sock, none]
  omega

theorem deleteSock_wp (notices : env.Notices) (inv : Inv w) :
    (deleteStep env "xsk_socket__delete()" (.socketDelete (w.heap addr).sock) (w.heap addr).sock addr
        (fun sock => { sock with sock := rpcNull, fd := -1, queueId := 0, txCapable := false })).wp
      (fun _ now => ∃ entries, Progress addr w now entries ∧ firstFailure entries = none ∧
        ((w.heap addr).sock ≠ rpcNull → .socketDelete (w.heap addr).sock ∈ entries.map Exchange.rpc) ∧
        (now.heap addr).sock = rpcNull ∧ (now.heap addr).umem = (w.heap addr).umem ∧
        (now.heap addr).mem = (w.heap addr).mem)
      (fun rc now => ∃ entries, Progress addr w now entries ∧ firstFailure entries = some rc ∧
        (w.heap addr).sock ≠ rpcNull ∧ .socketDelete (w.heap addr).sock ∈ entries.map Exchange.rpc) w := by
  have owns := inv.owns addr
  refine wp_weaken (deleteStep_wp notices inv _ rfl _ ?_) ?_
  · intro valid
    refine ⟨owns.releasable_sock valid, ⟨valid, .inr (.inr rfl)⟩, ?_, ?_⟩
    · exact owns.holds_clear_sock valid rfl rfl rfl
    · exact owns.remove_sock valid _ rfl rfl rfl
  · rintro _ now ⟨entries, progress, success, cleared, same⟩
    by_cases null : (w.heap addr).sock = rpcNull
    · obtain rfl := same null
      exact ⟨entries, progress, success, fun valid => absurd null valid, null, rfl, rfl⟩
    · obtain ⟨requested, heap⟩ := cleared null
      exact ⟨entries, progress, success, fun _ => requested, by rw [heap], by rw [heap], by rw [heap]⟩

theorem deleteUmem_wp (notices : env.Notices) (inv : Inv w) (noSock : (w.heap addr).sock = rpcNull) :
    (deleteStep env "xsk_umem__delete()" (.umemDelete (w.heap addr).umem) (w.heap addr).umem addr
        (fun sock => { sock with umem := rpcNull })).wp
      (fun _ now => ∃ entries, Progress addr w now entries ∧ firstFailure entries = none ∧
        ((w.heap addr).umem ≠ rpcNull → .umemDelete (w.heap addr).umem ∈ entries.map Exchange.rpc) ∧
        (now.heap addr).sock = rpcNull ∧ (now.heap addr).umem = rpcNull ∧
        (now.heap addr).mem = (w.heap addr).mem)
      (fun rc now => ∃ entries, Progress addr w now entries ∧ firstFailure entries = some rc ∧
        (w.heap addr).umem ≠ rpcNull ∧ .umemDelete (w.heap addr).umem ∈ entries.map Exchange.rpc) w := by
  have owns := inv.owns addr
  refine wp_weaken (deleteStep_wp notices inv _ rfl _ ?_) ?_
  · intro valid
    refine ⟨owns.releasable_umem noSock valid, ⟨valid, .inr (.inl rfl)⟩, ?_, ?_⟩
    · exact owns.holds_clear_umem valid noSock rfl rfl noSock
    · exact owns.remove_umem valid _ rfl rfl noSock
  · rintro _ now ⟨entries, progress, success, cleared, same⟩
    by_cases null : (w.heap addr).umem = rpcNull
    · obtain rfl := same null
      exact ⟨entries, progress, success, fun valid => absurd null valid, noSock, null, rfl⟩
    · obtain ⟨requested, heap⟩ := cleared null
      refine ⟨entries, progress, success, fun _ => requested, ?_, by rw [heap], by rw [heap]⟩
      rw [heap]
      exact noSock

theorem freeMem_wp (inv : Inv w) (noSock : (w.heap addr).sock = rpcNull) (noUmem : (w.heap addr).umem = rpcNull) :
    Script.wp (when ((w.heap addr).mem != rpcNull) (do
        rpcFree env (w.heap addr).mem
        setSock addr (fun sock => { sock with mem := rpcNull })) : Script ε World Unit)
      (fun _ now => ∃ entries, Progress addr w now entries ∧ firstFailure entries = none ∧
        ((w.heap addr).mem ≠ rpcNull → .free (w.heap addr).mem ∈ entries.map Exchange.rpc) ∧
        (now.heap addr).Empty)
      (fun _ _ => False) w := by
  have owns := inv.owns addr
  by_cases null : (w.heap addr).mem = rpcNull
  · rw [when, if_neg (by simpa using null)]
    exact ⟨[], .refl inv, rfl, fun valid => absurd null valid, null, noUmem, noSock⟩
  · rw [when, if_pos (bne_iff_ne.mpr null)]
    refine ⟨_, Progress.removed inv (fun sock => { sock with mem := rpcNull })
      (owns.releasable_mem noUmem null) ⟨null, .inl rfl⟩ ?_ ?_ _, ?_, fun _ => ?_, ?_⟩
    · intro h
      simp only [XdpSock.Holds, noSock, noUmem, rpcNull]
      omega
    · exact XdpSock.Empty.owns ⟨rfl, noUmem, noSock⟩
    · rfl
    · simp
    · rw [XdpSock.Empty]
      simp only [Function.update_self]
      exact ⟨trivial, noUmem, noSock⟩

/-- What destroying the structure at `addr` amounts to. -/
structure Destroyed (addr : Nat) (w : World) (rc : Option TeErrno) (now : World)
    (entries : List Exchange) : Prop where
  progress : Progress addr w now entries
  result : firstFailure entries = rc
  empty : rc = none → (now.heap addr).Empty
  tried : ∀ request ∈ (w.heap addr).firstRelease, request ∈ entries.map Exchange.rpc

theorem tried_append {s : XdpSock} {first second third : List Exchange}
    (sock : s.sock ≠ rpcNull → .socketDelete s.sock ∈ first.map Exchange.rpc)
    (umem : s.umem ≠ rpcNull → .umemDelete s.umem ∈ second.map Exchange.rpc)
    (mem : s.umem = rpcNull → s.mem ≠ rpcNull → .free s.mem ∈ third.map Exchange.rpc) :
    ∀ request ∈ s.firstRelease, request ∈ (first ++ (second ++ third)).map Exchange.rpc := by
  intro request member
  unfold XdpSock.firstRelease at member
  simp only [List.map_append, List.mem_append]
  split at member
  · next valid =>
    obtain rfl := Option.some.inj member
    exact .inl (sock valid)
  · split at member
    · next valid =>
      obtain rfl := Option.some.inj member
      exact .inr (.inl (umem valid))
    · next null =>
      split at member
      · next valid =>
        obtain rfl := Option.some.inj member
        exact .inr (.inr (mem (not_not.mp null) valid))
      · cases member

theorem destroySteps_wp (notices : env.Notices) (inv : Inv w) :
    (destroySteps env addr).wp (fun _ now => ∃ entries, Destroyed addr w none now entries)
      (fun rc now => ∃ entries, Destroyed addr w (some rc) now entries) w := by
  refine (wp_bind _ _).mpr ?_
  change Script.wp (do
    deleteStep env _ (.socketDelete (w.heap addr).sock) (w.heap addr).sock addr _
    _) _ _ w
  refine wp_seq (deleteSock_wp notices inv) ?_ ?_
  · rintro _ t ⟨first, progress1, success1, tried1, noSock, umem1, mem1⟩
    rw [← umem1]
    refine wp_seq (deleteUmem_wp notices progress1.inv noSock) ?_ ?_
    · rintro _ u ⟨second, progress2, success2, tried2, noSock, noUmem, mem2⟩
      rw [← mem1, ← mem2]
      refine wp_mono (freeMem_wp progress2.inv noSock noUmem) ?_ (fun _ _ never => never.elim)
      rintro _ v ⟨third, progress3, success3, tried3, empty⟩
      refine ⟨first ++ (second ++ third), progress1.trans (progress2.trans progress3), ?_, fun _ => empty, ?_⟩
      · rw [firstFailure_append, firstFailure_append, success1, success2, success3]
        rfl
      · rw [umem1] at tried2
        rw [mem2, mem1] at tried3
        exact tried_append tried1 tried2 (fun _ => tried3)
    · rintro rc u ⟨second, progress2, failure2, valid, tried2⟩
      refine ⟨first ++ second, progress1.trans progress2, ?_, by simp, ?_⟩
      · rw [firstFailure_append, success1, failure2]
        rfl
      · rw [umem1] at tried2 valid
        rw [← List.append_nil second]
        exact tried_append tried1 (fun _ => tried2) (fun null => absurd null valid)
  · rintro rc t ⟨first, progress, failure, valid, tried⟩
    refine ⟨first, progress, failure, by simp, ?_⟩
    intro request member
    rw [XdpSock.firstRelease, if_pos valid] at member
    exact Option.some.inj member ▸ tried

theorem destroySock_wp (notices : env.Notices) (inv : Inv w) :
    (destroySock env addr : Script ε World _).wp (fun rc now => ∃ entries, Destroyed addr w rc now entries)
      (fun _ _ => False) w := by
  refine (wp_bind _ _).mpr ((wp_attempt _).mpr ?_)
  exact wp_mono (destroySteps_wp notices inv) (fun _ _ destroyed => destroyed) (fun _ _ destroyed => destroyed)

theorem destroySock_returns :
    (destroySock env addr : Script ε World _).wp (fun _ _ => True) (fun _ _ => False) w := by
  refine (wp_bind _ _).mpr (wp_attempt_any (fun result t => ?_))
  cases result with
  | ok _ => trivial
  | error _ => trivial

theorem destroySock_empty (empty : (w.heap addr).Empty) :
    (destroySock env addr : Script ε World _) w = (.ok none, w) := by
  obtain ⟨mem, umem, sock⟩ := empty
  have steps : destroySteps env addr w = (.ok (), w) := by
    have read : readSock addr w = ((.ok (w.heap addr), w) : Except TeErrno XdpSock × World) := rfl
    rw [destroySteps, bind_ok read, mem, umem, sock]
    rfl
  simp only [destroySock, bind, attempt, steps]
  rfl

end
end NetDrv.Xdp
