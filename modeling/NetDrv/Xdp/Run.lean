import NetDrv.Xdp.Noticed
import NetDrv.Xdp.Sockets

/-! Any sequence of calls that create and destroy AF_XDP sockets, from a test that has
created nothing yet. -/

namespace NetDrv.Xdp
open Script

section
variable {ε : Type} {env : Env} {w : World}

/-- What destroying the structures at some addresses amounts to. -/
structure AllDestroyed (base : Nat) (items : List Nat) (w : World) (rc : Option TeErrno)
    (now : World) (entries : List Exchange) : Prop where
  inv : Inv now
  log : now.log = w.log ++ entries
  result : firstFailure entries = rc
  tried : ∀ i ∈ items, ∀ request ∈ (w.heap (base + i)).firstRelease, request ∈ entries.map Exchange.rpc

theorem destroyEach_wp (notices : env.Notices) (inv : Inv w) (base : Nat) {items : List Nat}
    (distinct : items.Nodup) (res : Option TeErrno) :
    (destroyEach env base items res : Script ε World _).wp
      (fun rc now => ∃ entries failure, AllDestroyed base items w failure now entries ∧ rc = res.or failure)
      (fun _ _ => False) w := by
  induction items generalizing w res with
  | nil => exact ⟨[], none, ⟨inv, by simp, rfl, by simp⟩, by simp⟩
  | cons i items ih =>
    obtain ⟨missing, distinct⟩ := List.nodup_cons.mp distinct
    refine wp_seq (destroySock_wp notices inv) ?_ (fun _ _ never => never.elim)
    rintro rc t ⟨front, destroyed⟩
    apply wp_weaken (ih destroyed.progress.inv distinct (res.or rc))
    rintro final now ⟨back, failure, rest, same⟩
    refine ⟨front ++ back, rc.or failure, ⟨rest.inv, ?_, ?_, ?_⟩, ?_⟩
    · rw [rest.log, destroyed.progress.log, List.append_assoc]
    · rw [firstFailure_append, destroyed.result, rest.result]
    · simp only [List.map_append, List.mem_append]
      intro j member request first
      rcases List.mem_cons.mp member with rfl | later
      · exact .inl (destroyed.tried request first)
      · refine .inr (rest.tried j later request ?_)
        have other : base + j ≠ base + i := by
          intro equal
          exact missing (Nat.add_left_cancel equal ▸ later)
        rwa [destroyed.progress.touches.others other]
    · rw [same, Option.or_assoc]

theorem destroySocks_wp (notices : env.Notices) (inv : Inv w) (socks : Option Nat) (num : Nat) :
    (destroySocks env socks num : Script ε World _).wp
      (fun rc now => Inv now ∧ ∃ entries, now.log = w.log ++ entries ∧ rc = firstFailure entries ∧
        ∀ base, socks = some base → ∀ i < num, ∀ request ∈ (w.heap (base + i)).firstRelease,
          request ∈ entries.map Exchange.rpc)
      (fun _ _ => False) w := by
  cases socks with
  | none => exact ⟨inv, [], by simp, rfl, by simp⟩
  | some base =>
    refine wp_seq (destroyEach_wp notices inv base List.nodup_range none) ?_ (fun _ _ never => never.elim)
    rintro rc t ⟨entries, failure, destroyed, same⟩
    refine ⟨destroyed.inv.zeroed base num t.top, entries, destroyed.log, ?_, ?_⟩
    · rw [same, destroyed.result]
      rfl
    · intro other equal i below request first
      obtain rfl := Option.some.inj equal
      exact destroyed.tried i (List.mem_range.mpr below) request first

theorem destroyEach_returns (base : Nat) (items : List Nat) (res : Option TeErrno) :
    (destroyEach env base items res : Script ε World _).wp (fun _ _ => True) (fun _ _ => False) w := by
  induction items generalizing w res with
  | nil => trivial
  | cons i items ih => exact wp_seq destroySock_returns (fun rc t _ => ih (res.or rc)) (fun _ _ never => never)

theorem destroySocks_returns (socks : Option Nat) (num : Nat) :
    (destroySocks env socks num : Script ε World _).wp (fun _ _ => True) (fun _ _ => False) w := by
  cases socks with
  | none => trivial
  | some base =>
    exact wp_seq (destroyEach_returns base (List.range num) none) (fun _ _ _ => trivial) (fun _ _ never => never)

end

inductive Op where
  | createSock (params : Params) (addr queueId : Nat)
  | destroySock (addr : Nat)
  | createSocks (params : Params) (socksNum out : Nat)
  | destroySocks (out socksNum : Nat)
  deriving DecidableEq, Repr

def Op.run (env : Env) : Op → Script TestStop World (Option TeErrno)
  | .createSock params addr queueId => Xdp.createSock env params addr queueId
  | .destroySock addr => Xdp.destroySock env addr
  | .createSocks params socksNum out => do
    Xdp.createSocks env params socksNum out
    pure none
  | .destroySocks out socksNum => fun w => Xdp.destroySocks env (w.socksOut out) socksNum w

/-- Calls made one after another; the cleanup of a test goes on after a stop. -/
def runOps (env : Env) (ops : List Op) : Script TestStop World Unit := forEach ops (fun op => ignore (op.run env))

/-- Nothing was created; structures before `top` are variables of the test. -/
def World.initial (top : Nat) : World :=
  ⟨.empty, fun _ _ => none, [], [], 0, fun _ => .init, top, fun _ => none⟩

section
variable {env : Env} {w : World}

theorem Inv.initial (top : Nat) : Inv (World.initial top) := by
  have empty : XdpSock.init.Empty := ⟨rfl, rfl, rfl⟩
  exact ⟨fun _ => empty.owns, fun a b h held => absurd held (empty.not_holds h), by simp [World.initial, Ledger.empty], rfl⟩

theorem Op.run_wp (notices : env.Notices) (op : Op) (inv : Inv w) :
    (op.run env).wp (fun _ => Inv) (fun _ => Inv) w := by
  cases op with
  | createSock params addr queueId =>
    exact wp_mono (createSock_wp notices inv queueId) (fun _ _ created => created.inv) (fun _ _ never => never.elim)
  | destroySock addr =>
    exact wp_mono (destroySock_wp notices inv) (fun _ _ ⟨_, destroyed⟩ => destroyed.progress.inv)
      (fun _ _ never => never.elim)
  | createSocks params socksNum out =>
    exact wp_seq (createSocks_wp notices inv socksNum out) (fun _ _ handed => handed.inv)
      (fun _ _ withdrawn => withdrawn.inv)
  | destroySocks out socksNum =>
    exact wp_mono (destroySocks_wp notices inv (w.socksOut out) socksNum) (fun _ _ destroyed => destroyed.1)
      (fun _ _ never => never.elim)

theorem runOps_keeps (notices : env.Notices) (ops : List Op) : (runOps env ops).Keeps Inv := by
  refine keeps_forEach (fun op _ w inv => ?_)
  exact keeps_iff_wp.mpr (fun w inv => Op.run_wp notices op inv) w inv

theorem Op.run_follows (op : Op) : (op.run env).Follows env.Unnoticed (op.run env.signed) := by
  cases op with
  | createSock params addr queueId => exact createSock_follows params addr queueId
  | destroySock addr => exact destroySock_follows addr
  | createSocks params socksNum out =>
    exact (createSocks_follows params socksNum out).bind (fun _ => (keeps_pure none).follows)
  | destroySocks out socksNum =>
    have follows : ∀ w : World, (Xdp.destroySocks env (w.socksOut out) socksNum : Script TestStop World _).Follows
        env.Unnoticed (Xdp.destroySocks env.signed (w.socksOut out) socksNum) :=
      fun w => destroySocks_follows (w.socksOut out) socksNum
    exact ⟨fun w => (follows w).stays w, fun w => (follows w).same w⟩

theorem runOps_inv (top : Nat) (ops : List Op) (noticed : env.Noticed (runOps env ops (World.initial top)).2.log) :
    Inv (runOps env ops (World.initial top)).2 := by
  have follows : (runOps env ops).Follows env.Unnoticed (runOps env.signed ops) :=
    follows_forEach (fun op => op.run_follows.ignore) ops
  rw [follows.same _ (not_not.mpr noticed)]
  exact runOps_keeps env.signed_notices ops _ (Inv.initial top)

end

/-- The life of AF_XDP sockets as long as the log holds no failed delete that went unnoticed: nothing is
released twice or while something is built over it, an array is handed out completely or not at all, a
destroyed socket stays destroyed, and destroying an array tries every socket of it. -/
theorem xdp_lifecycle (env : Env) (top : Nat) (ops : List Op) :
    let w := (runOps env ops (World.initial top)).2
    (env.Noticed w.log → w.agent.faults = [] ∧ w.agent.released.Nodup) ∧
    (∀ params num out, (createSocks env params num out).wp
      (fun _ now => env.Noticed now.log →
        ∃ base, now.socksOut out = some base ∧ ∀ i < num, Bound params i (base + i) now)
      (fun _ now => env.Noticed now.log →
        now.socksOut = w.socksOut ∧ (w.DeletesSucceed now → now.agent.live = w.agent.live)) w) ∧
    (∀ addr, (destroySock env addr : Script TestStop World _).wp
      (fun rc now => env.Noticed now.log → rc = none →
        (destroySock env addr : Script TestStop World _) now = (.ok none, now))
      (fun _ _ => False) w) ∧
    ∀ out num, (destroySocks env (w.socksOut out) num : Script TestStop World _).wp
      (fun rc now => env.Noticed now.log → ∃ entries, now.log = w.log ++ entries ∧ rc = firstFailure entries ∧
        ∀ base, w.socksOut out = some base → ∀ i < num, ∀ request ∈ (w.heap (base + i)).firstRelease,
          request ∈ entries.map Exchange.rpc)
      (fun _ _ => False) w := by
  intro w
  have inv : ¬env.Unnoticed w → Inv w := fun good => runOps_inv top ops (not_not.mp good)
  refine ⟨fun noticed => ⟨(inv (not_not.mpr noticed)).faults, w.agent.once⟩, fun params num out => ?_,
    fun addr => ?_, fun out num => ?_⟩
  · have specified := (createSocks_follows params num out).wp
      (fun good => createSocks_wp env.signed_notices (inv good) num out)
    apply wp_mono specified
    · intro _ now handed noticed
      have handed := handed (not_not.mpr noticed)
      exact ⟨w.top, by rw [handed.pointer, Function.update_self], handed.bound⟩
    · intro _ now withdrawn noticed
      have withdrawn := withdrawn (not_not.mpr noticed)
      exact ⟨withdrawn.pointer, withdrawn.live⟩
  · have follows : (destroySock env addr : Script TestStop World _).Follows env.Unnoticed
        (destroySock env.signed addr) := destroySock_follows addr
    have specified := follows.wp (fun good => destroySock_wp env.signed_notices (inv good))
    refine wp_mono (wp_and specified destroySock_returns) ?_ (fun _ _ both => both.2)
    intro rc now both noticed success
    obtain ⟨entries, destroyed⟩ := both.1 (not_not.mpr noticed)
    exact destroySock_empty (destroyed.empty success)
  · have follows : (destroySocks env (w.socksOut out) num : Script TestStop World _).Follows env.Unnoticed
        (destroySocks env.signed (w.socksOut out) num) := destroySocks_follows (w.socksOut out) num
    have specified := follows.wp
      (fun good => destroySocks_wp env.signed_notices (inv good) (w.socksOut out) num)
    refine wp_mono (wp_and specified (destroySocks_returns (w.socksOut out) num)) ?_ (fun _ _ both => both.2)
    intro rc now both noticed
    exact (both.1 (not_not.mpr noticed)).2

/-- Four combined channels; every creation succeeds, the deletes have the given result, and nothing is below
zero as a `te_errno`, which is an unsigned type. -/
def deleting (result : Int) : Env where
  reply := fun _ request => ⟨if request.deletes then result else 7, teRc .taUnix (.os 16)⟩
  chanCurGet := fun _ channel => .ok (if channel = .combined then 4 else 0)
  negative := fun _ => false
  nonnegative := by simp

def defaultParams : Params := ⟨"eth0", .default, 3⟩

/-- Two sockets are created and destroyed: six resources are released, each in its turn. -/
theorem xdp_lifecycle_two_sockets :
    (runOps (deleting 0) [.createSocks defaultParams 2 0, .destroySocks 0 2] (World.initial 0)).2.agent.faults = [] ∧
      (runOps (deleting 0) [.createSocks defaultParams 2 0, .destroySocks 0 2]
        (World.initial 0)).2.agent.released.length = 6 := by
  exact ⟨((xdp_lifecycle (deleting 0) 0 [.createSocks defaultParams 2 0, .destroySocks 0 2]).1 (by decide)).1, by decide⟩

/-- The delete of the socket fails, the result is taken for a success, and the UMEM and then the
memory are released under the socket that is still there; no error is returned. -/
theorem xdp_lifecycle_unnoticed :
    let created := (runOps (deleting (-1)) [.createSocks defaultParams 1 0] (World.initial 0)).2
    let destroyed := (destroySocks (deleting (-1)) (created.socksOut 0) 1 : Script TestStop World _) created
    destroyed.1 = .ok none ∧ firstFailure destroyed.2.log = some (teRc .taUnix (.os 16)) ∧
      destroyed.2.agent.faults = [2, 1] := by
  decide

end NetDrv.Xdp
