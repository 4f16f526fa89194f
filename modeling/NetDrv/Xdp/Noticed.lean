import NetDrv.Xdp.Destroy

/-! Runs in which every failed delete is noticed. Up to the first delete that fails
unnoticed a run cannot be told from one in an environment that notices all of them,
and the log keeps what happened. -/

namespace NetDrv.Xdp
open Script

/-- Every delete RPC of the log that failed has a result that is negative as a `te_errno` too. -/
def Env.Noticed (env : Env) (log : List Exchange) : Prop :=
  ∀ exchange ∈ log, exchange.failedDelete = true → env.negative exchange.reply.result = true

instance (env : Env) (log : List Exchange) : Decidable (env.Noticed log) :=
  inferInstanceAs (Decidable (∀ exchange ∈ log, exchange.failedDelete = true → env.negative exchange.reply.result = true))

/-- The same answers; a `te_errno` has a sign. -/
def Env.signed (env : Env) : Env where
  reply := env.reply
  chanCurGet := env.chanCurGet
  negative := fun result => decide (result < 0)
  nonnegative := fun _ negative => of_decide_eq_true negative

theorem Env.signed_notices (env : Env) : env.signed.Notices := fun _ _ _ failed => decide_eq_true failed

def Env.Unnoticed (env : Env) (w : World) : Prop := ¬env.Noticed w.log

theorem Env.Noticed.front {env : Env} {front back : List Exchange} (noticed : env.Noticed (front ++ back)) :
    env.Noticed front :=
  fun exchange member => noticed exchange (List.mem_append_left back member)

theorem unnoticed_of_prefix {env : Env} {w now : World} (grown : w.log <+: now.log) (unnoticed : env.Unnoticed w) :
    env.Unnoticed now := by
  obtain ⟨entries, grown⟩ := grown
  intro noticed
  rw [← grown] at noticed
  exact unnoticed noticed.front

section
variable {ε : Type} {env : Env}

theorem keeps_rpc (request : Rpc) (effect : Int → World → World) :
    (rpc env request effect : Script ε World Reply).Keeps env.Unnoticed :=
  fun _ => unnoticed_of_prefix (List.prefix_append _ _)

theorem keeps_sameLog {α : Type} {x : Script ε World α} (same : ∀ w, (x w).2.log = w.log) :
    x.Keeps env.Unnoticed :=
  fun w unnoticed => unnoticed_of_prefix ⟨[], by rw [List.append_nil, same w]⟩ unnoticed

theorem keeps_print (message : Message) : (print message : Script ε World Unit).Keeps env.Unnoticed :=
  keeps_sameLog (fun _ => rfl)

theorem keeps_readSock (addr : Nat) : (readSock addr : Script ε World XdpSock).Keeps env.Unnoticed :=
  keeps_sameLog (fun _ => rfl)

theorem keeps_setSock (addr : Nat) (change : XdpSock → XdpSock) :
    (setSock addr change : Script ε World Unit).Keeps env.Unnoticed :=
  keeps_sameLog (fun _ => rfl)

theorem keeps_stop (message : Message) (e : ε) :
    (do print message; fail e : Script ε World Unit).Keeps env.Unnoticed :=
  keeps_sameLog (fun _ => rfl)

theorem keeps_checkCreate (name : String) (reply : Reply) : (checkCreate name reply).Keeps env.Unnoticed := by
  unfold checkCreate
  split
  · exact keeps_stop _ _
  · exact keeps_pure ()

theorem keeps_getQueuesNum : (getQueuesNum env).Keeps env.Unnoticed := by
  have chanCurGet : ∀ channel, (chanCurGet env channel).Keeps env.Unnoticed :=
    fun _ => keeps_sameLog (fun _ => rfl)
  refine keeps_bind (chanCurGet .rx) (fun rx => keeps_bind (chanCurGet .tx) (fun tx =>
    keeps_bind (chanCurGet .combined) (fun combined => ?_)))
  split
  · exact keeps_sameLog (fun _ => rfl)
  · exact keeps_pure _

theorem keeps_createSteps (params : Params) (addr queueId : Nat) :
    (createSteps env params addr queueId).Keeps env.Unnoticed := by
  have checked : ∀ name reply, (checkCreate name reply).Keeps env.Unnoticed := keeps_checkCreate
  refine keeps_bind ?_ (fun _ => keeps_bind ?_ (fun _ => keeps_bind ?_ (fun _ => keeps_bind ?_ (fun _ => ?_))))
  · exact keeps_bind (keeps_rpc _ _) (checked _)
  · exact keeps_bind (keeps_readSock addr) (fun _ => keeps_bind (keeps_rpc _ _) (checked _))
  · refine keeps_bind (keeps_readSock addr) (fun _ => keeps_bind (keeps_rpc _ _) (fun reply => ?_))
    exact keeps_bind (checked _ reply) (fun _ => keeps_when (keeps_stop _ _))
  · refine keeps_bind (keeps_readSock addr) (fun _ => keeps_bind (keeps_rpc _ _) (fun reply => ?_))
    exact keeps_bind (checked _ reply) (fun _ => keeps_setSock addr _)
  · exact keeps_bind (keeps_readSock addr) (fun _ => keeps_bind (keeps_rpc _ _) (checked _))

theorem keeps_checkDelete (name : String) (reply : Reply) : (checkDelete env name reply).Keeps env.Unnoticed := by
  unfold checkDelete
  split
  · exact keeps_stop _ _
  · exact keeps_pure ()

/-- A noticed delete is judged as a signed `te_errno` judges it. -/
theorem checkDelete_signed {w : World} {request : Rpc} (deletes : request.deletes = true) {reply : Reply}
    (noticed : env.Noticed (w.log ++ [⟨request, reply⟩])) (name : String) :
    checkDelete env name reply = checkDelete env.signed name reply := by
  have same : env.negative reply.result = env.signed.negative reply.result := by
    refine Bool.eq_iff_iff.mpr ⟨fun negative => decide_eq_true (env.nonnegative _ negative), fun failed => ?_⟩
    exact noticed ⟨request, reply⟩ (by simp) (Bool.and_eq_true_iff.mpr ⟨deletes, failed⟩)
  rw [checkDelete, checkDelete, same]

/-- Only here do the environments part. -/
theorem deleteStep_follows (name : String) {request : Rpc} (deletes : request.deletes = true) (handle addr : Nat)
    (clear : XdpSock → XdpSock) :
    (deleteStep env name request handle addr clear).Follows env.Unnoticed
      (deleteStep env.signed name request handle addr clear) := by
  refine Follows.when (follows_reached (keeps_rpc _ _) (fun reply => ?_) ?_) _
  · exact keeps_bind (keeps_checkDelete name reply) (fun _ => keeps_setSock addr clear)
  · intro w reply now run good
    obtain ⟨rfl, rfl⟩ : env.reply w.log.length request = reply ∧ _ = now := by simpa [rpcRelease, rpc] using run
    rw [checkDelete_signed (w := w) deletes (not_not.mp good)]

theorem destroySteps_follows (addr : Nat) :
    (destroySteps env addr).Follows env.Unnoticed (destroySteps env.signed addr) := by
  refine (keeps_readSock addr).follows.bind (fun sock => ?_)
  refine (deleteStep_follows _ rfl _ addr _).bind (fun _ => ?_)
  refine (deleteStep_follows _ rfl _ addr _).bind (fun _ => Keeps.follows ?_)
  exact keeps_when (keeps_bind (keeps_bind (keeps_rpc _ _) (fun _ => keeps_pure ())) (fun _ => keeps_setSock addr _))

theorem destroySock_follows (addr : Nat) :
    (destroySock env addr : Script ε World _).Follows env.Unnoticed (destroySock env.signed addr) := by
  refine (destroySteps_follows addr).attempt.bind (fun result => ?_)
  cases result with
  | ok _ => exact (keeps_pure _).follows
  | error rc => exact (keeps_pure _).follows

theorem buildSock_follows (params : Params) (addr queueId : Nat) :
    (buildSock env params addr queueId : Script ε World _).Follows env.Unnoticed
      (buildSock env.signed params addr queueId) := by
  refine (keeps_createSteps params addr queueId).follows.attempt.bind (fun result => ?_)
  cases result with
  | ok _ => exact (keeps_pure _).follows
  | error _ => exact (destroySock_follows addr).bind (fun _ => (keeps_pure _).follows)

theorem createSock_follows (params : Params) (addr queueId : Nat) :
    (createSock env params addr queueId : Script ε World _).Follows env.Unnoticed
      (createSock env.signed params addr queueId) := by
  refine (keeps_setSock addr _).follows.bind (fun _ => keeps_getQueuesNum.follows.attempt.bind (fun result => ?_))
  cases result with
  | error rc => exact Keeps.follows (keeps_bind (keeps_print _) (fun _ => keeps_pure _))
  | ok numbers =>
    by_cases outside : numbers.1 ≤ queueId
    · simp only [if_pos outside]
      exact Keeps.follows (keeps_bind (keeps_print _) (fun _ => keeps_pure _))
    · simp only [if_neg outside]
      exact (keeps_setSock addr _).follows.bind (fun _ => buildSock_follows params addr queueId)

theorem createSocks_follows (params : Params) (socksNum out : Nat) :
    (createSocks env params socksNum out).Follows env.Unnoticed (createSocks env.signed params socksNum out) := by
  have callocs : (callocSocks socksNum : Script TestStop World Nat).Keeps env.Unnoticed :=
    keeps_sameLog (fun _ => rfl)
  have each : ∀ base, (createEach env params base socksNum).Follows env.Unnoticed
      (createEach env.signed params base socksNum) := by
    intro base
    refine follows_forEach (fun i => (createSock_follows params (base + i) i).bind (fun rc => ?_)) _
    cases rc with
    | none => exact (keeps_pure ()).follows
    | some rc => exact Keeps.follows (keeps_sameLog (fun _ => rfl))
  refine callocs.follows.bind (fun base => (each base).attempt.bind (fun result => ?_))
  cases result with
  | ok _ => exact Keeps.follows (keeps_sameLog (fun _ => rfl))
  | error i =>
    refine Follows.bind (follows_forEach (fun j => ?_) _) (fun _ => Keeps.follows (keeps_sameLog (fun _ => rfl)))
    exact (destroySock_follows (base + j)).bind (fun _ => (keeps_pure ()).follows)

theorem destroyEach_follows (base : Nat) (items : List Nat) (res : Option TeErrno) :
    (destroyEach env base items res : Script ε World _).Follows env.Unnoticed
      (destroyEach env.signed base items res) := by
  induction items generalizing res with
  | nil => exact (keeps_pure res).follows
  | cons i items ih => exact (destroySock_follows (base + i)).bind (fun rc => ih (res.or rc))

theorem destroySocks_follows (socks : Option Nat) (socksNum : Nat) :
    (destroySocks env socks socksNum : Script ε World _).Follows env.Unnoticed
      (destroySocks env.signed socks socksNum) := by
  cases socks with
  | none => exact (keeps_pure none).follows
  | some base =>
    refine (destroyEach_follows base (List.range socksNum) none).bind (fun _ => Keeps.follows ?_)
    exact keeps_sameLog (fun _ => rfl)

end
end NetDrv.Xdp
