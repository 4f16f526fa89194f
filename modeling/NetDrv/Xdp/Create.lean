import NetDrv.Xdp.Destroy

/-! What `net_drv_xdp_create_sock()` does in any state in which the invariant holds:
it builds three resources on top of one another, or it takes back what it built. -/

namespace NetDrv.Xdp
open Script

/-- The structure at `addr` is a live socket bound to the queue, and the map knows it. -/
structure Bound (params : Params) (queue addr : Nat) (w : World) : Prop where
  queueId : (w.heap addr).queueId = queue
  mem : ⟨(w.heap addr).mem, rpcNull, .memory⟩ ∈ w.agent.live
  umem : ⟨(w.heap addr).umem, (w.heap addr).mem, .umem⟩ ∈ w.agent.live
  sock : ⟨(w.heap addr).sock, (w.heap addr).umem, .socket queue (w.heap addr).fd⟩ ∈ w.agent.live
  map : w.map params.mapFd queue = some (w.heap addr).fd

section
variable {ε : Type} {env : Env} {params : Params} {addr : Nat} {w now : World}

theorem wp_rpc {done : Reply → World → Prop} {failed : ε → World → Prop} (request : Rpc)
    (effect : Int → World → World) :
    (rpc env request effect).wp done failed w ↔
      done (env.reply w.log.length request) { effect (env.reply w.log.length request).result w with
        log := w.log ++ [⟨request, env.reply w.log.length request⟩] } := Iff.rfl

theorem wp_readSock {done : XdpSock → World → Prop} {failed : ε → World → Prop} :
    (readSock addr).wp done failed w ↔ done (w.heap addr) w := Iff.rfl

theorem wp_rpcCreate {done : Reply → World → Prop} {failed : ε → World → Prop} (request : Rpc) (parent : Nat)
    (kind : Int → Kind) (store : XdpSock → Nat → XdpSock)
    (negative : (env.reply w.log.length request).result < 0 → done (env.reply w.log.length request)
      { w with log := w.log ++ [⟨request, env.reply w.log.length request⟩] })
    (success : 0 ≤ (env.reply w.log.length request).result → done (env.reply w.log.length request)
      { w with
        agent := w.agent.create parent (kind (env.reply w.log.length request).result)
        heap := Function.update w.heap addr (store (w.heap addr) w.agent.next)
        log := w.log ++ [⟨request, env.reply w.log.length request⟩] }) :
    (rpcCreate env request addr parent kind store).wp done failed w := by
  unfold rpcCreate rpc wp
  by_cases below : (env.reply w.log.length request).result < 0
  · simpa only [if_pos below] using negative below
  · simpa only [if_neg below] using success (Int.not_lt.mp below)

theorem Progress.logged (addr : Nat) (inv : Inv w) (exchange : Exchange) :
    Progress addr w { w with log := w.log ++ [exchange] } [exchange] :=
  ⟨⟨inv.owns, inv.apart, inv.older, inv.faults⟩,
    .single ⟨fun _ _ => rfl, rfl, rfl, .idle rfl (fun _ => Iff.rfl)⟩, rfl⟩

theorem Progress.created (inv : Inv w) {parent : Nat} {kind : Kind} {s : XdpSock}
    (mine : parent = rpcNull ∨ (w.heap addr).Holds parent)
    (holds : ∀ h, s.Holds h ↔ (w.heap addr).Holds h ∨ h = w.agent.next)
    (owns : Owns (w.agent.create parent kind) s) (exchange : Exchange) :
    Progress addr w
      { w with
        agent := w.agent.create parent kind
        heap := Function.update w.heap addr s
        log := w.log ++ [exchange] }
      [exchange] := by
  have touch : Touch addr w
      { w with
        agent := w.agent.create parent kind
        heap := Function.update w.heap addr s
        log := w.log ++ [exchange] } := by
    refine ⟨fun other different => Function.update_of_ne different _ _, rfl, rfl, ?_⟩
    refine .created parent kind mine rfl ?_
    simpa only [Function.update_self] using holds
  refine ⟨inv.touch touch ?_, .single touch, rfl⟩
  simpa only [Function.update_self] using owns

theorem Progress.renamed {entries : List Exchange} (progress : Progress addr w now entries) {s : XdpSock}
    (mem : s.mem = (now.heap addr).mem) (umem : s.umem = (now.heap addr).umem)
    (sock : s.sock = (now.heap addr).sock) :
    Progress addr w { now with heap := Function.update now.heap addr s } entries := by
  have touch : Touch addr now { now with heap := Function.update now.heap addr s } := by
    refine ⟨fun other different => Function.update_of_ne different _ _, rfl, rfl, .idle rfl ?_⟩
    simp only [Function.update_self, XdpSock.Holds, mem, umem, sock, implies_true]
  have owns := progress.inv.owns addr
  refine ⟨progress.inv.touch touch ?_, progress.touches.tail touch, progress.log⟩
  simp only [Function.update_self]
  constructor
  · simpa only [mem, umem] using owns.umemOrder
  · simpa only [sock, umem] using owns.sockOrder
  · simpa only [XdpSock.Holds, mem, umem, sock] using owns.live
  · simpa only [mem, umem] using owns.overMem
  · simpa only [sock, umem] using owns.overUmem
  · simpa only [sock] using owns.overSock

/-- Steps of the creation: something was added and nothing lost. -/
structure Growth (addr : Nat) (w now : World) : Prop where
  progress : ∃ entries, Progress addr w now entries
  grown : ∀ r ∈ w.agent.live, r ∈ now.agent.live
  queueId : (now.heap addr).queueId = (w.heap addr).queueId

theorem Growth.inv (growth : Growth addr w now) : Inv now := growth.progress.elim (fun _ progress => progress.inv)

theorem Growth.trans {middle : World} (left : Growth addr w middle) (right : Growth addr middle now) :
    Growth addr w now := by
  obtain ⟨front, first⟩ := left.progress
  obtain ⟨back, second⟩ := right.progress
  exact ⟨⟨_, first.trans second⟩, fun r member => right.grown r (left.grown r member),
    right.queueId.trans left.queueId⟩

theorem checkCreate_failed {done : Unit → World → Prop} {request : Rpc} {reply : Reply} (name : String) (inv : Inv w)
    (failed : reply.result < 0) :
    (checkCreate name reply).wp done (fun _ now => ∃ entries, Progress addr w now entries)
      { w with log := w.log ++ [⟨request, reply⟩] } := by
  rw [checkCreate, if_pos failed]
  exact ⟨_, (Progress.logged addr inv _).rest rfl rfl rfl rfl rfl⟩

theorem memStep_wp (inv : Inv w) (empty : (w.heap addr).Empty) :
    (memStep env params addr).wp
      (fun _ now => Growth addr w now ∧ now.map = w.map ∧
        ⟨(now.heap addr).mem, rpcNull, .memory⟩ ∈ now.agent.live ∧ (now.heap addr).umem = rpcNull ∧
        (now.heap addr).sock = rpcNull)
      (fun _ now => ∃ entries, Progress addr w now entries) w := by
  obtain ⟨noMem, noUmem, noSock⟩ := empty
  refine (wp_bind _ _).mpr (wp_rpcCreate _ _ _ _ ?_ ?_)
  · intro failed
    exact checkCreate_failed _ inv failed
  · intro success
    rw [checkCreate, if_neg (Int.not_lt.mpr success)]
    refine ⟨⟨⟨_, Progress.created inv (.inl rfl) ?_ ?_ _⟩, ?_, ?_⟩, rfl, ?_, ?_, ?_⟩
    · have positive := w.agent.bounded.1
      intro h
      simp only [XdpSock.Holds, noMem, noUmem, noSock, rpcNull]
      omega
    · exact Owns.create_mem inv.older _ rfl noUmem noSock
    · exact fun r member => Ledger.mem_create.mpr (.inl member)
    · simp
    · simp [Ledger.mem_create]
    · simpa using noUmem
    · simpa using noSock

theorem umemStep_wp (inv : Inv w) (mem : ⟨(w.heap addr).mem, rpcNull, .memory⟩ ∈ w.agent.live)
    (noUmem : (w.heap addr).umem = rpcNull) (noSock : (w.heap addr).sock = rpcNull) :
    (umemStep env params addr).wp
      (fun _ now => Growth addr w now ∧ now.map = w.map ∧
        ⟨(now.heap addr).mem, rpcNull, .memory⟩ ∈ now.agent.live ∧
        ⟨(now.heap addr).umem, (now.heap addr).mem, .umem⟩ ∈ now.agent.live ∧
        (now.heap addr).sock = rpcNull)
      (fun _ now => ∃ entries, Progress addr w now entries) w := by
  have bounds := w.agent.bounded.2 _ mem
  have valid : (w.heap addr).mem ≠ 0 := Nat.ne_of_gt bounds.1
  refine (wp_bind _ _).mpr ((wp_bind _ _).mpr (wp_rpcCreate _ _ _ _ ?_ ?_))
  · intro failed
    exact checkCreate_failed _ inv failed
  · intro success
    rw [checkCreate, if_neg (Int.not_lt.mpr success)]
    refine ⟨⟨⟨_, Progress.created inv (.inr ⟨valid, .inl rfl⟩) ?_ ?_ _⟩, ?_, ?_⟩, rfl, ?_, ?_, ?_⟩
    · intro h
      simp only [XdpSock.Holds, noUmem, noSock, rpcNull]
      omega
    · exact (inv.owns addr).create_umem valid noUmem inv.older _ rfl rfl noSock
    · exact fun r member => Ledger.mem_create.mpr (.inl member)
    · simp
    · simpa [Ledger.mem_create] using mem
    · simp [Ledger.mem_create]
    · simpa using noSock

theorem fillStep_wp (inv : Inv w) (queue : Nat) :
    (fillStep env params addr queue).wp
      (fun _ now => Growth addr w now ∧ now.map = w.map ∧ now.heap = w.heap ∧ now.agent = w.agent)
      (fun _ now => ∃ entries, Progress addr w now entries) w := by
  rw [fillStep, wp_bind, wp_readSock, wp_bind, rpcRxFillSimple, wp_rpc]
  generalize Rpc.rxFillSimple _ _ _ _ = request
  have logged := Progress.logged addr inv ⟨request, env.reply w.log.length request⟩
  by_cases failed : (env.reply w.log.length request).result < 0
  · exact (wp_bind _ _).mpr (checkCreate_failed _ inv failed)
  · rw [checkCreate, if_neg failed]
    by_cases nothing : (env.reply w.log.length request).result = 0
    · rw [when, if_pos (beq_iff_eq.mpr nothing)]
      exact ⟨_, logged.rest rfl rfl rfl rfl rfl⟩
    · rw [when, if_neg (fun zero => nothing (beq_iff_eq.mp zero))]
      exact ⟨⟨⟨_, logged⟩, fun _ member => member, rfl⟩, rfl, rfl, rfl⟩

theorem socketStep_wp (inv : Inv w) (queue : Nat) (mem : ⟨(w.heap addr).mem, rpcNull, .memory⟩ ∈ w.agent.live)
    (umem : ⟨(w.heap addr).umem, (w.heap addr).mem, .umem⟩ ∈ w.agent.live)
    (noSock : (w.heap addr).sock = rpcNull) :
    (socketStep env params addr queue).wp
      (fun _ now => Growth addr w now ∧ now.map = w.map ∧
        ⟨(now.heap addr).mem, rpcNull, .memory⟩ ∈ now.agent.live ∧
        ⟨(now.heap addr).umem, (now.heap addr).mem, .umem⟩ ∈ now.agent.live ∧
        ⟨(now.heap addr).sock, (now.heap addr).umem, .socket queue (now.heap addr).fd⟩ ∈ now.agent.live)
      (fun _ now => ∃ entries, Progress addr w now entries) w := by
  have bounds := w.agent.bounded.2 _ umem
  have valid : (w.heap addr).umem ≠ 0 := Nat.ne_of_gt bounds.1
  refine (wp_bind _ _).mpr ((wp_bind _ _).mpr (wp_rpcCreate _ _ _ _ ?_ ?_))
  · intro failed
    exact (wp_bind _ _).mpr (checkCreate_failed _ inv failed)
  · intro success
    rw [checkCreate, if_neg (Int.not_lt.mpr success)]
    refine ⟨⟨⟨_, (Progress.created inv (.inr ⟨valid, .inr (.inl rfl)⟩) ?_ ?_ _).renamed ?_ ?_ ?_⟩, ?_, ?_⟩,
      rfl, ?_, ?_, ?_⟩
    · intro h
      simp only [XdpSock.Holds, noSock, rpcNull]
      omega
    · exact (inv.owns addr).create_sock valid noSock inv.older _ rfl rfl rfl
    · rfl
    · rfl
    · rfl
    · exact fun r member => Ledger.mem_create.mpr (.inl member)
    · simp
    · simpa [Ledger.mem_create] using mem
    · simpa [Ledger.mem_create] using umem
    · simp [Ledger.mem_create]

theorem mapStep_wp (inv : Inv w) (queue : Nat) :
    (mapStep env params addr queue).wp
      (fun _ now => Growth addr w now ∧ now.heap = w.heap ∧ now.agent = w.agent ∧
        now.map = Function.update w.map params.mapFd
          (Function.update (w.map params.mapFd) queue (some (w.heap addr).fd)))
      (fun _ now => ∃ entries, Progress addr w now entries) w := by
  rw [mapStep, wp_bind, wp_readSock, wp_bind, rpcMapSet, wp_rpc]
  generalize Rpc.mapSet _ _ _ = request
  have logged := Progress.logged addr inv ⟨request, env.reply w.log.length request⟩
  by_cases failed : (env.reply w.log.length request).result < 0
  · rw [if_pos failed]
    exact checkCreate_failed _ inv failed
  · rw [checkCreate, if_neg failed, if_neg failed]
    exact ⟨⟨⟨_, logged.rest rfl rfl rfl rfl rfl⟩, fun _ member => member, rfl⟩, rfl, rfl, rfl⟩

theorem createSteps_wp (inv : Inv w) (empty : (w.heap addr).Empty) {queue : Nat}
    (bound : (w.heap addr).queueId = queue) :
    (createSteps env params addr queue).wp
      (fun _ now => Growth addr w now ∧ Bound params queue addr now ∧
        ∀ mapFd key, (mapFd, key) ≠ (params.mapFd, queue) → now.map mapFd key = w.map mapFd key)
      (fun _ now => ∃ entries, Progress addr w now entries) w := by
  refine wp_seq (memStep_wp inv empty) ?_ (fun _ _ failure => failure)
  rintro _ t ⟨growth1, map1, mem, noUmem, noSock⟩
  obtain ⟨entries1, progress1⟩ := growth1.progress
  refine wp_seq (umemStep_wp growth1.inv mem noUmem noSock) ?_
    (fun _ _ ⟨entries, progress⟩ => ⟨_, progress1.trans progress⟩)
  rintro _ u ⟨growth2, map2, mem, umem, noSock⟩
  have growth2 := growth1.trans growth2
  obtain ⟨entries2, progress2⟩ := growth2.progress
  refine wp_seq (fillStep_wp growth2.inv queue) ?_
    (fun _ _ ⟨entries, progress⟩ => ⟨_, progress2.trans progress⟩)
  rintro _ v ⟨growth3, map3, heap3, agent3⟩
  have growth3 := growth2.trans growth3
  obtain ⟨entries3, progress3⟩ := growth3.progress
  rw [← heap3, ← agent3] at mem umem
  rw [← heap3] at noSock
  refine wp_seq (socketStep_wp growth3.inv queue mem umem noSock) ?_
    (fun _ _ ⟨entries, progress⟩ => ⟨_, progress3.trans progress⟩)
  rintro _ x ⟨growth4, map4, mem, umem, sock⟩
  have growth4 := growth3.trans growth4
  obtain ⟨entries4, progress4⟩ := growth4.progress
  refine wp_mono (mapStep_wp growth4.inv queue) ?_
    (fun _ _ ⟨entries, progress⟩ => ⟨_, progress4.trans progress⟩)
  rintro _ now ⟨growth5, heap5, agent5, map5⟩
  have growth5 := growth4.trans growth5
  refine ⟨growth5, ⟨growth5.queueId.trans bound, ?_, ?_, ?_, ?_⟩, ?_⟩
  · rwa [heap5, agent5]
  · rwa [heap5, agent5]
  · rwa [heap5, agent5]
  · rw [map5, heap5, Function.update_self, Function.update_self]
  · intro mapFd key other
    rw [map5, map4, map3, map2, map1]
    by_cases same : mapFd = params.mapFd
    · subst same
      rw [Function.update_self, Function.update_of_ne (fun equal => other (by rw [equal]))]
    · rw [Function.update_of_ne same]

theorem Inv.forget (inv : Inv w) (agent : now.agent = w.agent)
    (heap : ∀ a, now.heap a = w.heap a ∨ (now.heap a).Empty) : Inv now where
  owns := by
    intro a
    rcases heap a with same | empty
    · rw [same, agent]
      exact inv.owns a
    · exact empty.owns
  apart := by
    have old : ∀ a handle, (now.heap a).Holds handle → (w.heap a).Holds handle := by
      intro a handle held
      rcases heap a with same | empty
      · rwa [same] at held
      · exact absurd held (empty.not_holds handle)
    exact fun a b handle heldA heldB => inv.apart a b handle (old a handle heldA) (old b handle heldB)
  older := by
    rw [agent]
    exact inv.older
  faults := by rw [agent, inv.faults]

theorem chanCurGet_wp (channel : Channel) {before : World} (same : ∃ n, w = { before with reads := n }) :
    (chanCurGet env channel).wp (fun _ now => ∃ n, now = { before with reads := n })
      (fun _ now => ∃ n, now = { before with reads := n }) w := by
  obtain ⟨n, rfl⟩ := same
  unfold wp chanCurGet
  cases env.chanCurGet n channel <;> exact ⟨n + 1, rfl⟩

theorem getQueuesNum_wp :
    (getQueuesNum env).wp (fun _ now => ∃ n, now = { w with reads := n })
      (fun _ now => ∃ n, now = { w with reads := n }) w := by
  refine wp_seq (chanCurGet_wp .rx ⟨w.reads, rfl⟩) ?_ (fun _ _ same => same)
  intro rx t same
  refine wp_seq (chanCurGet_wp .tx same) ?_ (fun _ _ same => same)
  intro tx u same
  refine wp_seq (chanCurGet_wp .combined same) ?_ (fun _ _ same => same)
  intro combined v same
  split
  · exact same
  · exact same

/-- What `net_drv_xdp_create_sock()` amounts to. -/
structure Created (params : Params) (queue addr : Nat) (w : World) (rc : Option TeErrno) (now : World) : Prop where
  inv : Inv now
  grown : w.log <+: now.log
  others : ∀ other, other ≠ addr → now.heap other = w.heap other
  touches : (w.heap addr).Empty → Touches addr w now
  bound : rc = none → Bound params queue addr now ∧ (∀ r ∈ w.agent.live, r ∈ now.agent.live) ∧
    ∀ mapFd key, (mapFd, key) ≠ (params.mapFd, queue) → now.map mapFd key = w.map mapFd key
  empty : rc ≠ none → w.DeletesSucceed now → (now.heap addr).Empty

theorem Touches.others (touches : Touches addr w now) {other : Nat} (different : other ≠ addr) :
    now.heap other = w.heap other := by
  induction touches with
  | refl => rfl
  | tail _ touch ih => exact (touch.others other different).trans ih

/-- The structure as it is when the channels are read. -/
def World.started (w : World) (addr queue : Nat) : World :=
  { w with heap := Function.update w.heap addr { XdpSock.init with queueId := queue } }

theorem started_empty (w : World) (addr queue : Nat) : ((w.started addr queue).heap addr).Empty := by
  simp only [World.started, Function.update_self]
  exact ⟨rfl, rfl, rfl⟩

theorem Inv.started (inv : Inv w) (queue : Nat) : Inv (w.started addr queue) := by
  refine inv.forget rfl (fun a => ?_)
  by_cases same : a = addr
  · subst same
    exact .inr (started_empty w a queue)
  · exact .inl (Function.update_of_ne same _ _)

theorem started_touch {queue : Nat} (empty : (w.heap addr).Empty) : Touch addr w (w.started addr queue) := by
  refine ⟨fun other different => Function.update_of_ne different _ _, rfl, rfl, .idle rfl ?_⟩
  intro h
  exact iff_of_false ((started_empty w addr queue).not_holds h) (empty.not_holds h)

theorem Created.of_progress {queue : Nat} {rc : Option TeErrno} {entries : List Exchange}
    (progress : Progress addr (w.started addr queue) now entries)
    (bound : rc = none → Bound params queue addr now ∧ (∀ r ∈ w.agent.live, r ∈ now.agent.live) ∧
      ∀ mapFd key, (mapFd, key) ≠ (params.mapFd, queue) → now.map mapFd key = w.map mapFd key)
    (empty : rc ≠ none → w.DeletesSucceed now → (now.heap addr).Empty) :
    Created params queue addr w rc now where
  inv := progress.inv
  grown := progress.grown
  others := by
    intro other different
    rw [progress.touches.others different]
    exact Function.update_of_ne different _ _
  touches := fun clean => .head (started_touch clean) progress.touches
  bound := bound
  empty := empty

theorem buildSock_wp (notices : env.Notices) {queue : Nat} {t : World} {entries : List Exchange}
    (ready : Progress addr (w.started addr queue) t entries) (empty : (t.heap addr).Empty)
    (queueId : (t.heap addr).queueId = queue) (agent : t.agent = w.agent) (map : t.map = w.map) :
    (buildSock env params addr queue : Script ε World _).wp (Created params queue addr w)
      (fun _ _ => False) t := by
  refine (wp_bind _ _).mpr ((wp_attempt _).mpr (wp_mono (createSteps_wp ready.inv empty queueId) ?_ ?_))
  · rintro _ now ⟨growth, bound, others⟩
    obtain ⟨later, progress⟩ := growth.progress
    refine Created.of_progress (ready.trans progress) (fun _ => ⟨bound, ?_, ?_⟩) (fun failed => absurd rfl failed)
    · rw [← agent]
      exact growth.grown
    · rw [← map]
      exact others
  · rintro _ u ⟨built, progress⟩
    refine (wp_bind _ _).mpr (wp_weaken (destroySock_wp notices progress.inv) ?_)
    rintro rc now ⟨removed, destroyed⟩
    refine Created.of_progress (ready.trans (progress.trans destroyed.progress)) (fun success => by cases success) ?_
    intro _ succeed
    have before : w.log <+: u.log := (ready.trans progress).grown
    have late := ((deletesSucceed_trans before destroyed.progress.grown).mp succeed).2
    exact destroyed.empty (destroyed.result.symm.trans ((deletesSucceed_append destroyed.progress.log).mp late))

theorem createSock_wp (notices : env.Notices) (inv : Inv w) (queue : Nat) :
    (createSock env params addr queue : Script ε World _).wp (Created params queue addr w)
      (fun _ _ => False) w := by
  refine (wp_bind _ _).mpr ?_
  change Script.wp _ _ _ (w.started addr queue)
  have start : Progress addr (w.started addr queue) (w.started addr queue) [] := .refl (inv.started queue)
  refine (wp_bind _ _).mpr ((wp_attempt _).mpr (wp_mono getQueuesNum_wp ?_ ?_))
  · rintro ⟨rxQueues, txQueues⟩ _ ⟨n, rfl⟩
    have read : Progress addr (w.started addr queue) { w.started addr queue with reads := n } [] :=
      start.rest rfl rfl rfl rfl rfl
    by_cases outside : rxQueues ≤ queue
    · simp only [if_pos outside]
      refine Created.of_progress (read.rest rfl rfl rfl rfl rfl) (fun success => by cases success) ?_
      exact fun _ _ => started_empty w addr queue
    · simp only [if_neg outside]
      refine (wp_bind _ _).mpr (buildSock_wp notices (read.renamed ?_ ?_ ?_) ?_ ?_ rfl rfl)
      · rfl
      · rfl
      · rfl
      · simp only [Function.update_self]
        exact started_empty w addr queue
      · simp [World.started]
  · rintro rc _ ⟨n, rfl⟩
    refine Created.of_progress (start.rest rfl rfl rfl rfl rfl) (fun success => by cases success) ?_
    exact fun _ _ => started_empty w addr queue

end
end NetDrv.Xdp
