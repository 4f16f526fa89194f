import NetDrv.Rss.Context

/-! The test that changes the RSS hash key. Keys are tried in the context until one
leads to another Rx queue, while the NIC goes on with the old key; the last one tried
is then committed. Each time packets are sent the queue they are expected on is the one
of the key the NIC uses. -/

namespace NetDrv.Rss
open Script

/-- A call of `net_drv_rss_send_check_stats()`, with the key of the NIC at that time. -/
structure Sent where
  expQueue : UInt32
  vpref : String
  nicKey : List (BitVec 8)
  deriving DecidableEq, Repr

/-- The variables of the test, and the hash keys of the interface. -/
structure KeyTest (κ : Type) where
  ctx : Ctx κ
  newKey : List (BitVec 8)
  hash : UInt32
  idx : UInt32
  initQueue : UInt32
  newQueue : UInt32
  testFailed : Bool
  nicKey : List (BitVec 8)
  /-- The key that was set locally. -/
  localKey : Option (List (BitVec 8))
  sent : List Sent

structure KeyTry where
  /-- The numbers behind the bytes of the key. -/
  rand : Nat → Nat
  alloc : KeyAlloc

/-- What the test gets from chance, from the allocator and from the calls it makes. -/
structure KeyEnv where
  prepare : Prepare
  calloc : Except Jump Unit
  printIndirTable : Except TeErrno Unit
  genConnection : Except Jump Unit
  statsGetId : Except TeErrno Unit
  statsSetParams : Except TeErrno Unit
  sendBefore : Except Jump (Except TeErrno Unit)
  tries : Nat → KeyTry
  hashKeySetLocal : Except TeErrno Unit
  indirCommit : Except TeErrno Unit
  sendAfter : Except Jump (Except TeErrno Unit)

section
variable {κ : Type} (toeplitz : Toeplitz κ) (iface : Place → Iface) (place : Place) (iutAddr tstAddr : SockAddr)
  (env : KeyEnv)

def onCtx {ε α : Type} (x : Script ε (Ctx κ) α) : Script ε (KeyTest κ) α :=
  zoom KeyTest.ctx (fun ctx t => { t with ctx := ctx }) x

/-- `CHECK_RC()` of a call that does not jump itself. -/
def checked {σ α : Type} (x : Script TeErrno σ α) : Script Jump σ α := do checkRc (← attempt x)

/-- A prediction into `hash`, `idx` and one of the queues. -/
def predictInto (queue : KeyTest κ → UInt32) (setQueue : UInt32 → KeyTest κ → KeyTest κ) :
    Script TeErrno (KeyTest κ) Unit := do
  let ctx ← gets KeyTest.ctx
  zoom (fun t => ⟨t.hash, t.idx, queue t⟩)
    (fun out t => setQueue out.queue { t with hash := out.hash, idx := out.idx })
    (rssPredict toeplitz iface ctx tstAddr iutAddr ⟨true, true, true⟩)

def predictInit : Script TeErrno (KeyTest κ) Unit :=
  predictInto toeplitz iface iutAddr tstAddr KeyTest.initQueue (fun queue t => { t with initQueue := queue })

def predictNew : Script TeErrno (KeyTest κ) Unit :=
  predictInto toeplitz iface iutAddr tstAddr KeyTest.newQueue (fun queue t => { t with newQueue := queue })

/-- `net_drv_rss_send_check_stats()` with the queue that is expected. -/
def sendCheckStats (answer : Except Jump (Except TeErrno Unit)) (expQueue : UInt32) (vpref : String) :
    Script Jump (KeyTest κ) (Except TeErrno Unit) := do
  update (fun t => { t with sent := t.sent ++ [⟨expQueue, vpref, t.nicKey⟩] })
  ofExcept answer

/-- Random bytes, as many as the key of the context has. -/
def fillKey (rand : Nat → Nat) (keyLen : Nat) (newKey : List (BitVec 8)) : List (BitVec 8) :=
  (List.range keyLen).map (fun j => BitVec.ofNat 8 (randRange 0 0xff (rand j))) ++ newKey.drop keyLen

/-- One turn of the loop; `true` leaves it. -/
def tryKey (i : Nat) : Script Jump (KeyTest κ) Bool := do
  update (fun t => { t with newKey := fillKey (env.tries i).rand t.ctx.keyLen t.newKey })
  let newKey ← gets KeyTest.newKey
  let keyLen ← gets (fun t => t.ctx.keyLen)
  checked (onCtx (ctxChangeKey toeplitz (env.tries i).alloc newKey keyLen))
  checked (predictNew toeplitz iface iutAddr tstAddr)
  gets (fun t => decide (t.newQueue ≠ t.initQueue))

def beforeChange : Script Jump (KeyTest κ) Unit := do
  ofExcept env.calloc
  update (fun t => { t with newKey := List.replicate t.ctx.keyLen 0 })
  checkRc env.printIndirTable
  checked (predictInit toeplitz iface iutAddr tstAddr)
  ofExcept env.genConnection
  checkRc env.statsGetId
  checkRc env.statsSetParams
  let initQueue ← gets KeyTest.initQueue
  match ← sendCheckStats env.sendBefore initQueue "Before hash key change" with
  | .ok _ => pure ()
  | .error _ => update (fun t => { t with testFailed := true })

def commitKey : Script Jump (KeyTest κ) Unit := do
  checkRc env.hashKeySetLocal
  update (fun t => { t with localKey := some (t.newKey.take t.ctx.keyLen) })
  checkRc env.indirCommit
  update (fun t => { t with nicKey := t.localKey.getD t.nicKey })

def afterChange : Script Jump (KeyTest κ) Unit := do
  commitKey env
  let newQueue ← gets KeyTest.newQueue
  checkRc (← sendCheckStats env.sendAfter newQueue "After hash key change")
  let testFailed ← gets KeyTest.testFailed
  when testFailed (fail .stop)

/-- The body of the test after the context was prepared. -/
def changeHashKey : Script Jump (KeyTest κ) Unit := do
  beforeChange toeplitz iface iutAddr tstAddr env
  let found ← findFirst (List.range maxAttempts) (tryKey toeplitz iface iutAddr tstAddr env)
  when (!found) (fail (.fail "Failed to find a new hash resulting in Rx queue change"))
  afterChange env

def hashKeySet : Script Jump (KeyTest κ) Unit := do
  let nicKey ← gets KeyTest.nicKey
  onCtx (ctxPrepare toeplitz iface env.prepare nicKey place)
  changeHashKey toeplitz iface iutAddr tstAddr env

def hashKeySetMain : Script Jump (KeyTest κ) Unit := do
  let result ← attempt (hashKeySet toeplitz iface place iutAddr tstAddr env)
  onCtx ctxRelease
  ofExcept result

/-- How the test starts on a NIC with this key; the queues hold anything. -/
def KeyTest.start (nicKey : List (BitVec 8)) (stale : Outputs) (staleNew : UInt32) : KeyTest κ :=
  ⟨.init, [], stale.hash, stale.idx, stale.queue, staleNew, false, nicKey, none, []⟩

/-- The calls so far expect the queues of the key the NIC had at the start and of the
last key tried, and these queues differ. -/
inductive Expects (queueOf : List (BitVec 8) → Except TeErrno UInt32) (first last : List (BitVec 8)) :
    List Sent → Prop where
  | none : Expects queueOf first last []
  | before {initQueue : UInt32} (initial : queueOf first = .ok initQueue) :
    Expects queueOf first last [⟨initQueue, "Before hash key change", first⟩]
  | both {initQueue newQueue : UInt32} (initial : queueOf first = .ok initQueue)
    (changed : queueOf last = .ok newQueue) (differ : newQueue ≠ initQueue) :
    Expects queueOf first last
      [⟨initQueue, "Before hash key change", first⟩, ⟨newQueue, "After hash key change", last⟩]

structure Follows (nicKey : List (BitVec 8)) (variant : Variant) (t : KeyTest κ) : Prop where
  inUse : InUse toeplitz iface place variant t.ctx
  expects : Expects ((iface place).queueOf toeplitz variant tstAddr iutAddr) nicKey t.ctx.key t.sent

structure Searching (nicKey : List (BitVec 8)) (variant : Variant) (t : KeyTest κ) : Prop where
  inUse : InUse toeplitz iface place variant t.ctx
  committed : t.nicKey = nicKey
  initial : (iface place).queueOf toeplitz variant tstAddr iutAddr nicKey = .ok t.initQueue
  sent : t.sent = [⟨t.initQueue, "Before hash key change", nicKey⟩]

/-- What holds after the turn that found a key. -/
structure KeyFound (nicKey : List (BitVec 8)) (variant : Variant) (t : KeyTest κ) : Prop
    extends Searching toeplitz iface place iutAddr tstAddr nicKey variant t where
  tried : t.newKey.take t.ctx.keyLen = t.ctx.key
  changed : (iface place).queueOf toeplitz variant tstAddr iutAddr t.ctx.key = .ok t.newQueue
  differ : t.newQueue ≠ t.initQueue

end

section
variable {κ : Type} {toeplitz : Toeplitz κ} {iface : Place → Iface} {place : Place} {iutAddr tstAddr : SockAddr}
  {env : KeyEnv} {nicKey : List (BitVec 8)} {variant : Variant} {t : KeyTest κ}

theorem wp_checked {σ α : Type} {done : α → σ → Prop} {failed : Jump → σ → Prop} {s : σ} (x : Script TeErrno σ α) :
    (checked x).wp done failed s ↔ x.wp done (fun rc => failed (.checkRc rc)) s := by
  rw [checked, wp_bind, wp_attempt]
  rfl

theorem Searching.follows (searching : Searching toeplitz iface place iutAddr tstAddr nicKey variant t) :
    Follows toeplitz iface place iutAddr tstAddr nicKey variant t := by
  refine ⟨searching.inUse, ?_⟩
  rw [searching.sent]
  exact .before searching.initial

theorem Searching.frame (searching : Searching toeplitz iface place iutAddr tstAddr nicKey variant t) {u : KeyTest κ}
    (inUse : InUse toeplitz iface place variant u.ctx) (committed : u.nicKey = t.nicKey)
    (initQueue : u.initQueue = t.initQueue) (sent : u.sent = t.sent) :
    Searching toeplitz iface place iutAddr tstAddr nicKey variant u where
  inUse := inUse
  committed := committed.trans searching.committed
  initial := initQueue ▸ searching.initial
  sent := by
    rw [sent, initQueue]
    exact searching.sent

theorem predictInto_wp {queue : KeyTest κ → UInt32} {setQueue : UInt32 → KeyTest κ → KeyTest κ} (place : Place)
    (variant : Variant) (inUse : InUse toeplitz iface place variant t.ctx) :
    (predictInto toeplitz iface iutAddr tstAddr queue setQueue).wp
      (fun _ u => ∃ hash idx found, u = setQueue found { t with hash := hash, idx := idx } ∧
        (iface place).queueOf toeplitz variant tstAddr iutAddr t.ctx.key = .ok found)
      (fun _ u => ∃ hash idx stale, u = setQueue stale { t with hash := hash, idx := idx }) t := by
  rw [predictInto, wp_bind, wp_gets, wp_zoom]
  apply wp_mono (rssPredict_wp tstAddr iutAddr ⟨true, true, true⟩ _)
  · intro _ out predicts
    exact ⟨out.hash, out.idx, out.queue, rfl, inUse.queueOf predicts rfl⟩
  · intro _ out _
    exact ⟨out.hash, out.idx, out.queue, rfl⟩

theorem sendCheckStats_wp {answer : Except Jump (Except TeErrno Unit)} {expQueue : UInt32} {vpref : String}
    {done : Except TeErrno Unit → KeyTest κ → Prop} {failed : Jump → KeyTest κ → Prop}
    (regular : ∀ rc, done rc { t with sent := t.sent ++ [⟨expQueue, vpref, t.nicKey⟩] })
    (failure : ∀ jump, failed jump { t with sent := t.sent ++ [⟨expQueue, vpref, t.nicKey⟩] }) :
    (sendCheckStats answer expQueue vpref).wp done failed t := by
  rw [sendCheckStats, wp_bind, wp_update]
  exact wp_ofExcept_any regular failure

theorem beforeChange_wp (inUse : InUse toeplitz iface place variant t.ctx) (same : t.ctx.key = nicKey)
    (committed : t.nicKey = nicKey) (unsent : t.sent = []) :
    (beforeChange toeplitz iface iutAddr tstAddr env).wp
      (fun _ => Searching toeplitz iface place iutAddr tstAddr nicKey variant)
      (fun _ => Follows toeplitz iface place iutAddr tstAddr nicKey variant) t := by
  have early : ∀ u : KeyTest κ, u.ctx = t.ctx → u.sent = t.sent →
      Follows toeplitz iface place iutAddr tstAddr nicKey variant u := by
    intro u context sent
    refine ⟨context ▸ inUse, ?_⟩
    rw [sent, unsent]
    exact .none
  unfold beforeChange
  rw [wp_bind]
  refine wp_ofExcept_any (fun _ => ?_) (fun _ => early t rfl rfl)
  rw [wp_bind, wp_update, wp_bind]
  refine wp_checkRc_any (fun _ => ?_) (fun _ => early _ rfl rfl)
  rw [wp_bind, wp_checked, predictInit]
  apply wp_mono (predictInto_wp place variant _)
  · intro _ u found
    obtain ⟨hash, idx, initQueue, rfl, initial⟩ := found
    rw [same] at initial
    rw [wp_bind]
    refine wp_ofExcept_any (fun _ => ?_) (fun _ => early _ rfl rfl)
    rw [wp_bind]
    refine wp_checkRc_any (fun _ => ?_) (fun _ => early _ rfl rfl)
    rw [wp_bind]
    refine wp_checkRc_any (fun _ => ?_) (fun _ => early _ rfl rfl)
    have sent : Searching toeplitz iface place iutAddr tstAddr nicKey variant
        { t with
          newKey := List.replicate t.ctx.keyLen 0
          hash := hash
          idx := idx
          initQueue := initQueue
          sent := t.sent ++ [⟨initQueue, "Before hash key change", t.nicKey⟩] } :=
      ⟨inUse, committed, initial, by simp [unsent, committed]⟩
    rw [wp_bind, wp_gets, wp_bind]
    apply sendCheckStats_wp
    · intro rc
      cases rc with
      | ok _ => exact sent
      | error rc => exact ⟨sent.inUse, sent.committed, sent.initial, sent.sent⟩
    · intro _
      exact sent.follows
  · intro _ u found
    obtain ⟨hash, idx, stale, rfl⟩ := found
    exact early _ rfl rfl
  · exact inUse

theorem tryKey_wp (i : Nat) (searching : Searching toeplitz iface place iutAddr tstAddr nicKey variant t) :
    (tryKey toeplitz iface iutAddr tstAddr env i).wp
      (fun found u => if found then KeyFound toeplitz iface place iutAddr tstAddr nicKey variant u
        else Searching toeplitz iface place iutAddr tstAddr nicKey variant u)
      (fun _ => Follows toeplitz iface place iutAddr tstAddr nicKey variant) t := by
  unfold tryKey
  rw [wp_bind, wp_update, wp_bind, wp_gets, wp_bind, wp_gets, wp_bind, wp_checked, onCtx, wp_zoom]
  apply wp_mono (ctxChangeKey_wp _ _ _)
  · intro _ ctx changed
    subst changed
    have inUse := searching.inUse.changed (fillKey (env.tries i).rand t.ctx.keyLen t.newKey) (t.ctx.keyLen % 2 ^ 32)
    rw [wp_bind, wp_checked, predictNew]
    apply wp_mono (predictInto_wp place variant _)
    · intro _ u found
      obtain ⟨hash, idx, newQueue, rfl, determined⟩ := found
      rw [wp_gets]
      split
      next differ =>
        exact {
          toSearching := searching.frame inUse rfl rfl rfl
          tried := by
            show _ = List.take _ (List.take _ _)
            rw [List.take_take, Nat.min_self]
          changed := determined
          differ := of_decide_eq_true differ }
      next => exact searching.frame inUse rfl rfl rfl
    · intro _ u found
      obtain ⟨hash, idx, stale, rfl⟩ := found
      exact Searching.follows (searching.frame inUse rfl rfl rfl)
    · exact inUse
  · intro rc ctx failed
    rw [failed.2]
    exact Searching.follows (searching.frame searching.inUse rfl rfl rfl)

theorem keySearch_wp (attempts : List Nat)
    (searching : Searching toeplitz iface place iutAddr tstAddr nicKey variant t) :
    (findFirst attempts (tryKey toeplitz iface iutAddr tstAddr env)).wp
      (fun found u => if found then KeyFound toeplitz iface place iutAddr tstAddr nicKey variant u
        else Searching toeplitz iface place iutAddr tstAddr nicKey variant u)
      (fun _ => Follows toeplitz iface place iutAddr tstAddr nicKey variant) t := by
  apply wp_weaken (wp_search (fun _ => Searching toeplitz iface place iutAddr tstAddr nicKey variant)
    (fun _ => KeyFound toeplitz iface place iutAddr tstAddr nicKey variant) attempts _ searching)
  · intro found u ended
    cases found with
    | true =>
      obtain ⟨_, _, found⟩ := ended
      exact found
    | false => exact ended
  · intro _ i _ u _ here
    exact tryKey_wp i here

theorem afterChange_wp (found : KeyFound toeplitz iface place iutAddr tstAddr nicKey variant t) :
    (afterChange env).wp
      (fun _ u => Follows toeplitz iface place iutAddr tstAddr nicKey variant u ∧ u.sent.length = 2)
      (fun _ => Follows toeplitz iface place iutAddr tstAddr nicKey variant) t := by
  have early : ∀ u : KeyTest κ, u.ctx = t.ctx → u.sent = t.sent →
      Follows toeplitz iface place iutAddr tstAddr nicKey variant u := by
    intro u context sent
    refine ⟨context ▸ found.inUse, ?_⟩
    rw [sent, found.sent]
    exact .before found.initial
  have late : ∀ u : KeyTest κ, u.ctx = t.ctx →
      u.sent = t.sent ++ [⟨t.newQueue, "After hash key change", t.newKey.take t.ctx.keyLen⟩] →
      Follows toeplitz iface place iutAddr tstAddr nicKey variant u ∧ u.sent.length = 2 := by
    intro u context sent
    rw [found.sent, found.tried, ← context] at sent
    refine ⟨⟨context ▸ found.inUse, ?_⟩, by rw [sent]; rfl⟩
    rw [sent]
    exact .both found.initial (context ▸ found.changed) found.differ
  unfold afterChange commitKey
  simp only [bind_assoc]
  rw [wp_bind]
  refine wp_checkRc_any (fun _ => ?_) (fun _ => early t rfl rfl)
  rw [wp_bind, wp_update, wp_bind]
  refine wp_checkRc_any (fun _ => ?_) (fun _ => early _ rfl rfl)
  rw [wp_bind, wp_update, wp_bind, wp_gets, wp_bind]
  apply sendCheckStats_wp
  · intro rc
    rw [wp_bind]
    refine wp_checkRc_any (fun _ => ?_) (fun _ => And.left (late _ rfl rfl))
    rw [wp_bind, wp_gets]
    exact wp_when (fun _ => And.left (late _ rfl rfl)) (fun _ => late _ rfl rfl)
  · intro _
    exact And.left (late _ rfl rfl)

theorem changeHashKey_wp (inUse : InUse toeplitz iface place variant t.ctx) (same : t.ctx.key = nicKey)
    (committed : t.nicKey = nicKey) (unsent : t.sent = []) :
    (changeHashKey toeplitz iface iutAddr tstAddr env).wp
      (fun _ u => Follows toeplitz iface place iutAddr tstAddr nicKey variant u ∧ u.sent.length = 2)
      (fun _ => Follows toeplitz iface place iutAddr tstAddr nicKey variant) t := by
  apply wp_seq (beforeChange_wp inUse same committed unsent) _ (fun _ _ follows => follows)
  intro _ u searching
  apply wp_seq (keySearch_wp (List.range maxAttempts) searching) _ (fun _ _ follows => follows)
  intro found v ended
  cases found with
  | true => exact afterChange_wp ended
  | false => exact Searching.follows ended

theorem hashKeySet_wp (unsent : t.sent = []) (committed : t.nicKey = nicKey) :
    (hashKeySet toeplitz iface place iutAddr tstAddr env).wp
      (fun _ u => ∃ variant, env.prepare.variantGet = .ok variant ∧
        Follows toeplitz iface place iutAddr tstAddr nicKey variant u ∧ u.sent.length = 2)
      (fun _ u => (u.sent = [] ∧ ∃ rc, (ctxPrepare toeplitz iface env.prepare nicKey place t.ctx).1 = .error rc) ∨
        ∃ variant, env.prepare.variantGet = .ok variant ∧
          Follows toeplitz iface place iutAddr tstAddr nicKey variant u) t := by
  subst committed
  unfold hashKeySet
  rw [wp_bind, wp_gets, wp_bind, onCtx, wp_zoom]
  have prepared : (ctxPrepare toeplitz iface env.prepare t.nicKey place).wp _ _ t.ctx :=
    ctxPrepare_wp env.prepare t.nicKey
  cases run : ctxPrepare toeplitz iface env.prepare t.nicKey place t.ctx with
  | mk result ctx =>
    rw [wp, run]
    cases result with
    | error jump => exact .inl ⟨unsent, jump, rfl⟩
    | ok _ =>
      obtain ⟨variant, read, inUse, same⟩ := wp_ok prepared run
      have rest : (changeHashKey toeplitz iface iutAddr tstAddr env).wp _ _ { t with ctx := ctx } :=
        changeHashKey_wp inUse same rfl unsent
      apply wp_mono rest
      · intro _ u ended
        exact ⟨variant, read, ended⟩
      · intro _ u follows
        exact .inr ⟨variant, read, follows⟩

theorem hashKeySetMain_eq :
    hashKeySetMain toeplitz iface place iutAddr tstAddr env t =
      let (result, done) := hashKeySet toeplitz iface place iutAddr tstAddr env t
      (result, { done with ctx := { done.ctx with hashKey := none, cache := none } }) := by
  cases run : hashKeySet toeplitz iface place iutAddr tstAddr env t with
  | mk result done =>
    have attempted : attempt (hashKeySet toeplitz iface place iutAddr tstAddr env) t =
        ((.ok result : Except Jump _), done) := by
      simp only [attempt, run]
    rw [hashKeySetMain, bind_ok attempted]
    cases result <;> rfl

end

section
variable {queueOf : List (BitVec 8) → Except TeErrno UInt32} {first last : List (BitVec 8)} {sent : List Sent}

theorem Expects.determined (expects : Expects queueOf first last sent) :
    ∀ call ∈ sent, queueOf call.nicKey = .ok call.expQueue := by
  intro call member
  cases expects with
  | none => simp at member
  | before initial =>
    rw [List.mem_singleton.mp member]
    exact initial
  | both initial changed differ =>
    rcases List.mem_cons.mp member with rfl | rest
    · exact initial
    · rw [List.mem_singleton.mp rest]
      exact changed

theorem Expects.head (expects : Expects queueOf first last sent) {call : Sent} {rest : List Sent}
    (calls : sent = call :: rest) : call.nicKey = first := by
  cases expects with
  | none => cases calls
  | before initial =>
    cases calls
    rfl
  | both initial changed differ =>
    cases calls
    rfl

theorem Expects.second (expects : Expects queueOf first last sent) {call again : Sent} {rest : List Sent}
    (calls : sent = call :: again :: rest) :
    rest = [] ∧ again.nicKey = last ∧ again.expQueue ≠ call.expQueue := by
  cases expects with
  | none => cases calls
  | before initial => cases calls
  | both initial changed differ =>
    cases calls
    exact ⟨rfl, rfl, differ⟩

end

theorem Follows.calls {κ : Type} {toeplitz : Toeplitz κ} {iface : Place → Iface} {place : Place}
    {iutAddr tstAddr : SockAddr} {answers : Prepare} {nicKey : List (BitVec 8)} {variant : Variant} {t : KeyTest κ}
    (follows : Follows toeplitz iface place iutAddr tstAddr nicKey variant t)
    (read : answers.variantGet = .ok variant) :
    (∀ call ∈ t.sent, ∃ variant, answers.variantGet = .ok variant ∧
      (iface place).queueOf toeplitz variant tstAddr iutAddr call.nicKey = .ok call.expQueue) ∧
    (∀ call rest, t.sent = call :: rest → call.nicKey = nicKey) ∧
    (∀ call again rest, t.sent = call :: again :: rest →
      rest = [] ∧ again.nicKey = t.ctx.key ∧ again.expQueue ≠ call.expQueue) := by
  refine ⟨?_, ?_, ?_⟩
  · intro call member
    exact ⟨variant, read, follows.expects.determined call member⟩
  · intro call rest calls
    exact follows.expects.head calls
  · intro call again rest calls
    exact follows.expects.second calls

/-- The prediction follows the key of the NIC. As long as the context is in use its cache is that of exactly
its key, whatever changes of the key were tried and whichever allocations failed; a prediction is a lookup of
the hash modulo the size of the table; and the test expects its packets on the queue of the key that is
committed when they are sent, on two different queues. -/
theorem rss_prediction_follows_key {κ : Type} (toeplitz : Toeplitz κ) (iface : Place → Iface) (place : Place) :
    (∀ (answers : Prepare) (key : List (BitVec 8)) (unused ctx : Ctx κ) (changes : List KeyChange),
      ctxPrepare toeplitz iface answers key place unused = (.ok (), ctx) →
        ctx.key = key ∧ ∃ variant, answers.variantGet = .ok variant ∧
          InUse toeplitz iface place variant (changeKeys toeplitz ctx changes)) ∧
    (∀ (ctx : Ctx κ) (alloc : KeyAlloc) (hashKey : List (BitVec 8)) (keyLen : Nat) (rc : TeErrno),
      (ctxChangeKey toeplitz alloc hashKey keyLen ctx).1 = .error rc →
        (ctxChangeKey toeplitz alloc hashKey keyLen ctx).2 = ctx) ∧
    (∀ (ctx : Ctx κ) (src dst : SockAddr) (asked : Asked) (out : Outputs),
      match rssPredict toeplitz iface ctx src dst asked out with
      | (.ok _, next) => Predicts toeplitz iface ctx src dst asked next
      | (.error rc, _) => PredictFails toeplitz iface ctx src dst asked rc) ∧
    (∀ (iutAddr tstAddr : SockAddr) (env : KeyEnv) (nicKey : List (BitVec 8)) (stale : Outputs) (staleNew : UInt32)
        (result : Except Jump Unit) (done : KeyTest κ),
      hashKeySet toeplitz iface place iutAddr tstAddr env (.start nicKey stale staleNew) = (result, done) →
        (∀ call ∈ done.sent, ∃ variant, env.prepare.variantGet = .ok variant ∧
          (iface place).queueOf toeplitz variant tstAddr iutAddr call.nicKey = .ok call.expQueue) ∧
        (∀ call rest, done.sent = call :: rest → call.nicKey = nicKey) ∧
        (∀ call again rest, done.sent = call :: again :: rest →
          rest = [] ∧ again.nicKey = done.ctx.key ∧ again.expQueue ≠ call.expQueue) ∧
        (result = .ok () → done.sent.length = 2) ∧
        ((ctxPrepare toeplitz iface env.prepare nicKey place .init).1 = .ok () →
          ∃ variant, env.prepare.variantGet = .ok variant ∧ InUse toeplitz iface place variant done.ctx)) := by
  refine ⟨?_, ?_, ?_, ?_⟩
  · intro answers key unused ctx changes run
    have prepared : (ctxPrepare toeplitz iface answers key place).wp _ _ unused := ctxPrepare_wp answers key
    obtain ⟨variant, read, inUse, same⟩ := wp_ok prepared run
    exact ⟨same, variant, read, inUse.changeKeys changes⟩
  · intro ctx alloc hashKey keyLen rc failed
    exact ctxChangeKey_error failed
  · intro ctx src dst asked out
    have spec : (rssPredict toeplitz iface ctx src dst asked).wp _ _ out := rssPredict_wp src dst asked out
    rw [wp] at spec
    split at spec
    next run => rwa [run]
    next run => rwa [run]
  · intro iutAddr tstAddr env nicKey stale staleNew result done run
    have spec : (hashKeySet toeplitz iface place iutAddr tstAddr env).wp _ _ (.start nicKey stale staleNew) :=
      hashKeySet_wp rfl rfl
    rw [wp, run] at spec
    cases result with
    | ok _ =>
      obtain ⟨variant, read, follows, both⟩ := spec
      obtain ⟨determined, head, second⟩ := follows.calls read
      exact ⟨determined, head, second, fun _ => both, fun _ => ⟨variant, read, follows.inUse⟩⟩
    | error jump =>
      rcases spec with ⟨unsent, rc, failed⟩ | ⟨variant, read, follows⟩
      · have stopped : (ctxPrepare toeplitz iface env.prepare nicKey place .init).1 = .error rc := failed
        rw [unsent, stopped]
        exact ⟨by simp, by simp, by simp, by simp, by simp⟩
      · obtain ⟨determined, head, second⟩ := follows.calls read
        exact ⟨determined, head, second, by simp, fun _ => ⟨variant, read, follows.inUse⟩⟩

def bitsOf (bytes : List (BitVec 8)) : List Bool :=
  bytes.flatMap (fun byte => (List.range 8).map (fun i => byte.getMsbD i))

/-- The standard Toeplitz hash: the windows of 32 bits of the key at the bits of the input that are set. -/
def toeplitzHash : List Bool → List Bool → BitVec 32
  | _, [] => 0
  | key, bit :: input =>
    (if bit then (key.take 32).foldl (fun window b => window.concat b |>.setWidth 32) 0 else 0) ^^^
      toeplitzHash key.tail input

/-- The hash of IPv4 packets, with the key in place of its cache. -/
def plainToeplitz : Toeplitz (List (BitVec 8)) where
  cacheInitSize key := key
  hashSa cache src dst variant :=
    match cache, variant with
    | some key, .standard =>
      let ports := [src.port.extractLsb' 8 8, src.port.extractLsb' 0 8, dst.port.extractLsb' 8 8, dst.port.extractLsb' 0 8]
      .ok (.ofBitVec (toeplitzHash (bitsOf key) (bitsOf (src.netaddr ++ dst.netaddr ++ ports))))
    | _, _ => .error TeError.einval
  rcText _ := "EINVAL"

/-- Everything succeeds, and the first key tried is all ones. -/
def onesTried : KeyEnv where
  prepare := ⟨.ok (), .ok (), .ok (), true, .ok .standard⟩
  calloc := .ok ()
  printIndirTable := .ok ()
  genConnection := .ok ()
  statsGetId := .ok ()
  statsSetParams := .ok ()
  sendBefore := .ok (.ok ())
  tries _ := ⟨fun _ => 0xff, ⟨true, true⟩⟩
  hashKeySetLocal := .ok ()
  indirCommit := .ok ()
  sendAfter := .ok (.ok ())

def twoEntries : Iface := ⟨2, 2, by decide, fun idx => .ok idx.toInt32⟩

def onesRun : Except Jump Unit × KeyTest (List (BitVec 8)) :=
  hashKeySet plainToeplitz (fun _ => twoEntries) ⟨"Agt_A", "eth0", 0⟩ ⟨[10, 0, 0, 1], 40003⟩ ⟨[10, 0, 0, 2], 40001⟩
    onesTried (.start (List.replicate 16 0) ⟨0, 0, 0⟩ 0)

theorem onesRun_ends : onesRun.1 = .ok () ∧ onesRun.2.sent.map Sent.expQueue = [0, 1] ∧
    onesRun.2.ctx.key = List.replicate 16 0xff := by
  have attempts : List.range maxAttempts = 0 :: (List.range 9999).map Nat.succ := by
    rw [show maxAttempts = 9999 + 1 by unfold maxAttempts; rfl, List.range_succ_eq_map]
  unfold onesRun hashKeySet changeHashKey
  rw [attempts]
  decide +kernel

/-- Its packets are first expected on queue 0 and then on queue 1, where the last key
puts them; a key whose cache cannot be allocated does not get into the context. -/
theorem rss_prediction_of_ones :
    (onesRun.2.sent.length = 2 ∧
      ∀ call ∈ onesRun.2.sent, ∃ variant, onesTried.prepare.variantGet = .ok variant ∧
        twoEntries.queueOf plainToeplitz variant ⟨[10, 0, 0, 2], 40001⟩ ⟨[10, 0, 0, 1], 40003⟩ call.nicKey =
          .ok call.expQueue) ∧
    (ctxChangeKey plainToeplitz ⟨true, false⟩ [1, 2] 2 onesRun.2.ctx).2 = onesRun.2.ctx ∧
    ∃ ctx, ctxPrepare plainToeplitz (fun _ => twoEntries) onesTried.prepare [7] ⟨"Agt_A", "eth0", 0⟩ .init =
      (.ok (), ctx) ∧ (changeKeys plainToeplitz ctx [⟨⟨true, false⟩, [1, 2], 2⟩, ⟨⟨true, true⟩, [3, 4], 2⟩]).cache =
        some [3, 4] := by
  obtain ⟨inUse, unchanged, _, test⟩ :=
    rss_prediction_follows_key plainToeplitz (fun _ => twoEntries) ⟨"Agt_A", "eth0", 0⟩
  obtain ⟨determined, _, _, both, _⟩ := test _ _ onesTried _ _ _ onesRun.1 onesRun.2 rfl
  have changes := inUse onesTried.prepare [7] .init _
    [⟨⟨true, false⟩, [1, 2], 2⟩, ⟨⟨true, true⟩, [3, 4], 2⟩] rfl
  obtain ⟨_, variant, _, used⟩ := changes
  exact ⟨⟨both onesRun_ends.1, determined⟩, unchanged _ _ _ _ TeError.enomem rfl, _, rfl, used.cache⟩

end NetDrv.Rss
