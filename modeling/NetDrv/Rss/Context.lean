import Mathlib.Algebra.Group.Nat.Defs
import NetDrv.Rss.Toeplitz

/-! The context of the RSS tests. It holds a copy of the hash key, the length of that
copy, and the Toeplitz cache that was made of them; all three are replaced when another
key is tried. Allocations may fail at any point. -/

namespace NetDrv.Rss
open Script

/-- The RSS context of an interface of a Test Agent. -/
structure Place where
  ta : String
  ifName : String
  rssCtx : UInt32
  deriving DecidableEq, Repr

/-- What RSS is set to there, apart from the hash key. -/
structure Iface where
  rxQueues : Int32
  tableSize : UInt32
  nonempty : 0 < tableSize
  /-- The indirection table, as `tapi_cfg_if_rss_indir_get()` reads it. -/
  indirGet : UInt32 → Except TeErrno Int32

/-- `net_drv_rss_ctx`; a pointer is `none` when it is `NULL`. -/
structure Ctx (κ : Type) where
  place : Place
  indirTableSize : UInt32
  rxQueues : UInt32
  hashKey : Option (List (BitVec 8))
  keyLen : Nat
  cache : Option κ
  hashVariant : Variant

def Ctx.init {κ : Type} : Ctx κ := ⟨⟨"", "", 0⟩, 0, 0, none, 0, none, .standard⟩

/-- What is used of TE; `κ` are its caches. -/
structure Toeplitz (κ : Type) where
  /-- `te_toeplitz_cache_init_size()` of the bytes of a key, when its allocation succeeds. -/
  cacheInitSize : List (BitVec 8) → κ
  hashSa : Option κ → SockAddr → SockAddr → Variant → Except TeErrno UInt32
  /-- How `%r` prints a status code. -/
  rcText : TeErrno → String

/-- How the calls of `net_drv_rss_ctx_prepare()` end. -/
structure Prepare where
  hashKeyGet : Except TeErrno Unit
  rxQueuesGet : Except TeErrno Unit
  tableSizeGet : Except TeErrno Unit
  cacheAllocated : Bool
  variantGet : Except TeErrno Variant

/-- Whether the allocations of `net_drv_rss_ctx_change_key()` succeed. -/
structure KeyAlloc where
  keyDup : Bool
  newCache : Bool
  deriving DecidableEq, Repr

/-- Which pointers given to `net_drv_rss_predict()` are not `NULL`. -/
structure Asked where
  hash : Bool
  idx : Bool
  queue : Bool
  deriving DecidableEq, Repr

structure Outputs where
  hash : UInt32
  idx : UInt32
  queue : UInt32
  deriving DecidableEq, Repr

section
variable {κ : Type} (toeplitz : Toeplitz κ) (iface : Place → Iface)

def ctxRelease {ε : Type} : Script ε (Ctx κ) Unit := update (fun ctx => { ctx with hashKey := none, cache := none })

/-- `net_drv_rss_get_check_hkey()`; `key` is the one the NIC uses. -/
def getCheckHkey (answer : Except TeErrno Unit) (key : List (BitVec 8)) : Script Jump (Ctx κ) Unit :=
  match answer with
  | .ok _ => update (fun ctx => { ctx with hashKey := some key, keyLen := key.length })
  | .error rc =>
    if rc = teRc .cs .eopnotsupp then fail (.skip "Getting RSS hash key is not supported")
    else fail (.verdict ("Failed to get RSS hash key, rc=" ++ toeplitz.rcText rc))

/-- The first bytes of the key, as many as the context says it has. -/
def Ctx.key (ctx : Ctx κ) : List (BitVec 8) := (ctx.hashKey.getD []).take ctx.keyLen

def fillCtx (answers : Prepare) (place : Place) : Script TeErrno (Ctx κ) Unit := do
  ofExcept answers.rxQueuesGet
  update (fun ctx => { ctx with rxQueues := (iface place).rxQueues.toUInt32 })
  ofExcept answers.tableSizeGet
  update (fun ctx => { ctx with indirTableSize := (iface place).tableSize })
  if answers.cacheAllocated then
    update (fun ctx => { ctx with cache := some (toeplitz.cacheInitSize ctx.key) })
  else do
    update (fun ctx => { ctx with cache := none })
    fail TeError.enomem
  match answers.variantGet with
  | .ok variant => update (fun ctx => { ctx with hashVariant := variant })
  | .error _ => fail TeError.einval

def ctxPrepare (answers : Prepare) (key : List (BitVec 8)) (place : Place) : Script Jump (Ctx κ) Unit := do
  update (fun ctx => { ctx with place := place })
  getCheckHkey toeplitz answers.hashKeyGet key
  match ← attempt (fillCtx toeplitz iface answers place) with
  | .ok _ => pure ()
  | .error _ => do
    ctxRelease
    fail .stop

/-- `net_drv_rss_ctx_change_key()`; the length is an `unsigned int` here. -/
def ctxChangeKey (alloc : KeyAlloc) (hashKey : List (BitVec 8)) (keyLen : Nat) : Script TeErrno (Ctx κ) Unit := do
  let keyLen := keyLen % 2 ^ 32
  when (!alloc.keyDup) (fail TeError.enomem)
  let keyDup := hashKey.take keyLen
  when (!alloc.newCache) (fail TeError.enomem)
  let newCache := toeplitz.cacheInitSize (hashKey.take keyLen)
  update (fun ctx => { ctx with hashKey := some keyDup, keyLen := keyLen, cache := some newCache })

def rssPredict (ctx : Ctx κ) (src dst : SockAddr) (asked : Asked) : Script TeErrno Outputs Unit := do
  let hash ← ofExcept (toeplitz.hashSa ctx.cache src dst ctx.hashVariant)
  when asked.hash (update (fun out => { out with hash := hash }))
  if asked.idx || asked.queue then
    let idx := hash % ctx.indirTableSize
    when asked.idx (update (fun out => { out with idx := idx }))
    if asked.queue then
      let queue ← ofExcept ((iface ctx.place).indirGet idx)
      update (fun out => { out with queue := queue.toUInt32 })

/-- The Rx queue that a key determines for packets from `src` to `dst`. -/
def Iface.queueOf (place : Iface) (variant : Variant) (src dst : SockAddr) (key : List (BitVec 8)) :
    Except TeErrno UInt32 := do
  let hash ← toeplitz.hashSa (some (toeplitz.cacheInitSize key)) src dst variant
  let queue ← place.indirGet (hash % place.tableSize)
  pure queue.toUInt32

/-- A context between its preparation and its release: the cache is that of exactly its key. -/
structure InUse (place : Place) (variant : Variant) (ctx : Ctx κ) : Prop where
  present : ctx.hashKey.isSome
  cache : ctx.cache = some (toeplitz.cacheInitSize ctx.key)
  located : ctx.place = place
  indirTableSize : ctx.indirTableSize = (iface place).tableSize
  hashVariant : ctx.hashVariant = variant

/-- What a successful prediction wrote: the outputs asked for are those of one hash value. -/
def Predicts (ctx : Ctx κ) (src dst : SockAddr) (asked : Asked) (out : Outputs) : Prop :=
  ∃ hash, toeplitz.hashSa ctx.cache src dst ctx.hashVariant = .ok hash ∧
    (asked.hash = true → out.hash = hash) ∧
    (asked.idx = true → out.idx = hash % ctx.indirTableSize) ∧
    (asked.queue = true → ∃ queue, (iface ctx.place).indirGet (hash % ctx.indirTableSize) = .ok queue ∧
      out.queue = queue.toUInt32)

/-- Why a prediction failed: the hash, or the entry of the table if that is asked for. -/
def PredictFails (ctx : Ctx κ) (src dst : SockAddr) (asked : Asked) (rc : TeErrno) : Prop :=
  toeplitz.hashSa ctx.cache src dst ctx.hashVariant = .error rc ∨
  asked.queue = true ∧ ∃ hash, toeplitz.hashSa ctx.cache src dst ctx.hashVariant = .ok hash ∧
    (iface ctx.place).indirGet (hash % ctx.indirTableSize) = .error rc

/-- A call of `net_drv_rss_ctx_change_key()`. -/
structure KeyChange where
  alloc : KeyAlloc
  hashKey : List (BitVec 8)
  keyLen : Nat

/-- The context after calls that may each have failed; predictions only read it. -/
def changeKeys (ctx : Ctx κ) (changes : List KeyChange) : Ctx κ :=
  changes.foldl (fun ctx change => (ctxChangeKey toeplitz change.alloc change.hashKey change.keyLen ctx).2) ctx

end

section
variable {κ : Type} {toeplitz : Toeplitz κ} {iface : Place → Iface} {place : Place} {variant : Variant} {ctx : Ctx κ}

theorem getCheckHkey_wp (answer : Except TeErrno Unit) (key : List (BitVec 8)) :
    (getCheckHkey toeplitz answer key).wp
      (fun _ next => next = { ctx with hashKey := some key, keyLen := key.length }) (fun _ next => next = ctx) ctx := by
  unfold getCheckHkey
  cases answer with
  | ok _ => rfl
  | error rc =>
    simp only
    split <;> rfl

theorem fillCtx_wp (answers : Prepare) (present : ctx.hashKey.isSome) (here : ctx.place = place) :
    (fillCtx toeplitz iface answers place).wp
      (fun _ next => ∃ variant, answers.variantGet = .ok variant ∧ InUse toeplitz iface place variant next ∧
        next.key = ctx.key)
      (fun _ _ => True) ctx := by
  simp only [fillCtx, wp_bind, wp_ofExcept, wp_update]
  split
  · split
    · split
      next allocated =>
        rw [wp_bind, wp_update]
        cases variantGet : answers.variantGet with
        | ok variant => exact ⟨variant, rfl, ⟨present, rfl, here, rfl, rfl⟩, rfl⟩
        | error rc => trivial
      next failed => trivial
    · trivial
  · trivial

theorem ctxPrepare_wp (answers : Prepare) (key : List (BitVec 8)) :
    (ctxPrepare toeplitz iface answers key place).wp
      (fun _ next => ∃ variant, answers.variantGet = .ok variant ∧ InUse toeplitz iface place variant next ∧
        next.key = key)
      (fun _ next => next.hashKey = none ∧ next.cache = none ∨ next = { ctx with place := place }) ctx := by
  rw [ctxPrepare, wp_bind, wp_update]
  apply wp_seq (getCheckHkey_wp answers.hashKeyGet key)
  · rintro _ next rfl
    rw [wp_bind, wp_attempt]
    apply wp_mono (fillCtx_wp answers rfl rfl)
    · intro _ filled found
      obtain ⟨variant, read, inUse, same⟩ := found
      refine ⟨variant, read, inUse, same.trans ?_⟩
      exact List.take_length
    · intro _ _ _
      exact .inl ⟨rfl, rfl⟩
  · intro _ next same
    exact .inr same

theorem ctxChangeKey_wp (alloc : KeyAlloc) (hashKey : List (BitVec 8)) (keyLen : Nat) :
    (ctxChangeKey toeplitz alloc hashKey keyLen).wp
      (fun _ next => next = { ctx with
        hashKey := some (hashKey.take (keyLen % 2 ^ 32))
        keyLen := keyLen % 2 ^ 32
        cache := some (toeplitz.cacheInitSize (hashKey.take (keyLen % 2 ^ 32))) })
      (fun rc next => rc = TeError.enomem ∧ next = ctx) ctx := by
  obtain ⟨keyDup, newCache⟩ := alloc
  cases keyDup with
  | false => exact ⟨rfl, rfl⟩
  | true =>
    cases newCache with
    | false => exact ⟨rfl, rfl⟩
    | true => rfl

theorem ctxChangeKey_error {alloc : KeyAlloc} {hashKey : List (BitVec 8)} {keyLen : Nat} {rc : TeErrno}
    (failed : (ctxChangeKey toeplitz alloc hashKey keyLen ctx).1 = .error rc) :
    (ctxChangeKey toeplitz alloc hashKey keyLen ctx).2 = ctx := by
  have spec : (ctxChangeKey toeplitz alloc hashKey keyLen).wp _ _ ctx := ctxChangeKey_wp alloc hashKey keyLen
  rw [wp] at spec
  split at spec
  next run => simp [run] at failed
  next run => simpa [run] using spec.2

theorem InUse.changed (inUse : InUse toeplitz iface place variant ctx) (hashKey : List (BitVec 8)) (keyLen : Nat) :
    InUse toeplitz iface place variant { ctx with
      hashKey := some (hashKey.take keyLen)
      keyLen := keyLen
      cache := some (toeplitz.cacheInitSize (hashKey.take keyLen)) } where
  present := rfl
  cache := by
    show _ = some (toeplitz.cacheInitSize ((hashKey.take keyLen).take keyLen))
    rw [List.take_take, Nat.min_self]
  located := inUse.located
  indirTableSize := inUse.indirTableSize
  hashVariant := inUse.hashVariant

theorem InUse.changeKey (inUse : InUse toeplitz iface place variant ctx) (change : KeyChange) :
    InUse toeplitz iface place variant (ctxChangeKey toeplitz change.alloc change.hashKey change.keyLen ctx).2 := by
  apply wp_final (InUse toeplitz iface place variant) (ctxChangeKey_wp change.alloc change.hashKey change.keyLen)
  · rintro _ next rfl
    exact inUse.changed change.hashKey (change.keyLen % 2 ^ 32)
  · intro _ next same
    rw [same.2]
    exact inUse

theorem InUse.changeKeys (inUse : InUse toeplitz iface place variant ctx) (changes : List KeyChange) :
    InUse toeplitz iface place variant (changeKeys toeplitz ctx changes) := by
  induction changes generalizing ctx with
  | nil => exact inUse
  | cons change changes ih => exact ih (inUse.changeKey change)

theorem rssPredict_wp (src dst : SockAddr) (asked : Asked) (out : Outputs) :
    (rssPredict toeplitz iface ctx src dst asked).wp (fun _ => Predicts toeplitz iface ctx src dst asked)
      (fun rc _ => PredictFails toeplitz iface ctx src dst asked rc) out := by
  unfold rssPredict Predicts PredictFails
  rw [wp_bind, wp_ofExcept]
  cases hashed : toeplitz.hashSa ctx.cache src dst ctx.hashVariant with
  | error rc => exact .inl rfl
  | ok hash =>
    obtain ⟨askedHash, askedIdx, askedQueue⟩ := asked
    cases askedQueue with
    | false =>
      -- nothing is read from the table
      cases askedHash <;> cases askedIdx <;> simp [when, wp_bind, wp_update]
    | true =>
      cases found : (iface ctx.place).indirGet (hash % ctx.indirTableSize) with
      | error rc => cases askedHash <;> cases askedIdx <;> simp [when, wp_bind, wp_update, wp_ofExcept, found]
      | ok queue => cases askedHash <;> cases askedIdx <;> simp [when, wp_bind, wp_update, wp_ofExcept, found]

theorem InUse.queueOf {src dst : SockAddr} {asked : Asked} {out : Outputs}
    (inUse : InUse toeplitz iface place variant ctx) (predicts : Predicts toeplitz iface ctx src dst asked out)
    (queue : asked.queue = true) :
    (iface place).queueOf toeplitz variant src dst ctx.key = .ok out.queue := by
  obtain ⟨hash, hashed, -, -, looked⟩ := predicts
  obtain ⟨found, read, written⟩ := looked queue
  rw [inUse.cache, inUse.hashVariant] at hashed
  rw [inUse.located, inUse.indirTableSize] at read
  simp only [Iface.queueOf, hashed, read, bind, Except.bind, written]
  rfl

end
end NetDrv.Rss
