import NetDrv.Rss.ChangeChannels

/-! When `rss/change_channels` asks for a number of channels that the committed
indirection table does not allow. The table is default whenever the body changes the
number of channels; the cleanup restores it over whatever table was committed last. -/

namespace NetDrv.Rss.ChangeChannels
open Script

/-- No Rx queue of an explicitly configured table disappears with `combined` channels. -/
def Table.Safe (combined : Int) : Table → Prop
  | .default => True
  | .explicit rxQueues => ∀ rxQueue ∈ rxQueues, rxQueue < combined

def Request.Safe (request : Request) : Prop := request.table.Safe request.combined

section
variable (env : Env)

/-- In attempt `j` both ports are free. -/
def BothFree (round : Round) (i j : Nat) : Prop := ∀ side, env.portIsFree round i j side = .ok true

/-- In attempt `j` a check of a port fails. -/
def PortFails (round : Round) (i j : Nat) : Prop :=
  (∃ rc, env.portIsFree round i j .iut = .error rc) ∨
  env.portIsFree round i j .iut = .ok true ∧ ∃ rc, env.portIsFree round i j .tst = .error rc

/-- A connection of `check_indir_table()` finds free ports and nothing wrong. -/
def ConnPasses (round : Round) (i : Nat) : Prop :=
  (∃ j < maxAttempts, BothFree env round i j ∧ ∀ k < j, ¬PortFails env round i k) ∧
  ∀ call, env.rc (.conn round i call) = none

/-- A round of `check_indir_table()` finds nothing wrong. -/
def Passes (round : Round) : Prop := ∀ i < checkConnsNum, ConnPasses env round i

/-- The Rx queue chosen for an entry in the first change of the table. -/
def firstEntry (combinedNew i : Nat) : Int :=
  newRxq 0 (combinedNew - 1) (env.defaultEntry combinedNew i) (env.randRxq .first i) maxAttempts 0 0

def firstTable (combinedNew : Nat) : Table :=
  .explicit ((List.range env.indirTableSize).map (firstEntry env combinedNew))

/-- Calls made once before the first change of the table is committed. -/
def setupCalls : List Call :=
  [.rssCtxPrepare, .rxqStatsGetId, .printIndirTable .first, .indirDefaultSet, .chanMaxGet, .chanCurGet,
    .chanCurSet, .cfgSynchronize, .printIndirTable .second, .tapiCalloc, .indirCommit .first]

/-- Nothing keeps the test from the first commit, made with `combinedNew` channels. -/
structure FirstCommit (combinedNew : Nat) : Prop where
  setup : ∀ call ∈ setupCalls, env.rc call = none
  keepAddr : env.inet6 = true → env.rc .keepAddrOnDown = none
  initial : 1 ≤ env.combinedInit
  changeable : ¬(env.combinedMax < 3 ∨ env.twoPower = true ∧ env.combinedMax < 4)
  chosen : chooseCombined env maxAttempts 0 = some combinedNew
  read : ∀ i < env.indirTableSize, env.rc (.indirGet i) = none
  checked : Passes env .first
  written : ∀ i < env.indirTableSize, env.rc (.indirSetLocal .first i) = none

/-- The first commit is made, with an Rx queue that the initial number of channels does not have. -/
def Endangered : Prop :=
  ∃ combinedNew, FirstCommit env combinedNew ∧
    ∃ i < env.indirTableSize, env.combinedInit ≤ firstEntry env combinedNew i

/-- What holds when the body jumps to the cleanup. -/
structure Settled (w : World) : Prop where
  requests : ∀ request ∈ w.requests, request.Safe
  outcome :
    ((∀ combinedNew, ¬FirstCommit env combinedNew) ∧
      (0 < w.combinedInit → w.combinedInit = env.combinedInit ∧ w.table.Safe env.combinedInit)) ∨
    ∃ combinedNew, FirstCommit env combinedNew ∧ w.combinedInit = env.combinedInit ∧
      w.table = firstTable env combinedNew

variable {env} {t : World}

theorem wp_check {done : Unit → World → Prop} {failed : Jump → World → Prop} (call : Call)
    (regular : env.rc call = none → done () t)
    (failure : ∀ rc, env.rc call = some rc → failed (.checkRc rc) t) : (check env call).wp done failed t := by
  unfold check
  cases answer : env.rc call with
  | none => exact regular answer
  | some rc => exact failure rc answer

theorem wp_check_bind {α : Type} {rest : Test α} {done : α → World → Prop} {failed : Jump → World → Prop} (call : Call)
    (regular : env.rc call = none → rest.wp done failed t)
    (failure : ∀ rc, env.rc call = some rc → failed (.checkRc rc) t) :
    (do check env call; rest).wp done failed t :=
  (wp_bind _ _).mpr (wp_check call regular failure)

theorem not_firstCommit {call : Call} {rc : TeErrno} (member : call ∈ setupCalls) (failed : env.rc call = some rc)
    (combinedNew : Nat) : ¬FirstCommit env combinedNew := by
  intro committed
  rw [committed.setup call member] at failed
  cases failed

def resetCalls : List Call := [.rssCtxPrepare, .rxqStatsGetId, .printIndirTable .first, .indirDefaultSet]

theorem resetTable_wp :
    (resetTable env).wp (fun _ u => u = { t with table := .default } ∧ (∀ call ∈ resetCalls, env.rc call = none) ∧
        (env.inet6 = true → env.rc .keepAddrOnDown = none))
      (fun _ u => u.combinedInit = t.combinedInit ∧ u.requests = t.requests ∧ ∀ n, ¬FirstCommit env n) t := by
  unfold resetTable
  cases prepared : env.rc .rssCtxPrepare with
  | some rc => exact ⟨rfl, rfl, not_firstCommit (by decide) prepared⟩
  | none =>
    rw [if_neg (by simp)]
    refine wp_check_bind _ (fun getId => ?_) (fun rc failed => ⟨rfl, rfl, not_firstCommit (by decide) failed⟩)
    refine wp_check_bind _ (fun print => ?_) (fun rc failed => ⟨rfl, rfl, not_firstCommit (by decide) failed⟩)
    refine wp_check_bind _ (fun default => ?_) (fun rc failed => ⟨rfl, rfl, not_firstCommit (by decide) failed⟩)
    rw [wp_bind, wp_update]
    have calls : ∀ call ∈ resetCalls, env.rc call = none := by simp [resetCalls, prepared, getId, print, default]
    refine wp_when (fun inet6 => ?_) (fun inet => ⟨rfl, calls, fun inet6 => ?_⟩)
    · refine wp_check _ (fun keep => ⟨rfl, calls, fun _ => keep⟩) (fun rc failed => ⟨rfl, rfl, fun n committed => ?_⟩)
      rw [committed.keepAddr inet6] at failed
      cases failed
    · rw [inet] at inet6
      cases inet6

/-- The table is default, and was at every request. -/
structure AtDefault (env : Env) (w : World) : Prop where
  table : w.table = .default
  requests : ∀ request ∈ w.requests, request.table = .default
  combinedInit : 0 < w.combinedInit → w.combinedInit = env.combinedInit

theorem safe_default {combined : Int} {table : Table} (default : table = .default) : table.Safe combined := by
  rw [default]
  trivial

theorem AtDefault.settled {w : World} (here : AtDefault env w) (never : ∀ n, ¬FirstCommit env n) : Settled env w :=
  ⟨fun request member => safe_default (here.requests request member),
    .inl ⟨never, fun positive => ⟨here.combinedInit positive, safe_default here.table⟩⟩⟩

/-- What is known once the number of channels was changed. -/
structure Changed (env : Env) (combinedNew : Nat) (w : World) : Prop extends AtDefault env w where
  channels : w.channels = combinedNew
  restore : w.combinedInit = env.combinedInit
  calls : ∀ call ∈ [Call.chanMaxGet, .chanCurGet, .chanCurSet], env.rc call = none
  initial : 1 ≤ env.combinedInit
  changeable : ¬(env.combinedMax < 3 ∨ env.twoPower = true ∧ env.combinedMax < 4)
  chosen : chooseCombined env maxAttempts 0 = some combinedNew

theorem changeCombined_wp (here : AtDefault env t) (channels : t.channels = env.combinedInit) :
    (changeCombined env).wp (fun combinedNew => Changed env combinedNew) (fun _ => Settled env) t := by
  unfold changeCombined
  refine wp_check_bind _ (fun maxGet => ?_) (fun rc failed => here.settled (not_firstCommit (by decide) failed))
  refine wp_check_bind _ (fun curGet => ?_) (fun rc failed => here.settled (not_firstCommit (by decide) failed))
  rw [wp_bind, wp_update, wp_bind, wp_gets, wp_bind]
  have there : AtDefault env { t with combinedInit := t.channels } := ⟨here.table, here.requests, fun _ => channels⟩
  have initial : decide (t.channels < 1) = false → 1 ≤ env.combinedInit := by
    intro some
    have positive := of_decide_eq_false some
    omega
  refine wp_when (fun zero => there.settled (fun n committed => ?_)) (fun some => ?_)
  · have below : t.channels < 1 := of_decide_eq_true zero
    exact absurd committed.initial (by omega)
  rw [wp_bind]
  refine wp_when (fun few => there.settled (fun n committed => committed.changeable (of_decide_eq_true few)))
    (fun enough => ?_)
  cases chosen : chooseCombined env maxAttempts 0 with
  | none =>
    refine there.settled (fun n committed => ?_)
    rw [committed.chosen] at chosen
    cases chosen
  | some combinedNew =>
    have requests : ∀ request ∈ t.requests ++ [⟨combinedNew, t.table⟩], request.table = .default := by
      intro request member
      rcases List.mem_append.mp member with old | new
      · exact here.requests request old
      · rw [List.mem_singleton.mp new]
        exact here.table
    simp only [wp, bind, chanCurSet]
    cases curSet : env.rc .chanCurSet with
    | some rc => exact AtDefault.settled ⟨here.table, requests, fun _ => channels⟩ (not_firstCommit (by decide) curSet)
    | none =>
      exact ⟨⟨here.table, requests, fun _ => channels⟩, rfl, channels, by simp [maxGet, curGet, curSet], initial some,
        of_decide_eq_false enough, chosen⟩

/-- `u` differs from `t` at most in what the test notes down. -/
structure Kept (t u : World) : Prop where
  channels : u.channels = t.channels
  table : u.table = t.table
  requests : u.requests = t.requests
  combinedInit : u.combinedInit = t.combinedInit

theorem Changed.kept {n : Nat} {u : World} (here : Changed env n t) (kept : Kept t u) : Changed env n u where
  table := kept.table.trans here.table
  requests := by rw [kept.requests]; exact here.requests
  combinedInit := by rw [kept.combinedInit]; exact here.combinedInit
  channels := kept.channels.trans here.channels
  restore := kept.combinedInit.trans here.restore
  calls := here.calls
  initial := here.initial
  changeable := here.changeable
  chosen := here.chosen

/-- The entries read so far are those of the default table. -/
structure ReadUpTo (env : Env) (combinedNew i : Nat) (w : World) : Prop extends Changed env combinedNew w where
  entries : ∀ k < i, w.indirTable k = env.defaultEntry combinedNew k
  answers : ∀ k < i, env.rc (.indirGet k) = none

theorem checkEntry_wp {failed : Jump → World → Prop} (rxQueue expQueue : Int) :
    (checkEntry rxQueue expQueue).wp (fun _ u => Kept t u ∧ u.indirTable = t.indirTable) failed t := by
  unfold checkEntry
  rw [wp_bind, wp_gets]
  exact wp_when (fun _ => ⟨⟨rfl, rfl, rfl, rfl⟩, rfl⟩) (fun _ => ⟨⟨rfl, rfl, rfl, rfl⟩, rfl⟩)

theorem readEntry_wp {n i : Nat} (below : i < env.indirTableSize) (here : ReadUpTo env n i t) :
    (readEntry env n i).wp (fun _ => ReadUpTo env n (i + 1)) (fun _ => Settled env) t := by
  unfold readEntry indirGet
  rw [bind_assoc]
  refine wp_check_bind _ (fun answer => ?_) (fun rc failed => here.settled (fun n committed => ?_))
  · rw [wp_bind, wp_gets, here.table, here.channels, wp_bind]
    apply wp_weaken (checkEntry_wp _ _)
    rintro - u ⟨kept, entries⟩
    refine ⟨here.toChanged.kept ⟨kept.channels, kept.table, kept.requests, kept.combinedInit⟩, ?_,
      Nat.forall_lt_succ_right.mpr ⟨here.answers, answer⟩⟩
    refine Nat.forall_lt_succ_right.mpr ⟨fun k early => ?_, Function.update_self _ _ _⟩
    apply (Function.update_of_ne (Nat.ne_of_lt early) _ _).trans
    rw [entries]
    exact here.entries k early
  · rw [committed.read i below] at failed
    cases failed

/-- What is known once the new table was read. -/
structure TableRead (env : Env) (combinedNew : Nat) (w : World) : Prop
    extends ReadUpTo env combinedNew env.indirTableSize w where
  logged : ∀ call ∈ [Call.cfgSynchronize, .printIndirTable .second, .tapiCalloc], env.rc call = none

theorem readTable_wp {n : Nat} (here : Changed env n t) :
    (readTable env n).wp (fun _ => TableRead env n) (fun _ => Settled env) t := by
  unfold readTable
  refine wp_check_bind _ (fun synchronized => ?_) (fun rc failed => here.settled (not_firstCommit (by decide) failed))
  refine wp_check_bind _ (fun printed => ?_) (fun rc failed => here.settled (not_firstCommit (by decide) failed))
  refine wp_check_bind _ (fun allocated => ?_) (fun rc failed => here.settled (not_firstCommit (by decide) failed))
  refine wp_weaken (wp_forRange (ReadUpTo env n) env.indirTableSize (fun i below u upTo => readEntry_wp below upTo)
    ⟨here, fun k below => absurd below (Nat.not_lt_zero k), fun k below => absurd below (Nat.not_lt_zero k)⟩) ?_
  exact fun _ u upTo => ⟨upTo, by simp [synchronized, printed, allocated]⟩

theorem portsAreFree_wp (round : Round) (i j : Nat) :
    (portsAreFree env round i j).wp
      (fun found u => u = t ∧ ¬PortFails env round i j ∧ (found = true ↔ BothFree env round i j))
      (fun _ u => u = t ∧ PortFails env round i j) t := by
  unfold portsAreFree
  rw [wp_bind, wp_checkRc]
  cases iut : env.portIsFree round i j .iut with
  | error rc => exact ⟨rfl, .inl ⟨rc, iut⟩⟩
  | ok free =>
    cases free with
    | false =>
      refine ⟨rfl, by simp [PortFails, iut], by simp, fun both => ?_⟩
      have other := both .iut
      simp [iut] at other
    | true =>
      dsimp only
      rw [if_pos rfl, wp_checkRc]
      cases tst : env.portIsFree round i j .tst with
      | error rc => exact ⟨rfl, .inr ⟨iut, rc, tst⟩⟩
      | ok free =>
        refine ⟨rfl, by simp [PortFails, iut, tst], fun hit side => ?_, fun both => ?_⟩
        · cases side with
          | iut => exact iut
          | tst => rw [tst, hit]
        · exact Except.ok.inj (tst.symm.trans (both .tst))

theorem BothFree.not_fails {round : Round} {i j : Nat} (both : BothFree env round i j) : ¬PortFails env round i j := by
  simp [PortFails, both .iut, both .tst]

theorem searchPorts_wp (round : Round) (i : Nat) :
    (findFirst (List.range maxAttempts) (portsAreFree env round i)).wp
      (fun found u => u = t ∧ (found = true ↔
        ∃ j < maxAttempts, BothFree env round i j ∧ ∀ k < j, ¬PortFails env round i k))
      (fun _ u => u = t ∧ ¬ConnPasses env round i) t := by
  have searched : (findFirst (List.range maxAttempts) (portsAreFree env round i)).wp
      (fun found u => if found then
          ∃ j ∈ List.range maxAttempts, u = t ∧ BothFree env round i j ∧ ∀ k < j, ¬PortFails env round i k
        else u = t ∧ ∀ k < (List.range maxAttempts).length, ¬PortFails env round i k ∧ ¬BothFree env round i k)
      (fun _ u => u = t ∧ ¬ConnPasses env round i) t := by
    refine wp_search (fun before u => u = t ∧ ∀ k < before.length, ¬PortFails env round i k ∧ ¬BothFree env round i k)
      _ _ ?_ ⟨rfl, fun k below => absurd below (Nat.not_lt_zero k)⟩
    rintro before j after u whole ⟨rfl, quiet⟩
    obtain ⟨rfl, -⟩ := range_split whole
    apply wp_mono (portsAreFree_wp round i before.length)
    · rintro (_ | _) v ⟨rfl, answered, tested⟩
      · refine ⟨rfl, ?_⟩
        rw [List.length_append, List.length_singleton]
        exact Nat.forall_lt_succ_right.mpr ⟨quiet, answered, fun both => Bool.false_ne_true (tested.mpr both)⟩
      · exact ⟨rfl, tested.mp rfl, fun k below => (quiet k below).1⟩
    · rintro - v ⟨rfl, fails⟩
      refine ⟨rfl, fun passes => ?_⟩
      obtain ⟨j, -, both, answered⟩ := passes.1
      rcases Nat.lt_trichotomy j before.length with earlier | rfl | later
      · exact (quiet j earlier).2 both
      · exact both.not_fails fails
      · exact answered before.length later fails
  apply wp_weaken searched
  rintro (_ | _) u result
  · obtain ⟨rfl, quiet⟩ := result
    rw [List.length_range] at quiet
    refine ⟨rfl, fun hit => Bool.noConfusion hit, ?_⟩
    rintro ⟨j, below, both, -⟩
    exact absurd both (quiet j below).2
  · obtain ⟨j, member, rfl, both, answered⟩ := result
    exact ⟨rfl, fun _ => ⟨j, List.mem_range.mp member, both, answered⟩, fun _ => rfl⟩

theorem checkConnection_wp (round : Round) (i : Nat) :
    (checkConnection env round i).wp (fun _ u => u = t ∧ ConnPasses env round i)
      (fun _ u => u = t ∧ ¬ConnPasses env round i) t := by
  unfold checkConnection
  have refused : ∀ {call rc}, env.rc (.conn round i call) = some rc → ¬ConnPasses env round i := by
    intro call rc failed passes
    rw [passes.2 call] at failed
    cases failed
  apply wp_seq (searchPorts_wp round i) _ (fun _ _ failed => failed)
  rintro found u ⟨rfl, free⟩
  rw [wp_bind]
  refine wp_when (fun missed => ⟨rfl, fun passes => ?_⟩) (fun hit => ?_)
  · rw [free.mpr passes.1] at missed
    cases missed
  · refine wp_check_bind _ (fun connected => ?_) (fun rc failed => ⟨rfl, refused failed⟩)
    refine wp_check_bind _ (fun predicted => ?_) (fun rc failed => ⟨rfl, refused failed⟩)
    refine wp_check_bind _ (fun sent => ?_) (fun rc failed => ⟨rfl, refused failed⟩)
    refine wp_check_bind _ (fun closedIut => ?_) (fun rc failed => ⟨rfl, refused failed⟩)
    refine wp_check _ (fun closedTst => ⟨rfl, free.mp (by simpa using hit), ?_⟩)
      (fun rc failed => ⟨rfl, refused failed⟩)
    rintro (_ | _ | _ | _ | _) <;> assumption

theorem checkIndirTable_wp (round : Round) :
    (checkIndirTable env round).wp (fun _ u => u = t ∧ Passes env round) (fun _ u => u = t ∧ ¬Passes env round) t := by
  unfold checkIndirTable
  refine wp_weaken (wp_forRange (fun i u => u = t ∧ ∀ k < i, ConnPasses env round k) checkConnsNum ?_
    ⟨rfl, fun k below => absurd below (Nat.not_lt_zero k)⟩) (fun _ u passed => passed)
  rintro i below u ⟨rfl, before⟩
  apply wp_mono (checkConnection_wp round i)
  · rintro - u ⟨rfl, passes⟩
    exact ⟨rfl, Nat.forall_lt_succ_right.mpr ⟨before, passes⟩⟩
  · rintro - u ⟨rfl, refused⟩
    exact ⟨rfl, fun passes => refused (passes i below)⟩

/-- The queue that `change_indir_table()` chooses for an entry. -/
def chosenRxq (env : Env) (round : Round) (minRxq maxRxq : Nat) (w : World) (i : Nat) : Int :=
  newRxq minRxq maxRxq (w.indirTable i) (env.randRxq round i) maxAttempts 0 0

structure WrittenUpTo (env : Env) (round : Round) (minRxq maxRxq : Nat) (t : World) (i : Nat) (u : World) : Prop
    extends Kept t u where
  indirTable : u.indirTable = t.indirTable
  entries : ∀ k < i, u.localEntries k = chosenRxq env round minRxq maxRxq t k
  answers : ∀ k < i, env.rc (.indirSetLocal round k) = none

theorem changeEntry_wp {round : Round} {minRxq maxRxq i : Nat} {u : World}
    (here : WrittenUpTo env round minRxq maxRxq t i u) :
    (changeEntry env round minRxq maxRxq i).wp (fun _ => WrittenUpTo env round minRxq maxRxq t (i + 1))
      (fun _ v => Kept t v ∧ ∃ rc, env.rc (.indirSetLocal round i) = some rc) u := by
  unfold changeEntry
  rw [wp_bind, wp_gets]
  refine wp_check_bind _ (fun answer => ?_) (fun rc failed => ⟨here.toKept, rc, failed⟩)
  refine ⟨⟨here.channels, here.table, here.requests, here.combinedInit⟩, here.indirTable, ?_,
    Nat.forall_lt_succ_right.mpr ⟨here.answers, answer⟩⟩
  refine Nat.forall_lt_succ_right.mpr ⟨fun k early => ?_, ?_⟩
  · exact (Function.update_of_ne (Nat.ne_of_lt early) _ _).trans (here.entries k early)
  · rw [here.indirTable]
    exact Function.update_self _ _ _

/-- The table that `change_indir_table()` commits. -/
def chosenTable (env : Env) (round : Round) (minRxq maxRxq : Nat) (w : World) : Table :=
  .explicit ((List.range env.indirTableSize).map (chosenRxq env round minRxq maxRxq w))

theorem changeIndirTable_wp (round : Round) (minRxq maxRxq : Nat) :
    (changeIndirTable env round minRxq maxRxq).wp
      (fun rc u => rc = env.rc (.indirCommit round) ∧ (∀ i < env.indirTableSize, env.rc (.indirSetLocal round i) = none) ∧
        match rc with
        | some _ => Kept t u
        | none => Kept { t with table := chosenTable env round minRxq maxRxq t } u)
      (fun _ u => Kept t u ∧ ∃ i < env.indirTableSize, ∃ rc, env.rc (.indirSetLocal round i) = some rc) t := by
  have written : (forEach (List.range env.indirTableSize) (changeEntry env round minRxq maxRxq)).wp
      (fun _ => WrittenUpTo env round minRxq maxRxq t env.indirTableSize)
      (fun _ u => Kept t u ∧ ∃ i < env.indirTableSize, ∃ rc, env.rc (.indirSetLocal round i) = some rc) t := by
    refine wp_forRange _ _ (fun i below u here => ?_) ⟨⟨rfl, rfl, rfl, rfl⟩, rfl, ?_, ?_⟩
    · apply wp_mono (changeEntry_wp here) (fun _ _ next => next)
      rintro - v ⟨kept, rc, failed⟩
      exact ⟨kept, i, below, rc, failed⟩
    · exact fun k below => absurd below (Nat.not_lt_zero k)
    · exact fun k below => absurd below (Nat.not_lt_zero k)
  refine wp_seq written ?_ (fun _ _ failed => failed)
  intro _ u here
  unfold hashIndirCommit
  cases committed : env.rc (.indirCommit round) with
  | some rc => exact ⟨rfl, here.answers, here.toKept⟩
  | none =>
    refine ⟨rfl, here.answers, here.channels, ?_, here.requests, here.combinedInit⟩
    have entries : (List.range env.indirTableSize).map u.localEntries =
        (List.range env.indirTableSize).map (chosenRxq env round minRxq maxRxq t) :=
      List.map_congr_left (fun k member => here.entries k (List.mem_range.mp member))
    exact congrArg Table.explicit entries

theorem newRxq_le {minRxq maxRxq : Nat} (range : minRxq ≤ maxRxq) (init : Int) (rand : Nat → Nat)
    (left j : Nat) {current : Nat} (below : current ≤ maxRxq) :
    newRxq minRxq maxRxq init rand left j current ≤ maxRxq := by
  induction left generalizing j current with
  | zero => exact below
  | succ left ih =>
    have drawn := randRange_le range (rand j)
    simp only [newRxq]
    split
    · exact drawn
    · split
      · exact drawn
      · exact ih (j + 1) drawn

theorem chosenTable_safe {round : Round} {w : World} {combined : Int} (positive : 1 ≤ combined) :
    (chosenTable env round 0 (combined - 1).toNat w).Safe combined := by
  intro rxQueue member
  obtain ⟨i, -, rfl⟩ := List.mem_map.mp member
  have bound : (chosenRxq env round 0 (combined - 1).toNat w i) ≤ ((combined - 1).toNat : Int) :=
    Int.ofNat_le.mpr (newRxq_le (Nat.zero_le _) _ _ _ _ (Nat.zero_le _))
  omega

theorem changeAgain_wp {n : Nat} (here : Changed env n t) (never : ∀ n, ¬FirstCommit env n) :
    (changeAgain env n).wp (fun _ => Settled env) (fun _ => Settled env) t := by
  unfold changeAgain
  rw [wp_bind, printVerdict, wp_update, wp_bind, wp_update, wp_bind, wp_gets]
  have noted : ∀ verdicts, Changed env n { t with verdicts := verdicts, testFailed := true } :=
    fun _ => here.kept ⟨rfl, rfl, rfl, rfl⟩
  specialize noted (t.verdicts ++ ["Cannot change indirection table after changing number of combined channels"])
  revert noted
  generalize ({ t with verdicts := _, testFailed := true } : World) = u
  intro noted
  rw [noted.restore]
  split
  · refine wp_seq (changeIndirTable_wp .second 0 _) ?_ (fun _ v failed => (noted.kept failed.1).settled never)
    rintro (_ | rc) v ⟨-, -, changed⟩
    · refine ⟨?_, .inl ⟨never, fun _ => ⟨changed.combinedInit.trans noted.restore, ?_⟩⟩⟩
      · intro request member
        exact safe_default (noted.requests request (changed.requests ▸ member))
      · change Table.Safe env.combinedInit v.table
        rw [changed.table]
        exact chosenTable_safe noted.initial
    · exact (noted.kept changed).settled never
  · exact noted.settled never

theorem checkAgain_wp {u : World} (settled : Settled env u) :
    (do
      checkIndirTable env .second
      let testFailed ← gets World.testFailed
      when testFailed (fail .stop) : Test Unit).wp (fun _ => Settled env) (fun _ => Settled env) u := by
  apply wp_seq (checkIndirTable_wp .second)
  · rintro - v ⟨rfl, -⟩
    rw [wp_bind, wp_gets]
    exact wp_when (fun _ => settled) (fun _ => settled)
  · rintro - v ⟨rfl, -⟩
    exact settled

theorem chosenTable_first {n : Nat} (read : TableRead env n t) :
    chosenTable env .first 0 (n - 1) t = firstTable env n := by
  refine congrArg Table.explicit (List.map_congr_left (fun i member => ?_))
  unfold chosenRxq firstEntry
  rw [read.entries i (List.mem_range.mp member)]

theorem checkChannels_wp {n : Nat} (here : Changed env n t) (reset : ∀ call ∈ resetCalls, env.rc call = none)
    (keepAddr : env.inet6 = true → env.rc .keepAddrOnDown = none) :
    (checkChannels env n).wp (fun _ => Settled env) (fun _ => Settled env) t := by
  unfold checkChannels
  refine wp_seq (readTable_wp here) ?_ (fun _ _ settled => settled)
  intro _ u read
  apply wp_seq (checkIndirTable_wp .first)
  · rintro - v ⟨rfl, checked⟩
    apply wp_seq (changeIndirTable_wp .first 0 (n - 1))
    · rintro (_ | rc) v ⟨commit, written, changed⟩
      · refine checkAgain_wp ⟨?_, .inr ⟨n, ?_, changed.combinedInit.trans read.restore,
          changed.table.trans (chosenTable_first read)⟩⟩
        · intro request member
          exact safe_default (read.requests request (changed.requests ▸ member))
        · refine ⟨?_, keepAddr, read.initial, read.changeable, read.chosen, read.answers, checked, written⟩
          intro call member
          have before := reset call
          have channels := read.calls call
          have logged := read.logged call
          simp only [setupCalls, resetCalls, List.mem_cons, List.not_mem_nil, or_false] at member before channels logged
          grind
      · have never : ∀ n, ¬FirstCommit env n := not_firstCommit (by decide) commit.symm
        exact wp_seq (changeAgain_wp (read.kept changed) never) (fun _ _ settled => checkAgain_wp settled)
          (fun _ _ settled => settled)
    · rintro - v ⟨kept, i, below, rc, failed⟩
      refine (read.kept kept).settled (fun n committed => ?_)
      rw [committed.written i below] at failed
      cases failed
  · rintro - v ⟨rfl, refused⟩
    exact read.settled (fun n committed => refused committed.checked)

theorem body_wp (env : Env) (table : Table) :
    (body env).wp (fun _ => Settled env) (fun _ => Settled env) (World.start env table) := by
  unfold body
  apply wp_seq resetTable_wp
  · rintro - u ⟨rfl, reset, keepAddr⟩
    have here : AtDefault env { World.start env table with table := .default } :=
      ⟨rfl, by simp [World.start], by simp [World.start]⟩
    refine wp_seq (changeCombined_wp here rfl) ?_ (fun _ _ settled => settled)
    exact fun n v changed => checkChannels_wp changed reset keepAddr
  · rintro - u ⟨combinedInit, requests, never⟩
    exact ⟨by simp [requests, World.start], .inl ⟨never, by simp [combinedInit, World.start]⟩⟩

theorem main_requests (env : Env) (table : Table) {w : World} (jump : (body env (World.start env table)).2 = w) :
    (main env table).requests = w.requests ++ if 0 < w.combinedInit then [⟨w.combinedInit, w.table⟩] else [] := by
  have whole : main env table =
      ((when (decide (0 < w.combinedInit)) (ignore (chanCurSet env .cleanupChanCurSet w.combinedInit)) : Test Unit)
        w).2 := by
    rw [← jump]
    rfl
  rw [whole]
  by_cases positive : 0 < w.combinedInit
  · rw [if_pos positive, decide_eq_true positive]
    change (chanCurSet env .cleanupChanCurSet w.combinedInit w).2.requests = _
    unfold chanCurSet
    split <;> rfl
  · rw [if_neg positive, decide_eq_false positive, List.append_nil]
    rfl

theorem settled_main (env : Env) (table : Table) : ∃ w, Settled env w ∧
    (main env table).requests = w.requests ++ if 0 < w.combinedInit then [⟨w.combinedInit, w.table⟩] else [] :=
  ⟨_, wp_final _ (body_wp env table) (fun _ _ settled => settled) (fun _ _ settled => settled),
    main_requests env table rfl⟩

theorem FirstCommit.unique {n other : Nat} (committed : FirstCommit env n) (again : FirstCommit env other) : n = other :=
  Option.some.inj (committed.chosen.symm.trans again.chosen)

theorem restore_request {n : Nat} (committed : FirstCommit env n) (table : Table) :
    ⟨env.combinedInit, firstTable env n⟩ ∈ (main env table).requests := by
  obtain ⟨w, settled, requests⟩ := settled_main env table
  rcases settled.outcome with ⟨never, -⟩ | ⟨other, again, restore, left⟩
  · exact absurd committed (never n)
  · obtain rfl := committed.unique again
    have positive : 0 < w.combinedInit := by
      have initial := committed.initial
      omega
    rw [requests, if_pos positive, restore, left]
    exact List.mem_append_right _ (List.mem_singleton.mpr rfl)

theorem requests_safe (table : Table)
    (allowed : ∀ n, FirstCommit env n → (firstTable env n).Safe env.combinedInit) :
    ∀ request ∈ (main env table).requests, request.Safe := by
  obtain ⟨w, settled, requests⟩ := settled_main env table
  intro request member
  rw [requests] at member
  rcases List.mem_append.mp member with old | new
  · exact settled.requests request old
  · split at new
    next positive =>
      rw [List.mem_singleton.mp new]
      rcases settled.outcome with ⟨-, restore⟩ | ⟨n, committed, restore, left⟩
      · obtain ⟨init, safe⟩ := restore positive
        rwa [Request.Safe, init]
      · rw [Request.Safe, restore, left]
        exact allowed n committed
    next => cases new

/-- The number of channels is never set over an explicitly configured table with a queue that it does not have,
exactly if the first commit of the test is not made or writes only queues that the initial number has. -/
theorem channels_never_below_table (env : Env) (table : Table) :
    (∀ request ∈ (main env table).requests, request.Safe) ↔ ¬Endangered env := by
  constructor
  · rintro safe ⟨n, committed, i, below, high⟩
    have last := safe _ (restore_request committed table)
    have low := last (firstEntry env n i) (List.mem_map_of_mem (List.mem_range.mpr below))
    exact absurd low (by simpa using high)
  · intro harmless
    refine requests_safe table (fun n committed rxQueue member => ?_)
    obtain ⟨i, below, rfl⟩ := List.mem_map.mp member
    by_contra high
    exact harmless ⟨n, committed, i, List.mem_range.mp below, by omega⟩

/-- Two channels become three, and the new queue is written to both entries. -/
def twoToThree : Env where
  rc := fun _ => none
  combinedInit := 2
  combinedMax := 4
  indirTableSize := 2
  defaultEntry := fun channels i => i % channels
  inet6 := false
  twoPower := false
  randCombined := fun _ => 1
  randRxq := fun _ _ _ => 2
  portIsFree := fun _ _ _ _ => .ok true

theorem channels_below_table_two_to_three :
    ⟨2, .explicit [2, 2]⟩ ∈ (main twoToThree .default).requests ∧ ¬Request.Safe ⟨2, .explicit [2, 2]⟩ := by
  have committed : FirstCommit twoToThree 3 :=
    ⟨fun _ _ => rfl, fun _ => rfl, by decide, by decide, by decide +kernel, fun _ _ => rfl,
      fun i _ => ⟨⟨0, by decide +kernel, fun _ => rfl, by simp⟩, fun _ => rfl⟩, fun _ _ => rfl⟩
  have written : firstTable twoToThree 3 = .explicit [2, 2] := by decide +kernel
  refine ⟨?_, fun safe => absurd (safe 2 (by decide)) (by decide)⟩
  rw [← written]
  exact restore_request committed .default

end
end NetDrv.Rss.ChangeChannels
