import NetDrv.Rss.Toeplitz

/-! `rss/change_channels`: the test resets the RSS indirection table, changes the
number of combined channels, checks the table, writes Rx queues of its own to it and
checks it again. Its cleanup, reached from every step, brings the number of channels
back. -/

namespace NetDrv.Rss.ChangeChannels
open Script

/-- The two calls of `check_indir_table()`, and those of `change_indir_table()`. -/
inductive Round where
  | first
  | second
  deriving DecidableEq, Repr

/-- Calls that `check_indir_table()` makes for a connection. -/
inductive ConnCall where
  | genConnection
  | rssPredict
  | sendCheckStats
  | close (side : Side)
  deriving DecidableEq, Repr

/-- A call the test checks the result of, by the place it is made from. -/
inductive Call where
  | rssCtxPrepare
  | rxqStatsGetId
  | printIndirTable (round : Round)
  | indirDefaultSet
  | keepAddrOnDown
  | chanMaxGet
  | chanCurGet
  | chanCurSet
  | cfgSynchronize
  | tapiCalloc
  | indirGet (i : Nat)
  | conn (round : Round) (i : Nat) (call : ConnCall)
  | indirSetLocal (round : Round) (i : Nat)
  | indirCommit (round : Round)
  | cleanupChanCurSet
  deriving DecidableEq, Repr

/-- What the test gets from the interface, from chance and from its parameters. -/
structure Env where
  /-- The failure of a call, if it fails. -/
  rc : Call → Option TeErrno
  /-- Number of combined channels before the test. -/
  combinedInit : Int
  combinedMax : Int
  indirTableSize : Nat
  /-- How the kernel fills the default table for a number of channels. -/
  defaultEntry : Int → Nat → Int
  inet6 : Bool
  twoPower : Bool
  /-- The numbers behind the choice of the number of channels. -/
  randCombined : Nat → Nat
  /-- The numbers behind the choice of a queue for an entry. -/
  randRxq : Round → Nat → Nat → Nat
  /-- What `rpc_check_port_is_free()` answers for a connection, in an attempt. -/
  portIsFree : Round → Nat → Nat → Side → Except TeErrno Bool

inductive Table where
  | default
  | explicit (rxQueues : List Int)
  deriving DecidableEq, Repr

/-- `tapi_cfg_if_chan_cur_set()` and the committed table at that time. -/
structure Request where
  combined : Int
  table : Table
  deriving DecidableEq, Repr

structure World where
  channels : Int
  table : Table
  /-- Entries set with `tapi_cfg_if_rss_indir_set_local()`. -/
  localEntries : Nat → Int
  requests : List Request
  combinedInit : Int
  indirTable : Nat → Int
  unexpTableVerdict : Bool
  testFailed : Bool
  /-- What `RING_VERDICT()` and `ERROR_VERDICT()` said. -/
  verdicts : List String

def World.start (env : Env) (table : Table) : World where
  channels := env.combinedInit
  table := table
  localEntries := fun _ => 0
  requests := []
  combinedInit := -1
  indirTable := fun _ => 0
  unexpTableVerdict := false
  testFailed := false
  verdicts := []

@[irreducible] def maxAttempts : Nat := 10000
def checkConnsNum : Nat := 25

abbrev Test := Script Jump World

def printVerdict (text : String) : Test Unit := update (fun w => { w with verdicts := w.verdicts ++ [text] })

/-- The loop that halves the number as long as it is even. -/
def oddPart (j : Nat) : Nat :=
  if 1 < j ∧ j % 2 = 0 then oddPart (j / 2) else j
  termination_by j

section
variable (env : Env)

/-- Whether a number of channels is not skipped with `continue`. -/
def accepts (combinedNew : Nat) : Bool :=
  let j := oddPart combinedNew
  decide ((combinedNew : Int) ≠ env.combinedInit ∧ ¬(1 < j ∧ env.twoPower = true ∨ j = 1 ∧ env.twoPower = false))

/-- The choice of the new number of channels, from attempt `i` on. -/
def chooseCombined : Nat → Nat → Option Nat
  | 0, _ => none
  | left + 1, i =>
    let combinedNew := randRange 2 env.combinedMax.toNat (env.randCombined i)
    if accepts env combinedNew then some combinedNew else chooseCombined left (i + 1)

/-- The choice of an Rx queue other than `init`, from attempt `j` on; the last one chosen is kept. -/
def newRxq (minRxq maxRxq : Nat) (init : Int) (rand : Nat → Nat) : Nat → Nat → Nat → Nat
  | 0, _, current => current
  | left + 1, j, _ =>
    let rxq := randRange minRxq maxRxq (rand j)
    if (rxq : Int) ≠ init then rxq
    else if minRxq = maxRxq then rxq
    else newRxq minRxq maxRxq init rand left (j + 1) rxq

/-- `CHECK_RC()`. -/
def check (call : Call) : Test Unit :=
  match env.rc call with
  | none => pure ()
  | some rc => fail (.checkRc rc)

/-- `tapi_cfg_if_chan_cur_set()` for combined channels. -/
def chanCurSet (call : Call) (combined : Int) : Test (Option TeErrno) := fun w =>
  match env.rc call with
  | some rc => (.ok (some rc), { w with requests := w.requests ++ [⟨combined, w.table⟩] })
  | none => (.ok none, { w with requests := w.requests ++ [⟨combined, w.table⟩], channels := combined })

/-- `tapi_cfg_if_rss_indir_get()` under `CHECK_RC()`. -/
def indirGet (i : Nat) : Test Int := do
  check env (.indirGet i)
  gets (fun w =>
    match w.table with
    | .default => env.defaultEntry w.channels i
    | .explicit rxQueues => rxQueues.getD i 0)

def hashIndirCommit (round : Round) : Test (Option TeErrno) :=
  match env.rc (.indirCommit round) with
  | some rc => pure (some rc)
  | none => do
    update (fun w => { w with table := .explicit ((List.range env.indirTableSize).map w.localEntries) })
    pure none

/-- Whether the ports chosen in attempt `j` are free on both sides. -/
def portsAreFree (round : Round) (i j : Nat) : Test Bool := do
  if ← checkRc (env.portIsFree round i j .iut) then checkRc (env.portIsFree round i j .tst)
  else pure false

/-- One connection of `check_indir_table()`. -/
def checkConnection (round : Round) (i : Nat) : Test Unit := do
  let found ← findFirst (List.range maxAttempts) (portsAreFree env round i)
  when (!found) (fail (.fail "Cannot get a pair of free ports"))
  check env (.conn round i .genConnection)
  check env (.conn round i .rssPredict)
  check env (.conn round i .sendCheckStats)
  check env (.conn round i (.close .iut))
  check env (.conn round i (.close .tst))

def checkIndirTable (round : Round) : Test Unit :=
  forEach (List.range checkConnsNum) (checkConnection env round)

/-- One entry of `change_indir_table()`. -/
def changeEntry (round : Round) (minRxq maxRxq i : Nat) : Test Unit := do
  let indirTable ← gets World.indirTable
  let rxq := newRxq minRxq maxRxq (indirTable i) (env.randRxq round i) maxAttempts 0 0
  check env (.indirSetLocal round i)
  update (fun w => { w with localEntries := Function.update w.localEntries i rxq })

def changeIndirTable (round : Round) (minRxq maxRxq : Nat) : Test (Option TeErrno) := do
  forEach (List.range env.indirTableSize) (changeEntry env round minRxq maxRxq)
  hashIndirCommit env round

def resetTable : Test Unit := do
  if (env.rc .rssCtxPrepare).isSome then fail .stop
  check env .rxqStatsGetId
  check env (.printIndirTable .first)
  check env .indirDefaultSet
  update (fun w => { w with table := .default })
  when env.inet6 (check env .keepAddrOnDown)

def changeCombined : Test Nat := do
  check env .chanMaxGet
  check env .chanCurGet
  update (fun w => { w with combinedInit := w.channels })
  let combinedInit ← gets World.combinedInit
  when (decide (combinedInit < 1)) (fail (.skip "Initial number of combined channels is zero"))
  when (decide (env.combinedMax < 3 ∨ env.twoPower = true ∧ env.combinedMax < 4))
    (fail (.skip "Cannot change number of combined channels"))
  match chooseCombined env maxAttempts 0 with
  | none => fail (.fail "Cannot choose a different number of combined channels")
  | some combinedNew => do
    match ← chanCurSet env .chanCurSet combinedNew with
    | some rc => fail (.checkRc rc)
    | none => pure combinedNew

def checkEntry (rxQueue expQueue : Int) : Test Unit := do
  let unexpTableVerdict ← gets World.unexpTableVerdict
  when (decide (rxQueue ≠ expQueue ∧ unexpTableVerdict = false)) (do
    printVerdict "RSS indirection table is not filled in an expected way after changing number of combined channels"
    update (fun w => { w with unexpTableVerdict := true }))

/-- One entry of the table after the change of the number of channels. -/
def readEntry (combinedNew i : Nat) : Test Unit := do
  let rxQueue ← indirGet env i
  checkEntry rxQueue (i % combinedNew)
  update (fun w => { w with indirTable := Function.update w.indirTable i rxQueue })

def readTable (combinedNew : Nat) : Test Unit := do
  check env .cfgSynchronize
  check env (.printIndirTable .second)
  check env .tapiCalloc
  forEach (List.range env.indirTableSize) (readEntry env combinedNew)

/-- What is tried after the first change of the table has failed. -/
def changeAgain (combinedNew : Nat) : Test Unit := do
  printVerdict "Cannot change indirection table after changing number of combined channels"
  update (fun w => { w with testFailed := true })
  let combinedInit ← gets World.combinedInit
  if combinedInit < combinedNew then
    match ← changeIndirTable env .second 0 (combinedInit - 1).toNat with
    | some _ => fail (.verdict ("Indirection table cannot be changed even when only RX queues allowed by the " ++
        "initial number of combined channels are used"))
    | none => printVerdict ("Indirection table can be changed if only Rx queues allowed by the initial number of " ++
        "combined channels are used")
  else fail .stop

/-- The steps after the number of channels was changed. -/
def checkChannels (combinedNew : Nat) : Test Unit := do
  readTable env combinedNew
  checkIndirTable env .first
  match ← changeIndirTable env .first 0 (combinedNew - 1) with
  | some _ => changeAgain env combinedNew
  | none => pure ()
  checkIndirTable env .second
  let testFailed ← gets World.testFailed
  when testFailed (fail .stop)

def body : Test Unit := do
  resetTable env
  let combinedNew ← changeCombined env
  checkChannels env combinedNew

/-- The steps after the label `cleanup`. -/
def cleanup : Test Unit := do
  let combinedInit ← gets World.combinedInit
  when (decide (0 < combinedInit)) (ignore (chanCurSet env .cleanupChanCurSet combinedInit))

/-- The whole test on an interface with the given table. -/
def main (table : Table) : World :=
  let done : Test Unit := do
    let _ ← attempt (body env)
    cleanup env
  (done (World.start env table)).2

end
end NetDrv.Rss.ChangeChannels
