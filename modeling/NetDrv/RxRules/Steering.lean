import NetDrv.Lib.Specific
import NetDrv.Rss.PortSearch

/-! Rx classification rules that direct packets of a connection to an Rx queue, and what the tests
of these rules do with them. The reference is a NIC in which the most specific rule that applies
decides, and RSS if there is none. -/

namespace NetDrv.Steering
open Script Specific Rss Rss.PortSearch

inductive Flow where
  | tcpV4
  | udpV4
  | tcpV6
  | udpV6
  deriving DecidableEq, Repr

structure Traffic where
  flow : Flow
  src : NetAddr
  dst : NetAddr
  deriving DecidableEq, Repr

inductive Location where
  | first
  | last
  | any
  | place (number : Int)
  deriving DecidableEq, Repr

structure Rule where
  location : Location
  flow : Flow
  src : Option NetAddr
  dst : Option NetAddr
  queue : UInt32
  deriving DecidableEq, Repr

def Rule.applies (rule : Rule) (traffic : Traffic) : Bool :=
  rule.flow == traffic.flow && rule.src.all (· == traffic.src) && rule.dst.all (· == traffic.dst)

def Rule.weight (rule : Rule) : Nat := rule.src.toList.length + rule.dst.toList.length

def steer (rss : NetAddr → NetAddr → UInt32) (rules : List Rule) (traffic : Traffic) : UInt32 :=
  match decisive Rule.applies Rule.weight rules traffic with
  | some rule => rule.queue
  | none => rss traffic.src traffic.dst

structure RxqStats where
  rxQueue : UInt32
  pkts : UInt64
  deriving DecidableEq, Repr

def OnlyQueue (queue : UInt32) (stats : List RxqStats) : Prop := ∀ row ∈ stats, row.pkts ≠ 0 → row.rxQueue = queue

instance (queue : UInt32) (stats : List RxqStats) : Decidable (OnlyQueue queue stats) :=
  inferInstanceAs (Decidable (∀ row ∈ stats, row.pkts ≠ 0 → row.rxQueue = queue))

structure Seen where
  rules : List Rule
  traffic : Traffic
  stats : List RxqStats

def Seen.Steered (rss : NetAddr → NetAddr → UInt32) (seen : Seen) : Prop :=
  OnlyQueue (steer rss seen.rules seen.traffic) seen.stats

structure World where
  moment : Nat
  rules : List Rule
  seen : List Seen
  /-- `ERROR_VERDICT()`s. -/
  verdicts : List String
  testFailed : Bool
  /-- The addresses of the second connection, once they are found. -/
  newAddrs : Option Addrs

def World.start : World := ⟨0, [], [], [], false, none⟩

/-- What the tests get from the agents, from chance and from the NIC. -/
structure Nic where
  rc : Nat → Except TeErrno Unit
  specLoc : Nat → Except TeErrno Bool
  findLocation : Nat → Except TeErrno Int
  /-- Sockets and their connections. -/
  sockets : Nat → Except Jump Unit
  raw : Nat → Nat
  /-- `net_drv_send_recv_ext_check()` of one packet. -/
  sendRecv : Nat → Except Jump Unit
  statsRead : Nat → List Rule → Traffic → Except TeErrno (List RxqStats)
  /-- An error as `%r` prints it. -/
  text : TeErrno → String

def ask {α : Type} (answer : Nat → α) : Script Jump World α := fun w =>
  (.ok (answer w.moment), { w with moment := w.moment + 1 })

/-- A call under `CHECK_RC()`. -/
def checked {α : Type} (answer : Nat → Except TeErrno α) : Script Jump World α := do
  checkRc (← ask answer)

def jumping {α : Type} (answer : Nat → Except Jump α) : Script Jump World α := do
  ofExcept (← ask answer)

section
variable (nic : Nic)

def rxRulesFindLoc : Script Jump World (Except TeErrno Location) := do
  match ← ask nic.specLoc with
  | .error rc => pure (.error rc)
  | .ok true => pure (.ok .any)
  | .ok false => pure ((← ask nic.findLocation).map .place)

def addRule (flowType : Flow) (src dst : Option NetAddr) (queue : UInt32) (ruleName : String) :
    Script Jump World Unit := do
  match ← rxRulesFindLoc nic with
  | .error rc =>
    let reason := nic.text rc
    if rc = teRc .cs .enoent then fail (.skip "Rx rules are not supported")
    else fail (.verdict s!"Failed to find location for a new rule: {reason}")
  | .ok location =>
    checked nic.rc
    checked nic.rc
    checked nic.rc
    match ← ask nic.rc with
    | .error rc =>
      let reason := nic.text rc
      fail (.verdict s!"Failed to add {ruleName} Rx rule: {reason}")
    | .ok () => update (fun w => { w with rules := w.rules ++ [⟨location, flowType, src, dst, queue⟩] })

/-- `send_check_common()`: the number of packets that were sent. -/
def sendCheckCommon : Script Jump World Nat := do
  checked nic.rc
  checked nic.rc
  let pktsNum := randRange 3 30 (← ask nic.raw)
  forEach (List.range pktsNum) (fun _ => jumping nic.sendRecv)
  pure pktsNum

def gotPkts (stats : List RxqStats) : UInt64 := (stats.map RxqStats.pkts).foldl (· + ·) 0

def rssSendGetStats (traffic : Traffic) (vpref : String) : Script Jump World (List RxqStats) := do
  let pktsNum ← sendCheckCommon nic
  let rules ← gets World.rules
  let stats ← checked (fun moment => nic.statsRead moment rules traffic)
  if gotPkts stats = 0 then fail (.verdict s!"{vpref}: no packets was detected for any Rx queue")
  else if (gotPkts stats).toNat < pktsNum then fail (.verdict s!"{vpref}: too few packets were detected")
  else pure stats

end

/-- What `check_free_stats()` has to say. -/
structure Complaint where
  verdicts : List String
  unknownQueue : Bool
  failed : Bool

def Complaint.add (complaint : Complaint) (message : String) : Complaint :=
  { complaint with verdicts := complaint.verdicts ++ [message], failed := true }

section
variable (queue1 queue2 defQueue expQueue : UInt32) (vpref : String)

/-- One turn of the loop in `check_free_stats()`. -/
def checkRow (complaint : Complaint) (row : RxqStats) : Complaint :=
  if row.pkts = 0 then complaint
  else if row.rxQueue ≠ expQueue then
    if row.rxQueue = queue1 then
      complaint.add s!"{vpref}: the queue assigned to the first rule received packets unexpectedly"
    else if row.rxQueue = queue2 then
      complaint.add s!"{vpref}: the queue assigned to the second rule received packets unexpectedly"
    else if row.rxQueue = defQueue then
      complaint.add s!"{vpref}: the queue defined by indirection table received packets unexpectedly"
    else if ¬complaint.unknownQueue then
      { complaint.add s!"{vpref}: another Rx queue received packets unexpectedly" with unknownQueue := true }
    else { complaint with failed := true }
  else complaint

def complain (stats : List RxqStats) : Complaint :=
  stats.foldl (checkRow queue1 queue2 defQueue expQueue vpref) ⟨[], false, false⟩

def checkFreeStats (traffic : Traffic) (stats : List RxqStats) : Script Jump World Unit :=
  update (fun w =>
    let complaint := complain queue1 queue2 defQueue expQueue vpref stats
    { w with
      seen := w.seen ++ [⟨w.rules, traffic, stats⟩]
      verdicts := w.verdicts ++ complaint.verdicts
      testFailed := w.testFailed || complaint.failed })

end

/-- The loop that picks the queues of the two rules. -/
def pickQueues (raw : Nat → Nat × Nat) (rxQueues : Nat) (defQueue : UInt32) : Option (UInt32 × UInt32) :=
  (List.range maxAttempts).findSome? (fun i =>
    let queue1 := UInt32.ofNat (randRange 0 (rxQueues - 1) (raw i).1)
    let queue2 := UInt32.ofNat (randRange 0 (rxQueues - 1) (raw i).2)
    if queue1 ≠ queue2 ∧ queue1 ≠ defQueue ∧ queue2 ≠ defQueue then some (queue1, queue2) else none)

/-- The parameters of `rx_rules_full_part` and what it gets at its start. -/
structure FullPart where
  flowType : Flow
  iutAddr : NetAddr
  tstAddr : NetAddr
  firstPartial : Bool
  partialSrc : Bool
  /-- `net_drv_rss_ctx_prepare()`: the number of Rx queues. -/
  ctxPrepare : Except Jump Nat
  predict : Except TeErrno UInt32
  search : PortSearch.Env
  queues : Nat → Nat × Nat

section
variable (nic : Nic) (test : FullPart)

/-- One connection: its statistics and the check of them. -/
def runConnection (queue1 queue2 defQueue expQueue : UInt32) (vpref : String) (traffic : Traffic) :
    Script Jump World Unit := do
  jumping nic.sockets
  let stats ← rssSendGetStats nic traffic vpref
  checkFreeStats queue1 queue2 defQueue expQueue vpref traffic stats

/-- `main()` of `rx_rules_full_part` from the rules on. -/
def fullPartBody (defQueue queue1 queue2 : UInt32) (new : Addrs) : Script Jump World Unit := do
  let firstSrc := !test.firstPartial || test.partialSrc
  let firstDst := !test.firstPartial || !test.partialSrc
  let secondSrc := test.firstPartial || test.partialSrc
  let secondDst := test.firstPartial || !test.partialSrc
  addRule nic test.flowType (if firstSrc then some test.tstAddr else none)
    (if firstDst then some test.iutAddr else none) queue1 "the first"
  addRule nic test.flowType (if secondSrc then some test.tstAddr else none)
    (if secondDst then some test.iutAddr else none) queue2 "the second"
  runConnection nic queue1 queue2 defQueue (if test.firstPartial then queue2 else queue1) "The first connection"
    ⟨test.flowType, test.tstAddr, test.iutAddr⟩
  jumping nic.sockets
  runConnection nic queue1 queue2 defQueue (if test.firstPartial then queue1 else queue2) "The second connection"
    ⟨test.flowType, new.tst, new.iut⟩
  if ← gets World.testFailed then fail .stop else pure ()

/-- `main()` of `rx_rules_full_part`. -/
def fullPart : Script Jump World Unit := do
  let rxQueues ← ofExcept test.ctxPrepare
  when (rxQueues < 3) (fail (.skip "Less than 3 different Rx queues is available"))
  checked nic.rc
  let defQueue ← checkRc test.predict
  let search := rxRulesFullPart test.search test.iutAddr test.tstAddr test.partialSrc defQueue
  ofExcept search.1
  update (fun w => { w with newAddrs := some search.2 })
  match pickQueues test.queues rxQueues defQueue with
  | none => fail (.fail "Failed to pick up queues for Rx rules")
  | some (queue1, queue2) => fullPartBody nic test defQueue queue1 queue2 search.2

end

end NetDrv.Steering
