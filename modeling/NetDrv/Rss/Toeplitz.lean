import NetDrv.Lib.Script
import NetDrv.Te

/-! Detection of the Toeplitz hash variant in the prologue of the RSS tests. A
connection is searched for that the standard hash and the symmetric-or-xor one put
on different Rx queues; the queue its packets arrive on tells the variants apart. -/

namespace NetDrv.Rss
open Script

inductive Variant where
  | standard
  | symOrXor
  deriving DecidableEq, Repr

def Variant.other : Variant → Variant
  | .standard => .symOrXor
  | .symOrXor => .standard

inductive Side where
  | iut
  | tst
  deriving DecidableEq, Repr

/-- An address; the port is as `ntohs()` reads it. -/
structure SockAddr where
  netaddr : List (BitVec 8)
  port : BitVec 16
  deriving DecidableEq, Repr

def SockAddr.setPort (addr : SockAddr) (port : BitVec 16) : SockAddr := { addr with port := port }

/-- The hash functions under the key of the NIC, and its indirection table. -/
structure Nic where
  /-- `te_toeplitz_hash_sa()` from a source to a destination. -/
  toeplitzHashSa : Variant → SockAddr → SockAddr → Except TeErrno UInt32
  /-- `tapi_cfg_if_rss_indir_get()`. -/
  indirGet : UInt32 → Except TeErrno Int32
  tableSize : UInt32
  /-- The prologue skips a table of a single entry. -/
  multiple : 1 < tableSize

/-- The Rx queue that a variant of the hash chooses for packets from `src` to `dst`. -/
def Nic.predicted (nic : Nic) (variant : Variant) (src dst : SockAddr) : Except TeErrno Int32 := do
  let hash ← nic.toeplitzHashSa variant src dst
  nic.indirGet (hash % nic.tableSize)

/-- What one call of `try_detect_toeplitz_variant()` gets from chance and from the hosts. -/
structure Choice where
  /-- The numbers behind the two ports of an attempt. -/
  rand : Nat → Side → Nat
  /-- What `rpc_check_port_is_free()` answers in an attempt. -/
  portIsFree : Nat → Side → Except TeErrno Bool
  /-- What is in `queue_std` and in `queue_sym` before the first assignment. -/
  stale : Variant → Int32

/-- `tapi_bpf_rxq_stats`. -/
structure RxqStats where
  rxQueue : UInt32
  pkts : UInt64
  deriving DecidableEq, Repr

/-- What the calls that use the connection return. -/
structure Traffic where
  genConnection : Except TeErrno Unit
  statsReset : Except TeErrno Unit
  statsSetParams : Except TeErrno Unit
  statsClear : Except TeErrno Unit
  sendRecvCheck : Nat → Except TeErrno Unit
  statsRead : Except TeErrno (List RxqStats)
  close : Side → Except TeErrno Unit

/-- An answer of `rpc_check_port_is_free()`. -/
structure PortReport where
  side : Side
  port : BitVec 16
  free : Bool
  deriving DecidableEq, Repr

/-- The variables of `try_detect_toeplitz_variant()`. -/
structure Try where
  newIutAddr : SockAddr
  newTstAddr : SockAddr
  queueStd : Int32
  queueSym : Int32
  /-- Addresses of the IUT and of the tester in the connection. -/
  connection : Option (SockAddr × SockAddr)
  reports : List PortReport

def checkRc {σ α : Type} : Except TeErrno α → Script Jump σ α
  | .ok a => pure a
  | .error rc => fail (.checkRc rc)

theorem wp_checkRc {σ α : Type} {done : α → σ → Prop} {failed : Jump → σ → Prop} {s : σ}
    (answer : Except TeErrno α) :
    (checkRc answer).wp done failed s ↔
      match answer with
      | .ok a => done a s
      | .error rc => failed (.checkRc rc) s := by
  cases answer <;> rfl

theorem wp_checkRc_any {σ α : Type} {answer : Except TeErrno α} {done : α → σ → Prop} {failed : Jump → σ → Prop} {s : σ}
    (regular : ∀ a, done a s) (failure : ∀ jump, failed jump s) : (checkRc answer).wp done failed s := by
  cases answer with
  | ok a => exact regular a
  | error rc => exact failure _

@[irreducible] def maxAttempts : Nat := 10000
def minPort : Nat := 20000
def maxPort : Nat := 0xffff
def pktsNum : Nat := 10
def attemptsNum : Nat := 10

section
variable (nic : Nic) (iutAddr tstAddr : SockAddr) (choice : Choice) (traffic : Traffic)

def Choice.port (i : Nat) (side : Side) : BitVec 16 := BitVec.ofNat 16 (randRange minPort maxPort (choice.rand i side))

def rpcCheckPortIsFree (i : Nat) (side : Side) (port : BitVec 16) : Script Jump Try Bool := do
  let free ← checkRc (choice.portIsFree i side)
  update (fun t => { t with reports := t.reports ++ [⟨side, port, free⟩] })
  pure free

/-- One attempt to choose ports; `true` leaves the loop. -/
def choosePorts (i : Nat) : Script Jump Try Bool := do
  let iutPort := choice.port i .iut
  let tstPort := choice.port i .tst
  update (fun t => { t with newIutAddr := t.newIutAddr.setPort iutPort, newTstAddr := t.newTstAddr.setPort tstPort })
  let tst ← gets Try.newTstAddr
  let iut ← gets Try.newIutAddr
  let hashStd ← checkRc (nic.toeplitzHashSa .standard tst iut)
  let hashSym ← checkRc (nic.toeplitzHashSa .symOrXor tst iut)
  let idxStd := hashStd % nic.tableSize
  let idxSym := hashSym % nic.tableSize
  if idxStd ≠ idxSym then
    let queueStd ← checkRc (nic.indirGet idxStd)
    update (fun t => { t with queueStd := queueStd })
    let queueSym ← checkRc (nic.indirGet idxSym)
    update (fun t => { t with queueSym := queueSym })
    if queueStd ≠ queueSym then
      if iutPort = 0 then pure true
      else if ← rpcCheckPortIsFree choice i .iut iutPort then rpcCheckPortIsFree choice i .tst tstPort
      else pure false
    else pure false
  else pure false

/-- The loop over the statistics in `send_get_rx_queue()`. -/
def countPkts : List RxqStats → Int → UInt32 → Except Jump (Int × UInt32)
  | [], gotQueue, regPkts => .ok (gotQueue, regPkts)
  | stat :: stats, gotQueue, regPkts =>
    if 0 < stat.pkts then
      if 0 ≤ gotQueue then .error (.verdict "Packets were received over more than one queue")
      else countPkts stats stat.rxQueue.toNat (regPkts + stat.pkts.toUInt32)
    else countPkts stats gotQueue regPkts

def gotQueue (stats : List RxqStats) : Except Jump UInt32 := do
  let (gotQueue, regPkts) ← countPkts stats (-1) 0
  if regPkts = 0 then .error (.verdict "No packets was registered for any Rx queue")
  else if regPkts.toNat ≠ pktsNum then .error (.verdict "Unexpected number of packets was registered")
  else .ok (UInt32.ofInt gotQueue)

def sendGetRxQueue : Script Jump Try UInt32 := do
  checkRc traffic.statsClear
  forEach (List.range pktsNum) (fun i => checkRc (traffic.sendRecvCheck i))
  let stats ← checkRc traffic.statsRead
  match gotQueue stats with
  | .ok queue => pure queue
  | .error jump => fail jump

def genConnection : Script Jump Try Unit := do
  checkRc traffic.genConnection
  update (fun t => { t with connection := some (t.newIutAddr, t.newTstAddr) })

/-- The variant whose queue is the one that got the packets. -/
def matchQueue (queueGot : UInt32) : Script Jump Try Variant := do
  let queueStd ← gets Try.queueStd
  let queueSym ← gets Try.queueSym
  if queueGot.toInt32 = queueStd then pure .standard
  else if queueGot.toInt32 = queueSym then pure .symOrXor
  else fail (.verdict "Cannot detect Toeplitz hash variant")

def useConnection : Script Jump Try Variant := do
  genConnection traffic
  checkRc traffic.statsReset
  checkRc traffic.statsSetParams
  let queueGot ← sendGetRxQueue traffic
  let detected ← matchQueue queueGot
  checkRc (traffic.close .iut)
  checkRc (traffic.close .tst)
  pure detected

def tryDetectToeplitzVariant : Script Jump Try Variant := do
  let _ ← findFirst (List.range maxAttempts) (choosePorts nic choice)
  useConnection traffic

def Try.start : Try := ⟨iutAddr, tstAddr, choice.stale .standard, choice.stale .symOrXor, none, []⟩

def tryDetect : Except Jump Variant × Try :=
  tryDetectToeplitzVariant nic choice traffic (Try.start iutAddr tstAddr choice)

end

/-- The variables of `detect_toeplitz_variant()` and what it leaves behind. -/
structure Prologue where
  prevVariant : Option Variant
  variant : Option Variant
  ringVerdicts : List String
  /-- The value of `/local:/iut_toeplitz_variant:`. -/
  stored : Option Variant

section
variable (nic : Nic) (iutAddr tstAddr : SockAddr) (choice : Nat → Choice) (traffic : Nat → Traffic)
  (registerObject addInstance : Except TeErrno Unit)

/-- The attempt number `i` of `detect_toeplitz_variant()`. -/
def detectOnce (i : Nat) : Script Jump Prologue Unit := do
  match (tryDetect nic iutAddr tstAddr (choice i) (traffic i)).1 with
  | .error jump => fail jump
  | .ok variant => update (fun p => { p with variant := some variant })
  let variant ← gets Prologue.variant
  let prevVariant ← gets Prologue.prevVariant
  when (decide (0 < i ∧ prevVariant ≠ variant)) (fail (.verdict "Cannot detect Toeplitz hash variant"))
  update (fun p => { p with prevVariant := variant })

def detectToeplitzVariant : Script Jump Prologue Unit := do
  forEach (List.range attemptsNum) (detectOnce nic iutAddr tstAddr choice traffic)
  let variant ← gets Prologue.variant
  when (decide (variant = some .symOrXor)) (update (fun p =>
    { p with ringVerdicts := p.ringVerdicts ++ ["NIC uses symmetric-or-xor Toeplitz hash"] }))
  checkRc registerObject
  checkRc addInstance
  update (fun p => { p with stored := variant })

def Prologue.start : Prologue := ⟨none, none, [], none⟩

end
end NetDrv.Rss
