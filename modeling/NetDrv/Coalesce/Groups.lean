import NetDrv.ExactDelay.Payload
import Mathlib.Algebra.Group.Nat.Defs
import Mathlib.Algebra.Group.Int.Defs

/-! Grouping of captured packets in the interrupt coalescing tests. A delay between
two packets ends a group; a group that ends after a packet which was sent late is
left out of the statistics. Both tests walk along the late packets with a cursor
that the callback for received packets moves on; they differ in what they measure. -/

namespace NetDrv.Coalesce
open ByteOrder ExactDelay

/-- A captured packet; the timestamp is in microseconds. -/
structure CapturedPkt where
  rxTs : Except TeErrno Int
  payload : Packet

structure Arrival where
  ts : Int
  id : BitVec 64
  deriving DecidableEq, Repr

def CapturedPkt.read (getPktId : Packet → Except TeErrno (BitVec 64)) (pkt : CapturedPkt) : Except TeErrno Arrival := do
  let ts ← pkt.rxTs
  let id ← getPktId pkt.payload
  .ok ⟨ts, id⟩

/-- What a call of `finish_pkt_group()` decided: the packet at the boundary, whether the group was left out,
where the cursor stopped, and the size or the duration of the group. -/
structure Finished where
  id : BitVec 64
  excluded : Bool
  cursor : Nat
  extent : Int
  deriving DecidableEq, Repr

/-- The fields of `test_cb_args` that both tests have; `finished` records the calls of `finish_pkt_group()`. -/
structure Args where
  pktSendDelay : Nat
  delayedPktIds : List (BitVec 64)
  curDelayedIdx : Nat
  prevTs : Int
  nPkts : Nat
  curPktId : BitVec 64
  nGroups : Nat
  squaredDevSum : Int
  failed : Bool
  finished : List Finished
  deriving DecidableEq, Repr

section
variable (delayedPktIds : List (BitVec 64)) (curPktId : BitVec 64)

/-- `TE_VEC_GET()` into an `unsigned int`; there is nothing past the end of the vector. -/
def txPktId (idx : Nat) : Option Nat := (delayedPktIds[idx]?).map (fun id => id.toNat % 2 ^ 32)

/-- The loop that moves the cursor past the delayed packets up to the current one. -/
def advance (idx : Nat) : Option Nat :=
  if idx < delayedPktIds.length then
    match txPktId delayedPktIds idx with
    | none => none
    | some txPktId => if txPktId > curPktId.toNat then some idx else advance (idx + 1)
  else some idx
termination_by delayedPktIds.length - idx

/-- The decision of `finish_pkt_group()` to skip the group, and the new `cur_delayed_idx`. -/
def skipGroup (curDelayedIdx : Nat) : Option (Bool × Nat) :=
  if curDelayedIdx < delayedPktIds.length then
    match txPktId delayedPktIds curDelayedIdx with
    | none => none
    | some txPktId =>
      if curPktId.toNat ≥ txPktId then
        (advance delayedPktIds curPktId (curDelayedIdx + 1)).map (fun idx => (true, idx))
      else some (false, curDelayedIdx)
  else some (false, curDelayedIdx)

end

/-- The body shared by both copies of `process_tx_pkts()`. -/
def Args.tx (args : Args) (pkt : Except TeErrno Arrival) : Args :=
  let args := { args with nPkts := args.nPkts + 1 }
  if args.failed then args
  else
    match pkt with
    | .error _ => { args with failed := true }
    | .ok arrival =>
      let args := { args with curPktId := arrival.id }
      if args.nPkts = 1 then { args with prevTs := arrival.ts }
      else
        let late := arrival.ts - args.prevTs > args.pktSendDelay * 5
        { args with
          delayedPktIds := if late then args.delayedPktIds ++ [args.curPktId] else args.delayedPktIds
          prevTs := arrival.ts }

/-- The fields that `TEST_CB_ARGS_INIT` gives both tests. -/
def Args.init (pktSendDelay : Nat) : Args := ⟨pktSendDelay, [], 0, 0, 0, 0, 0, 0, false, []⟩

/-- The arguments after the Tx packets, with `n_pkts` set to zero again. -/
structure Args.Ready (args : Args) (delayedPktIds : List (BitVec 64)) : Prop where
  ids : args.delayedPktIds = delayedPktIds
  cursor : args.curDelayedIdx = 0
  count : args.nPkts = 0
  groups : args.nGroups = 0
  readable : args.failed = false
  none : args.finished = []

namespace Usecs

structure Args extends Coalesce.Args where
  coalesceUsecs : Nat
  curGroupTs : Int
  totalGroupsTime : Int
  deriving DecidableEq, Repr

def finishPktGroup (args : Args) (ts : Int) : Option Args := do
  let (skip, idx) ← skipGroup args.delayedPktIds args.curPktId args.curDelayedIdx
  let groupDuration := ts - args.curGroupTs
  let args := { args with
    curDelayedIdx := idx
    finished := args.finished ++ [(⟨args.curPktId, skip, idx, groupDuration⟩ : Finished)] }
  let durationDeviation := groupDuration - args.coalesceUsecs
  let args := if skip then args else { args with
    nGroups := args.nGroups + 1
    totalGroupsTime := args.totalGroupsTime + groupDuration
    squaredDevSum := args.squaredDevSum + durationDeviation * durationDeviation }
  some { args with curGroupTs := ts }

/-- What `process_rx_pkts()` does with what it reads. -/
def rx (minGroupDelay : Nat) (args : Args) (pkt : Except TeErrno Arrival) : Option Args :=
  let args := { args with nPkts := args.nPkts + 1 }
  if args.failed then some args
  else
    match pkt with
    | .error _ => some { args with failed := true }
    | .ok arrival =>
      let args := { args with curPktId := arrival.id }
      if args.nPkts = 1 then some { args with prevTs := arrival.ts, curGroupTs := arrival.ts }
      else if arrival.ts - args.prevTs > minGroupDelay then
        (finishPktGroup args arrival.ts).map (fun args => { args with prevTs := arrival.ts })
      else some { args with prevTs := arrival.ts }

def processTxPkts (host : Endian) (args : Args) (pkt : CapturedPkt) : Args :=
  { args with toArgs := args.toArgs.tx (pkt.read (ExactDelay.Usecs.getPktId host)) }

def processRxPkts (host : Endian) (minGroupDelay : Nat) (args : Args) (pkt : CapturedPkt) : Option Args :=
  rx minGroupDelay args (pkt.read (ExactDelay.Usecs.getPktId host))

/-- `tapi_tad_trrecv_stop()` with `process_rx_pkts()` as callback. -/
def processCapture (host : Endian) (minGroupDelay : Nat) (args : Args) (pkts : List CapturedPkt) : Option Args :=
  pkts.foldlM (processRxPkts host minGroupDelay) args

end Usecs

namespace Frames

structure Args extends Coalesce.Args where
  coalesceFrames : Nat
  curGroupSize : Nat
  totalGroupSize : Nat
  deriving DecidableEq, Repr

def finishPktGroup (args : Args) : Option Args := do
  let (skip, idx) ← skipGroup args.delayedPktIds args.curPktId args.curDelayedIdx
  let args := { args with
    curDelayedIdx := idx
    finished := args.finished ++ [(⟨args.curPktId, skip, idx, args.curGroupSize⟩ : Finished)] }
  let groupSize : Nat := args.curGroupSize
  let sizeDeviation : Int := (groupSize : Int) - args.coalesceFrames
  let args := if skip then args else { args with
    nGroups := args.nGroups + 1
    totalGroupSize := args.totalGroupSize + groupSize
    squaredDevSum := args.squaredDevSum + sizeDeviation * sizeDeviation }
  some { args with curGroupSize := 0 }

/-- What `process_rx_pkts()` does with what it reads; the test passes `MIN_GROUP_DELAY`, which is 100. -/
def rx (minGroupDelay : Nat) (args : Args) (pkt : Except TeErrno Arrival) : Option Args :=
  let args := { args with nPkts := args.nPkts + 1 }
  if args.failed then some args
  else
    match pkt with
    | .error _ => some { args with failed := true }
    | .ok arrival =>
      let args := { args with curPktId := arrival.id }
      let next :=
        if args.nPkts > 1 ∧ arrival.ts - args.prevTs > minGroupDelay then finishPktGroup args else some args
      next.map (fun args => { args with prevTs := arrival.ts, curGroupSize := args.curGroupSize + 1 })

def processTxPkts (host : Endian) (args : Args) (pkt : CapturedPkt) : Args :=
  { args with toArgs := args.toArgs.tx (pkt.read (ExactDelay.Frames.getPktId host)) }

def processRxPkts (host : Endian) (minGroupDelay : Nat) (args : Args) (pkt : CapturedPkt) : Option Args :=
  rx minGroupDelay args (pkt.read (ExactDelay.Frames.getPktId host))

def processCapture (host : Endian) (minGroupDelay : Nat) (args : Args) (pkts : List CapturedPkt) : Option Args :=
  pkts.foldlM (processRxPkts host minGroupDelay) args

end Frames
end NetDrv.Coalesce
