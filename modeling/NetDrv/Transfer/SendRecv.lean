import NetDrv.Lib.Loop
import NetDrv.Te
import Mathlib.Algebra.Group.Int.Defs

/-! The data check behind nearly every test of the suite: a packet is sent, and what
the receiving socket delivers is gathered until there is enough of it. -/

namespace NetDrv.Transfer
open Loop

abbrev Byte := BitVec 8

def maxPktLen : Nat := 1024
def jumboPktLenMin : Nat := 4096
def jumboPktLenMax : Nat := 8192

/-- What one call of `net_drv_sendto_recv_check_gen()` is given and gets from the sender. -/
structure Call where
  vpref : Option String
  mayLoss : Bool
  jumbo : Bool
  /-- The number behind the length. -/
  rand : Nat
  /-- What `te_fill_buf()` writes. -/
  fill : Nat → Byte
  /-- What `rpc_send()` or `rpc_sendto()` returns; an error comes with its text. -/
  send : Except String Nat
  /-- What is in `recv_buf` before the first byte is received. -/
  stale : Nat → Byte

/-- The receiving socket: what it answers to the calls, one after another. -/
structure Receiver where
  readable : Nat → Bool
  recv : Nat → (space : Nat) → Except String { chunk : List Byte // chunk.length ≤ space }

/-- The chunk that `recv()` hands over. -/
def Receiver.chunk (receiver : Receiver) (n space : Nat) : Except String (List Byte) :=
  (receiver.recv n space).map Subtype.val

theorem Receiver.chunk_le {receiver : Receiver} {n space : Nat} {chunk : List Byte}
    (answer : receiver.chunk n space = .ok chunk) : chunk.length ≤ space := by
  unfold Receiver.chunk at answer
  cases whole : receiver.recv n space with
  | error text => simp [whole, Except.map] at answer
  | ok bounded =>
    simp only [whole, Except.map, Except.ok.injEq] at answer
    exact answer ▸ bounded.property

section
variable (call : Call) (receiver : Receiver)

def Call.len : Nat :=
  if call.jumbo then randRange jumboPktLenMin jumboPktLenMax call.rand else randRange 1 maxPktLen call.rand

/-- The bytes of `send_buf` that are sent. -/
def Call.sent : List Byte := (List.range call.len).map call.fill

def Call.verdict {α : Type} (text : String) : Except Jump α :=
  let vpref :=
    match call.vpref with
    | none | some "" => "Data transmission check"
    | some vpref => vpref
  .error (.verdict (vpref ++ ": " ++ text))

/-- The variables of the receive loop; `turns` counts its calls of `recv()`. -/
structure Progress where
  turns : Nat
  totalLen : Nat
  recvBuf : List Byte

def Progress.start : Progress := ⟨0, 0, (List.range jumboPktLenMax).map call.stale⟩

/-- `sizeof(recv_buf) - total_len`, before it is converted to `size_t`. -/
def Progress.space (p : Progress) : Int := jumboPktLenMax - p.totalLen

def Progress.recv (p : Progress) : Except String (List Byte) := receiver.chunk p.turns (p.space % 2 ^ 64).toNat

/-- What `recv()` leaves in the buffer and what the loop counts. -/
def Progress.store (p : Progress) (chunk : List Byte) : Progress where
  turns := p.turns + 1
  totalLen := p.totalLen + chunk.length
  recvBuf := p.recvBuf.take p.totalLen ++ chunk ++ p.recvBuf.drop (p.totalLen + chunk.length)

/-- One turn of `while (readable)`. -/
def recvTurn (p : Progress) : Turn Progress (Except Jump Progress) :=
  if receiver.readable p.turns then
    match p.recv receiver with
    | .error text => .leave (call.verdict ("recv() failed with error " ++ text))
    | .ok chunk =>
      if call.len ≤ (p.store chunk).totalLen then .leave (.ok (p.store chunk)) else .again (p.store chunk)
  else .leave (.ok p)

def compareData (p : Progress) : Except Jump Nat :=
  if p.totalLen ≠ call.len then call.verdict "recv() returned unexpected result"
  else if call.sent ≠ p.recvBuf.take call.len then call.verdict "recv() returned unexpected data"
  else .ok call.len

def netDrvSendtoRecvCheckGen (fuel : Nat) : Option (Except Jump Nat) :=
  match call.send with
  | .error text => some (call.verdict ("sending failed with error " ++ text))
  | .ok rc =>
    if rc ≠ call.len then some (call.verdict "sending returned unexpected result")
    else if receiver.readable 0 then
      (run (recvTurn call receiver) fuel (Progress.start call)).map (fun gathered => gathered >>= compareData call)
    else if call.mayLoss then some (.ok 0)
    else some (call.verdict "receiver did not become readable")

/-- The call comes to an end with `result`. -/
def Returns (result : Except Jump Nat) : Prop := ∃ fuel, netDrvSendtoRecvCheckGen call receiver fuel = some result

structure Receives : Prop where
  sent : call.send = .ok call.len
  readable : receiver.readable 0 = true

/-- The bytes of the first `n` chunks, unless one of the calls fails. -/
def Receiver.received : Nat → Option (List Byte)
  | 0 => some []
  | n + 1 => do
      let gathered ← Receiver.received n
      match receiver.chunk n (jumboPktLenMax - gathered.length) with
      | .error _ => none
      | .ok chunk => some (gathered ++ chunk)

/-- Fewer than `len` bytes are in the first `n` chunks. -/
def Receiver.Short (len n : Nat) : Prop := ∃ gathered, receiver.received n = some gathered ∧ gathered.length < len

/-- The chunks up to the one that completes `len` bytes are `bytes`, and the socket is readable before each. -/
def Receiver.Delivers (len : Nat) (bytes : List Byte) : Prop :=
  ∃ n, (∀ i ≤ n, receiver.readable i = true) ∧ receiver.received (n + 1) = some bytes ∧
    ∀ m ≤ n, receiver.Short len m

end
end NetDrv.Transfer
