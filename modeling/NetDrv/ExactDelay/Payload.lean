import NetDrv.Lib.ByteOrder
import NetDrv.Te
import Mathlib.Data.List.DropRight

/-! The packet identifier on the wire: the payload which the sending agent builds,
the receiving agent's decoder and the decoder of captured frames, which has to look
past the zero bytes Ethernet appends to short frames. -/

namespace NetDrv.ExactDelay
open ByteOrder

def htonl (host : Endian) (x : BitVec 32) : BitVec 32 := toNetwork host (n := 4) x

def bswap64 (x : BitVec 64) : BitVec 64 := bswap (n := 8) x

/-- `swap_required = (htonl(1) != 1)`. -/
def swapRequired (host : Endian) : Bool := htonl host 1 != 1

/-- `net_drv_exact_delay_payload`, a packed structure. -/
structure Payload where
  id : BitVec 64
  lastByte : Byte
  deriving DecidableEq, Repr

/-- `sizeof(net_drv_exact_delay_payload)`. -/
def payloadSize : Nat := 9

def Payload.bytes (host : Endian) (pld : Payload) : List Byte :=
  store host (n := 8) pld.id ++ [pld.lastByte]

def Payload.ofBytes (host : Endian) (bytes : List Byte) : Payload :=
  ⟨load host 8 (bytes.take 8), bytes.getD 8 0⟩

/-- The payload which `send_pkts_exact_delay()` fills in for a packet. -/
def sendPayload (host : Endian) (id : BitVec 64) : Payload :=
  { id := if swapRequired host then bswap64 id else id, lastByte := 0xff }

/-- The identifier `recv_pkts_exact_delay()` takes out of the payload it received. -/
def recvId (host : Endian) (bytes : List Byte) : BitVec 64 :=
  let pld := Payload.ofBytes host bytes
  if swapRequired host then bswap64 pld.id else pld.id

/-- A captured packet as `asn_get_length()` and `asn_read_value_field()` present its
`payload.#bytes`. -/
structure Packet where
  length : Int
  read : Except TeErrno (List Byte)

def Packet.ofBytes (bytes : List Byte) : Packet := ⟨bytes.length, .ok bytes⟩

/-- `for (i = n - 1; i >= 0 && buf[i] == 0; i--);` as the final value of `i`. -/
def skipPadding (buf : List Byte) : Nat → Int
  | 0 => -1
  | n + 1 => if buf.getD n 0 = 0 then skipPadding buf n else n

/-- The body shared by both copies of `get_pkt_id()`. -/
def readPktId (host : Endian) (pkt : Packet) : Except TeErrno (BitVec 64) :=
  if pkt.length < 0 then .error TeError.ebadmsg
  else
    match pkt.read with
    | .error rc => .error rc
    | .ok buf =>
      let i := skipPadding buf buf.length
      if i < 8 then .error TeError.ebadmsg
      else
        let id : BitVec 64 := load host 8 ((buf.drop (i - 8).toNat).take 8)
        .ok (if swapRequired host then bswap64 id else id)

/-- `get_pkt_id()` of `rx_coalesce_usecs.c`. -/
def Usecs.getPktId (host : Endian) (pkt : Packet) : Except TeErrno (BitVec 64) := readPktId host pkt

/-- `get_pkt_id()` of `rx_coalesce_frames.c`. -/
def Frames.getPktId (host : Endian) (pkt : Packet) : Except TeErrno (BitVec 64) := readPktId host pkt

theorem swapped_eq_toNetwork (host : Endian) (id : BitVec 64) :
    (if swapRequired host then bswap64 id else id) = toNetwork host (n := 8) id := by
  cases host with
  | little =>
    have required : swapRequired .little = true := by decide
    simp only [required, if_true]
    rfl
  | big =>
    have skipped : swapRequired .big = false := by decide
    simp [skipped, toNetwork]

theorem sendPayload_bytes (host : Endian) (id : BitVec 64) :
    (sendPayload host id).bytes host = store .big (n := 8) id ++ [0xff] := by
  simp only [sendPayload, Payload.bytes, swapped_eq_toNetwork, store_toNetwork]

@[simp] theorem sendPayload_length (host : Endian) (id : BitVec 64) :
    ((sendPayload host id).bytes host).length = payloadSize := by
  simp [sendPayload_bytes, payloadSize]

theorem recvId_sendPayload (sender receiver : Endian) (id : BitVec 64) :
    recvId receiver ((sendPayload sender id).bytes sender) = id := by
  have window : (store .big (n := 8) id ++ [0xff]).take 8 = store .big (n := 8) id :=
    List.take_left' (store_length .big (n := 8) id)
  rw [recvId, swapped_eq_toNetwork, sendPayload_bytes, Payload.ofBytes, window]
  exact toNetwork_load receiver (n := 8) id

theorem skipPadding_append (front back : List Byte) (n : Nat) (inside : n ≤ front.length) :
    skipPadding (front ++ back) n = skipPadding front n := by
  induction n with
  | zero => rfl
  | succ n ih =>
    have here : (front ++ back).getD n 0 = front.getD n 0 := by
      simp [List.getD_eq_getElem?_getD, List.getElem?_append_left (show n < front.length by omega)]
    rw [skipPadding, skipPadding, here, ih (by omega)]

theorem skipPadding_length (buf : List Byte) :
    skipPadding buf buf.length = ((buf.rdropWhile (· == 0)).length : Int) - 1 := by
  induction buf using List.reverseRecOn with
  | nil => rfl
  | append_singleton front b ih =>
    have last : (front ++ [b]).getD front.length 0 = b := by
      simp [List.getD_eq_getElem?_getD]
    rw [List.length_append, List.length_singleton, skipPadding, last,
      skipPadding_append front [b] front.length le_rfl, ih]
    by_cases zero : b = 0
    · simp [zero]
    · rw [if_neg zero, List.rdropWhile_concat_neg _ _ _ (by simpa using zero)]
      simp

theorem readPktId_ofBytes (host : Endian) (bytes : List Byte) :
    readPktId host (Packet.ofBytes bytes) =
      if (bytes.rdropWhile (· == 0)).length < 9 then .error TeError.ebadmsg
      else .ok (toNetwork host (n := 8)
        (load host 8 ((bytes.drop ((bytes.rdropWhile (· == 0)).length - 9)).take 8))) := by
  have nonneg : ¬((bytes.length : Int) < 0) := by omega
  simp only [readPktId, Packet.ofBytes, if_neg nonneg, skipPadding_length, swapped_eq_toNetwork]
  by_cases short : (bytes.rdropWhile (· == 0)).length < 9
  · rw [if_pos short, if_pos (by omega)]
  · have offset : (((bytes.rdropWhile (· == 0)).length : Int) - 1 - 8).toNat =
        (bytes.rdropWhile (· == 0)).length - 9 := by omega
    rw [if_neg short, if_neg (by omega), offset]

theorem readPktId_error_iff (host : Endian) (bytes : List Byte) :
    readPktId host (Packet.ofBytes bytes) = .error TeError.ebadmsg ↔
      (bytes.rdropWhile (· == 0)).length < 9 := by
  rw [readPktId_ofBytes]
  split <;> simp_all

theorem padded_rdropWhile (sender : Endian) (id : BitVec 64) (front : List Byte) (zeros : Nat) :
    (front ++ (sendPayload sender id).bytes sender ++ List.replicate zeros 0).rdropWhile (· == 0) =
      front ++ store .big (n := 8) id ++ [0xff] := by
  induction zeros with
  | zero =>
    rw [sendPayload_bytes, List.replicate_zero, List.append_nil, ← List.append_assoc]
    exact List.rdropWhile_concat_neg _ _ _ (by decide)
  | succ zeros ih =>
    rw [List.replicate_succ', ← List.append_assoc, List.rdropWhile_concat_pos _ _ _ (by decide), ih]

theorem readPktId_padded (sender host : Endian) (id : BitVec 64) (front : List Byte) (zeros : Nat) :
    readPktId host (Packet.ofBytes
      (front ++ (sendPayload sender id).bytes sender ++ List.replicate zeros 0)) = .ok id := by
  have size : (store .big (n := 8) id).length = 8 := store_length .big (n := 8) id
  have kept : (front ++ store .big (n := 8) id ++ [0xff]).length = front.length + 9 := by
    simp [size]
  have window : ((front ++ (store .big (n := 8) id ++ [0xff]) ++ List.replicate zeros 0).drop
      front.length).take 8 = store .big (n := 8) id := by
    rw [List.append_assoc, List.drop_left, List.append_assoc]
    exact List.take_left' size
  rw [readPktId_ofBytes, padded_rdropWhile, kept, if_neg (by omega), Nat.add_sub_cancel,
    sendPayload_bytes, window]
  exact congrArg Except.ok (toNetwork_load host (n := 8) id)

/-- The wire format survives the trip from the sending agent to the receiving agent and to
both decoders of captured frames, and what the latter reject is exactly what is too short. -/
theorem pkt_id_round_trip (sender receiver : Endian) :
    (∀ (id : BitVec 64) (front : List Byte) (zeros : Nat),
      Usecs.getPktId receiver (Packet.ofBytes
        (front ++ (sendPayload sender id).bytes sender ++ List.replicate zeros 0)) = .ok id ∧
      Frames.getPktId receiver (Packet.ofBytes
        (front ++ (sendPayload sender id).bytes sender ++ List.replicate zeros 0)) = .ok id ∧
      ((sendPayload sender id).bytes sender).length = payloadSize ∧
      recvId receiver ((sendPayload sender id).bytes sender) = id) ∧
    ∀ bytes : List Byte,
      Usecs.getPktId receiver (Packet.ofBytes bytes) = Frames.getPktId receiver (Packet.ofBytes bytes) ∧
      (Usecs.getPktId receiver (Packet.ofBytes bytes) = .error TeError.ebadmsg ↔
        (bytes.rdropWhile (· == 0)).length < 9) ∧
      (Frames.getPktId receiver (Packet.ofBytes bytes) = .error TeError.ebadmsg ↔
        (bytes.rdropWhile (· == 0)).length < 9) := by
  constructor
  · intro id front zeros
    exact ⟨readPktId_padded sender receiver id front zeros,
      readPktId_padded sender receiver id front zeros,
      sendPayload_length sender id, recvId_sendPayload sender receiver id⟩
  · intro bytes
    exact ⟨rfl, readPktId_error_iff receiver bytes, readPktId_error_iff receiver bytes⟩

end NetDrv.ExactDelay
