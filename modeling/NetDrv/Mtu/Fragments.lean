import Mathlib.Data.List.Basic
import Mathlib.Algebra.BigOperators.Group.List.Basic
import Mathlib.Algebra.GroupWithZero.Nat

/-! How IP carries a UDP datagram: in one packet if that fits, otherwise in fragments.
The offset of a fragment is counted in units of eight bytes, so all fragments but the
last one carry the largest multiple of eight bytes that fits. -/

namespace NetDrv.Mtu

inductive Family where
  | inet
  | inet6
  deriving DecidableEq, Repr

/-- `TAD_IP4_HDR_LEN` and `TAD_IP6_HDR_LEN`. -/
def Family.l3HdrSize : Family → Nat
  | .inet => 20
  | .inet6 => 40

def udpHdrLen : Nat := 8

/-- The Fragment header of IPv6; in IPv4 its fields are in the main header. -/
def Family.fragmentHdrSize : Family → Nat
  | .inet => 0
  | .inet6 => 8

def Family.leastMtu : Family → Nat
  | .inet => 68
  | .inet6 => 1280

/-- The payload of the fragments of a packet when `room` bytes are left by the headers. -/
def fragments (room payload : Nat) : List Nat :=
  if payload ≤ room ∨ room < 8 then [payload]
  else room / 8 * 8 :: fragments room (payload - room / 8 * 8)
termination_by payload
decreasing_by omega

/-- The sizes of the IP packets of a datagram with `sendLen` bytes of data. -/
def packetise (family : Family) (mtu sendLen : Nat) : List Nat :=
  let payload := udpHdrLen + sendLen
  if family.l3HdrSize + payload ≤ mtu then [family.l3HdrSize + payload]
  else
    let headers := family.l3HdrSize + family.fragmentHdrSize
    (fragments (mtu - headers) payload).map (headers + ·)

variable {room payload size : Nat}

theorem fragments_last (fits : payload ≤ room) : fragments room payload = [payload] := by
  rw [fragments, if_pos (Or.inl fits)]

theorem fragments_more (eight : 8 ≤ room) (more : room < payload) :
    fragments room payload = room / 8 * 8 :: fragments room (payload - room / 8 * 8) := by
  rw [fragments, if_neg (by omega)]

theorem fragments_ne_nil (room payload : Nat) : fragments room payload ≠ [] := by
  rw [fragments]
  split <;> simp

theorem fragments_le (eight : 8 ≤ room) (member : size ∈ fragments room payload) : size ≤ room := by
  induction payload using Nat.strongRecOn with
  | ind payload ih =>
    by_cases fits : payload ≤ room
    · rw [fragments_last fits] at member
      rw [List.mem_singleton.mp member]
      exact fits
    · rw [fragments_more eight (by omega)] at member
      rcases List.mem_cons.mp member with full | rest
      · omega
      · exact ih _ (by omega) rest

theorem fragments_dropLast (eight : 8 ≤ room) (member : size ∈ (fragments room payload).dropLast) :
    size = room / 8 * 8 := by
  induction payload using Nat.strongRecOn with
  | ind payload ih =>
    by_cases fits : payload ≤ room
    · rw [fragments_last fits] at member
      simp at member
    · rw [fragments_more eight (by omega), List.dropLast_cons_of_ne_nil (fragments_ne_nil _ _)] at member
      rcases List.mem_cons.mp member with full | rest
      · exact full
      · exact ih _ (by omega) rest

end NetDrv.Mtu
