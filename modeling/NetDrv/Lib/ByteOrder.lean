import Mathlib.Data.BitVec
import Mathlib.Tactic.Ring

/-! Fixed-width words as byte strings. A word of `n` bytes is stored in the byte
order of its host; swapping its bytes on a little-endian host gives the same
string as a big-endian host, which is what network byte order relies on. -/

namespace NetDrv.ByteOrder

abbrev Byte := BitVec 8

/-- The `n` low bytes of a number, least significant first. -/
def lowBytes : Nat → Nat → List Byte
  | 0, _ => []
  | n + 1, x => BitVec.ofNat 8 x :: lowBytes n (x / 256)

def valueOf : List Byte → Nat
  | [] => 0
  | b :: bs => b.toNat + 256 * valueOf bs

@[simp] theorem lowBytes_length (n x : Nat) : (lowBytes n x).length = n := by
  induction n generalizing x with
  | zero => rfl
  | succ n ih => simp [lowBytes, ih]

theorem valueOf_lowBytes (n x : Nat) : valueOf (lowBytes n x) = x % 256 ^ n := by
  induction n generalizing x with
  | zero => simp [lowBytes, valueOf, Nat.mod_one]
  | succ n ih =>
    simp only [lowBytes, valueOf, BitVec.toNat_ofNat, ih, Nat.reducePow]
    rw [pow_succ', Nat.mod_mul]

theorem valueOf_lt (bs : List Byte) : valueOf bs < 256 ^ bs.length := by
  induction bs with
  | nil => simp [valueOf]
  | cons b bs ih =>
    have low := b.isLt
    simp only [valueOf, List.length_cons, pow_succ']
    omega

theorem lowBytes_valueOf (bs : List Byte) : lowBytes bs.length (valueOf bs) = bs := by
  induction bs with
  | nil => rfl
  | cons b bs ih =>
    have low : b.toNat < 256 := b.isLt
    have head : BitVec.ofNat 8 (b.toNat + 256 * valueOf bs) = b := by
      apply BitVec.eq_of_toNat_eq
      rw [BitVec.toNat_ofNat]
      omega
    have tail : (b.toNat + 256 * valueOf bs) / 256 = valueOf bs := by omega
    simp only [List.length_cons, lowBytes, valueOf, head, tail, ih]

inductive Endian where
  | little
  | big
  deriving DecidableEq, Repr

/-- The bytes a host keeps in memory for a word of `n` bytes. -/
def store (host : Endian) {n : Nat} (word : BitVec (8 * n)) : List Byte :=
  match host with
  | .little => lowBytes n word.toNat
  | .big => (lowBytes n word.toNat).reverse

def load (host : Endian) (n : Nat) (bytes : List Byte) : BitVec (8 * n) :=
  match host with
  | .little => BitVec.ofNat (8 * n) (valueOf bytes)
  | .big => BitVec.ofNat (8 * n) (valueOf bytes.reverse)

def bswap {n : Nat} (word : BitVec (8 * n)) : BitVec (8 * n) :=
  BitVec.ofNat (8 * n) (valueOf (lowBytes n word.toNat).reverse)

private theorem pow_width (n : Nat) : 256 ^ n = 2 ^ (8 * n) := by
  rw [pow_mul, show 2 ^ 8 = 256 by decide]

theorem word_lowBytes {n : Nat} (word : BitVec (8 * n)) :
    BitVec.ofNat (8 * n) (valueOf (lowBytes n word.toNat)) = word := by
  apply BitVec.eq_of_toNat_eq
  have bound := word.isLt
  rw [BitVec.toNat_ofNat, valueOf_lowBytes, pow_width, Nat.mod_mod, Nat.mod_eq_of_lt bound]

theorem lowBytes_word {n : Nat} (bytes : List Byte) (size : bytes.length = n) :
    lowBytes n (BitVec.ofNat (8 * n) (valueOf bytes)).toNat = bytes := by
  subst size
  rw [BitVec.toNat_ofNat, ← pow_width, Nat.mod_eq_of_lt (valueOf_lt bytes), lowBytes_valueOf]

@[simp] theorem store_length (host : Endian) {n : Nat} (word : BitVec (8 * n)) :
    (store host word).length = n := by
  cases host <;> simp [store]

@[simp] theorem load_store (host : Endian) {n : Nat} (word : BitVec (8 * n)) :
    load host n (store host word) = word := by
  cases host with
  | little => exact word_lowBytes word
  | big => simp only [load, store, List.reverse_reverse, word_lowBytes]

@[simp] theorem bswap_bswap {n : Nat} (word : BitVec (8 * n)) : bswap (bswap word) = word := by
  unfold bswap
  rw [lowBytes_word _ (by simp), List.reverse_reverse, word_lowBytes]

theorem store_little_bswap {n : Nat} (word : BitVec (8 * n)) :
    store .little (bswap word) = store .big word := by
  simp only [store, bswap]
  exact lowBytes_word _ (by simp)

/-- A host word in network byte order: swapped exactly on little-endian hosts. -/
def toNetwork (host : Endian) {n : Nat} (word : BitVec (8 * n)) : BitVec (8 * n) :=
  match host with
  | .little => bswap word
  | .big => word

@[simp] theorem toNetwork_toNetwork (host : Endian) {n : Nat} (word : BitVec (8 * n)) :
    toNetwork host (toNetwork host word) = word := by
  cases host with
  | little => exact bswap_bswap word
  | big => rfl

theorem store_toNetwork (host : Endian) {n : Nat} (word : BitVec (8 * n)) :
    store host (toNetwork host word) = store .big word := by
  cases host with
  | little => exact store_little_bswap word
  | big => rfl

theorem toNetwork_load (host : Endian) {n : Nat} (word : BitVec (8 * n)) :
    toNetwork host (load host n (store .big word)) = word := by
  cases host with
  | little =>
    rw [← store_little_bswap, load_store]
    exact bswap_bswap word
  | big => exact load_store .big word

end NetDrv.ByteOrder
