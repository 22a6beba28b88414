/-!
# Bits

Bytes as a stream of bits, of which the lowest bit of a byte comes first.
-/

namespace Condense.Compressed

/-- Why reading ends early. Data that are cut off are no damage. -/
inductive Stop where
  | cut
  | damaged
  deriving DecidableEq, Repr

/-- What is still to be read: the rest of a byte that was begun, and the bytes behind it. -/
structure Bits where
  pending : List Bool := []
  bytes : List UInt8

/-- The bits of a byte, the lowest first. -/
def bitsOf (byte : UInt8) : List Bool := (List.range 8).map byte.toNat.testBit

namespace Bits

def size (bits : Bits) : Nat := bits.pending.length + 8 * bits.bytes.length

def next (bits : Bits) : Except Stop (Bool × Bits) :=
  match bits.pending with
  | bit :: pending => .ok (bit, { bits with pending })
  | [] =>
    match bits.bytes with
    | [] => .error .cut
    | byte :: bytes => .ok (byte.toNat.testBit 0, ⟨(bitsOf byte).tail, bytes⟩)

/-- The number that the next bits stand for, the lowest bit first. -/
def number : Nat → Bits → Except Stop (Nat × Bits)
  | 0, bits => .ok (0, bits)
  | width + 1, bits => do
    let (bit, bits) ← bits.next
    let (n, bits) ← number width bits
    return (2 * n + bit.toNat, bits)

/-- What is left behind the byte that was begun. -/
def aligned (bits : Bits) : Bits := { bytes := bits.bytes }

end Bits

/-- The number that bytes stand for, the lowest byte first. -/
def littleEndian (bytes : List UInt8) : Nat :=
  bytes.foldr (fun byte n => byte.toNat + 256 * n) 0

def takeBytes (count : Nat) (bytes : List UInt8) : Except Stop (List UInt8 × List UInt8) :=
  if bytes.length < count then .error .cut else .ok (bytes.splitAt count)

end Condense.Compressed
