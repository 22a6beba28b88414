/-!
# Checksums

Two sums by which damage shows: a remainder of polynomials over bits (CRC-32), and a pair of running
sums (Adler-32).
-/

namespace Condense.Compressed

/-- The divisor, the lowest power first, without the highest one. -/
def divisor : UInt32 := 0xEDB88320

/-- Divides by the divisor, one bit after the other. -/
def divide : Nat → UInt32 → UInt32
  | 0, remainder => remainder
  | steps + 1, remainder =>
    divide steps <|
      if remainder &&& 1 = 1 then (remainder >>> 1) ^^^ divisor else remainder >>> 1

/-- The remainder after one more byte. -/
def passByte (remainder : UInt32) (byte : UInt8) : UInt32 :=
  divide 8 (remainder ^^^ byte.toUInt32)

/-- The remainder of bytes as a polynomial. -/
def cyclicSum (bytes : Array UInt8) : UInt32 := ~~~ (bytes.foldl passByte 0xFFFFFFFF)

/-- The modulus of the running sums. -/
def modulus : Nat := 65521

/-- The sum of all bytes and the sum of its intermediate results. -/
def runningSum (bytes : Array UInt8) : Nat :=
  let (low, high) := bytes.foldl (fun (low, high) byte =>
    let low := (low + byte.toNat) % modulus
    (low, (high + low) % modulus)) (1, 0)
  high * 65536 + low

end Condense.Compressed
