import Condense.Compressed.Bits

/-!
# Prefix codes

A code gives each symbol a sequence of bits of its own, none of which begins another. It is fixed by
the lengths of the sequences alone: shorter ones come first, and among those of one length the
symbols are in order.
-/

namespace Condense.Compressed

/-- The symbols of a code by the length of their sequences, from one bit on. -/
structure PrefixCode where
  symbols : List (Array Nat)
  deriving DecidableEq, Repr

namespace PrefixCode

def longest : Nat := 15

/-- The share that a sequence takes of all sequences of the greatest length. -/
def share (length : Nat) : Nat := if length = 0 then 0 else 1 <<< (longest - length)

/-- The share of all symbols together. -/
def total (lengths : List Nat) : Nat := lengths.foldl (fun sum length => sum + share length) 0

/-- The symbols whose sequences have a length. -/
def symbolsOf (lengths : List Nat) (length : Nat) : Array Nat :=
  ((lengths.zipIdx.filter fun entry => entry.1 == length).map (·.2)).toArray

/-- The code of the lengths of its symbols; a symbol of length zero is not used. -/
def ofLengths (lengths : List Nat) : PrefixCode :=
  ⟨(List.range (max 1 (lengths.foldl max 0))).map fun length => symbolsOf lengths (length + 1)⟩

/-- The lengths use every sequence and none twice. A code without symbols is accepted as well, and
one of single bits if it is said so. -/
def accepts (singleBits : Bool) (lengths : List Nat) : Bool :=
  let most := lengths.foldl max 0
  total lengths == 1 <<< longest ||
    (total lengths < 1 <<< longest && (most == 0 || (singleBits && most == 1)))

/-- The code of the lengths of its symbols, if they make one. -/
def ofLengths? (singleBits : Bool) (lengths : List Nat) : Option PrefixCode :=
  if accepts singleBits lengths then some (ofLengths lengths) else none

/-- The symbol of the next bits, none where they begin no sequence. `offset` is how far the bits so
far lie behind the first sequence of their length that begins a longer one. -/
def symbolFrom : List (Array Nat) → (offset : Nat) → Bits → Except Stop (Option Nat × Bits)
  | [], _, bits => .ok (none, bits)
  | symbols :: longer, offset, bits => do
    let (bit, bits) ← bits.next
    let place := 2 * offset + bit.toNat
    match symbols[place]? with
    | some symbol => return (some symbol, bits)
    | none => symbolFrom longer (place - symbols.size) bits

/-- The symbol of the next bits, none where they begin no sequence. -/
def symbol? (code : PrefixCode) (bits : Bits) : Except Stop (Option Nat × Bits) :=
  symbolFrom code.symbols 0 bits

def symbol (code : PrefixCode) (bits : Bits) : Except Stop (Nat × Bits) := do
  match ← code.symbol? bits with
  | (some symbol, bits) => return (symbol, bits)
  | (none, _) => .error .damaged

end PrefixCode

end Condense.Compressed
