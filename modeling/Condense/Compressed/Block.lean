import Condense.Compressed.PrefixCode

/-!
# Compressed blocks

Data in blocks: bytes as they are, or literal bytes and repetitions of what was written before, in
two prefix codes, of which the lengths stand in the block itself or are fixed. This is the DEFLATE
format.
-/

namespace Condense.Compressed

/-- How far writing has come, and what is still to be read, unless reading has ended early. -/
structure Progress where
  written : Array UInt8
  rest : Except Stop Bits

/-- The codes of a block: of literals and lengths, and of distances. -/
structure BlockCodes where
  literals : PrefixCode
  distances : PrefixCode

namespace BlockCodes

/-- The codes of a block that does not bring its own. -/
def fixed : BlockCodes where
  literals := .ofLengths <| List.replicate 144 8 ++ List.replicate 112 9 ++ List.replicate 24 7 ++
    List.replicate 8 8
  distances := .ofLengths (List.replicate 32 5)

end BlockCodes

/-- The symbol that ends a block. Smaller ones are literal bytes, greater ones are lengths. -/
def endSymbol : Nat := 256

/-- The number that a symbol stands for whose numbers begin at `first`: behind the first symbols,
every further `steps` symbols take one bit more. -/
def ranged (steps first symbol : Nat) (bits : Bits) : Except Stop (Nat × Bits) :=
  if symbol < 2 * steps then .ok (first + symbol, bits)
  else do
    let width := symbol / steps - 1
    let (extra, bits) ← bits.number width
    return (first + (symbol % steps + steps) * 1 <<< width + extra, bits)

/-- The length that a symbol behind the end symbol stands for. The last one is the greatest length.
-/
def readLength (symbol : Nat) (bits : Bits) : Except Stop (Nat × Bits) :=
  if symbol < 28 then ranged 4 3 symbol bits
  else if symbol = 28 then .ok (258, bits)
  else .error .damaged

def readDistance (symbol : Nat) (bits : Bits) : Except Stop (Nat × Bits) :=
  if symbol < 30 then ranged 2 1 symbol bits else .error .damaged

/-- Repeats bytes that were written so far ago. -/
def copied (distance : Nat) : Nat → Array UInt8 → Array UInt8
  | 0, written => written
  | length + 1, written =>
    copied distance length (written.push (written[written.size - distance]?.getD 0))

/-- Literals, repetitions, and the end of a block. -/
inductive Token where
  | literal (byte : UInt8)
  | repetition (length distance : Nat)
  | finish

def readToken (codes : BlockCodes) (bits : Bits) : Except Stop (Token × Bits) := do
  let (symbol, bits) ← codes.literals.symbol bits
  if symbol < endSymbol then return (.literal symbol.toUInt8, bits)
  else if symbol = endSymbol then return (.finish, bits)
  else
    let (length, bits) ← readLength (symbol - endSymbol - 1) bits
    let (symbol, bits) ← codes.distances.symbol bits
    let (distance, bits) ← readDistance symbol bits
    return (.repetition length distance, bits)

/-- Writes tokens up to the end of a block. The number bounds them. -/
def writeTokens (codes : BlockCodes) : Nat → Array UInt8 → Bits → Progress
  | 0, written, _ => ⟨written, .error .cut⟩
  | fuel + 1, written, bits =>
    match readToken codes bits with
    | .error why => ⟨written, .error why⟩
    | .ok (.literal byte, bits) => writeTokens codes fuel (written.push byte) bits
    | .ok (.repetition length distance, bits) =>
      if written.size < distance then ⟨written, .error .damaged⟩
      else writeTokens codes fuel (copied distance length written) bits
    | .ok (.finish, bits) => ⟨written, .ok bits⟩

/-- The order in which the lengths of the code of lengths are written. -/
def lengthOrder : List Nat := [16, 17, 18, 0, 8, 7, 9, 6, 10, 5, 11, 4, 12, 3, 13, 2, 14, 1, 15]

/-- So many numbers of three bits. -/
def readTriples : Nat → Bits → Except Stop (List Nat × Bits)
  | 0, bits => .ok ([], bits)
  | count + 1, bits => do
    let (n, bits) ← bits.number 3
    let (rest, bits) ← readTriples count bits
    return (n :: rest, bits)

/-- The lengths of the code of lengths in the order of its symbols. -/
def inOrder (written : List Nat) : List Nat :=
  (List.range 19).map fun symbol => (written[lengthOrder.idxOf symbol]?).getD 0

/-- The next lengths: one, or several equal ones. `last` is the length in front of them. -/
def readRun (code : PrefixCode) (last : Option Nat) (bits : Bits) :
    Except Stop (List Nat × Bits) := do
  let (symbol?, bits) ← code.symbol? bits
  let symbol := symbol?.getD 0
  if symbol < 16 then return ([symbol], bits)
  else if symbol = 16 then
    let (extra, bits) ← bits.number 2
    match last with
    | some length => return (List.replicate (3 + extra) length, bits)
    | none => .error .damaged
  else
    let (extra, bits) ← bits.number (if symbol = 17 then 3 else 7)
    return (List.replicate ((if symbol = 17 then 3 else 11) + extra) 0, bits)

/-- So many lengths behind those that were read, which are kept with the latest one first. The first
number bounds the runs. -/
def readLengths (code : PrefixCode) (count : Nat) :
    Nat → List Nat → Bits → Except Stop (List Nat × Bits)
  | 0, _, _ => .error .cut
  | fuel + 1, done, bits =>
    if done.length = count then .ok (done.reverse, bits)
    else do
      let (run, bits) ← readRun code done.head? bits
      if count < done.length + run.length then .error .damaged
      else readLengths code count fuel (run ++ done) bits

def readCodes (bits : Bits) : Except Stop (BlockCodes × Bits) := do
  let (literals, bits) ← bits.number 5
  let (distances, bits) ← bits.number 5
  let (triples, bits) ← bits.number 4
  if 29 < literals || 29 < distances then .error .damaged
  else
    let (written, bits) ← readTriples (triples + 4) bits
    match PrefixCode.ofLengths? false (inOrder written) with
    | none => .error .damaged
    | some code =>
      let count := literals + 257 + (distances + 1)
      let (lengths, bits) ← readLengths code count (count + 1) [] bits
      let (front, back) := lengths.splitAt (literals + 257)
      if front[endSymbol]? = some 0 then .error .damaged
      else match PrefixCode.ofLengths? true front, PrefixCode.ofLengths? true back with
        | some literals, some distances => return (⟨literals, distances⟩, bits)
        | _, _ => .error .damaged

/-- A block of bytes as they are, behind their number and its complement. -/
def writeStored (written : Array UInt8) (bits : Bits) : Progress :=
  match takeBytes 4 bits.aligned.bytes with
  | .error why => ⟨written, .error why⟩
  | .ok (header, bytes) =>
    let count := littleEndian (header.take 2)
    if count + littleEndian (header.drop 2) ≠ 0xFFFF then ⟨written, .error .damaged⟩
    else if bytes.length < count then ⟨written ++ bytes, .error .cut⟩
    else ⟨written ++ bytes.take count, .ok { bytes := bytes.drop count }⟩

/-- A block in two codes. -/
def writeCoded (codes : BlockCodes) (written : Array UInt8) (bits : Bits) : Progress :=
  writeTokens codes (bits.size + 1) written bits

def writeBlock (kind : Nat) (written : Array UInt8) (bits : Bits) : Progress :=
  if kind = 0 then writeStored written bits
  else if kind = 1 then writeCoded .fixed written bits
  else if kind = 2 then
    match readCodes bits with
    | .error why => ⟨written, .error why⟩
    | .ok (codes, bits) => writeCoded codes written bits
  else ⟨written, .error .damaged⟩

def readHeader (bits : Bits) : Except Stop (Bool × Nat × Bits) := do
  let (isLast, bits) ← bits.next
  let (kind, bits) ← bits.number 2
  return (isLast, kind, bits)

/-- Writes blocks up to the last one. The number bounds them. -/
def writeBlocks : Nat → Array UInt8 → Bits → Progress
  | 0, written, _ => ⟨written, .error .cut⟩
  | fuel + 1, written, bits =>
    match readHeader bits with
    | .error why => ⟨written, .error why⟩
    | .ok (isLast, kind, bits) =>
      match writeBlock kind written bits with
      | ⟨written, .ok bits⟩ => if isLast then ⟨written, .ok bits⟩ else writeBlocks fuel written bits
      | stopped => stopped

/-- The data of compressed blocks, and what follows the last block. -/
def inflate (bytes : List UInt8) : Progress :=
  let bits : Bits := { bytes }
  writeBlocks (bits.size + 1) #[] bits

end Condense.Compressed
