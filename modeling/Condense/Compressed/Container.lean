import Condense.Compressed.Block
import Condense.Compressed.Checksum
import Condense.Text.Basic

/-!
# Compressed contents

Compressed blocks between a header and a checksum, in the formats gzip and zlib. Of data that are cut
off, what can be read counts; what follows the checksum does not.
-/

namespace Condense.Compressed

/-- The flags in the header of a file. -/
structure FileFlags where
  hasSum : Bool
  hasExtra : Bool
  hasName : Bool
  hasComment : Bool

/-- The flags of a byte; the three highest bits have no meaning. -/
def FileFlags.ofByte? (byte : UInt8) : Option FileFlags :=
  if 0x20 ≤ byte.toNat then none
  else
    let bit := byte.toNat.testBit
    some ⟨bit 1, bit 2, bit 3, bit 4⟩

/-- The only method of compression. -/
def method : Nat := 8

/-- What follows a field that begins with its length. -/
def skipExtra (bytes : List UInt8) : Except Stop (List UInt8) := do
  let (length, bytes) ← takeBytes 2 bytes
  let (_, bytes) ← takeBytes (littleEndian length) bytes
  return bytes

/-- What follows a field that ends with a zero. -/
def skipText (bytes : List UInt8) : Except Stop (List UInt8) :=
  match bytes.dropWhile (· != 0) with
  | _ :: bytes => .ok bytes
  | [] => .error .cut

/-- What follows the optional fields of a header. -/
def skipFields (flags : FileFlags) (bytes : List UInt8) : Except Stop (List UInt8) := do
  let bytes ← if flags.hasExtra then skipExtra bytes else .ok bytes
  let bytes ← if flags.hasName then skipText bytes else .ok bytes
  if flags.hasComment then skipText bytes else .ok bytes

/-- What follows a sum that has to have a value. -/
def skipSum (width value : Nat) (bytes : List UInt8) : Except Stop (List UInt8) := do
  let (sum, bytes) ← takeBytes width bytes
  if littleEndian sum = value then return bytes else .error .damaged

def skipFileHeader (bytes : List UInt8) : Except Stop (List UInt8) := do
  let rest ← skipSum 2 0x8B1F bytes
  let (kind, rest) ← takeBytes 2 rest
  match kind with
  | [kind, flags] =>
    if kind.toNat ≠ method then .error .damaged
    else match FileFlags.ofByte? flags with
      | none => .error .damaged
      | some flags =>
        let (_, rest) ← takeBytes 6 rest
        let rest ← skipFields flags rest
        if flags.hasSum then
          let header := bytes.take (bytes.length - rest.length)
          skipSum 2 ((cyclicSum header.toArray).toNat % 65536) rest
        else return rest
  | _ => .error .cut

/-- The data are whole, or cut off at least. -/
def isSound (result : Except Stop (List UInt8)) : Bool :=
  match result with
  | .error .damaged => false
  | _ => true

/-- The contents between a header and a check of what follows them; none if they are damaged. -/
def contents? (header : List UInt8 → Except Stop (List UInt8))
    (check : Array UInt8 → List UInt8 → Except Stop (List UInt8)) (bytes : List UInt8) :
    Option (List UInt8) :=
  match header bytes with
  | .error .cut => some []
  | .error .damaged => none
  | .ok rest =>
    let progress := inflate rest
    let result := progress.rest.bind fun bits => check progress.written bits.aligned.bytes
    if isSound result then some progress.written.toList else none

/-- The contents of a compressed file, which a sum and a length follow. -/
def file? (bytes : List UInt8) : Option (List UInt8) :=
  contents? skipFileHeader (fun written bytes => do
    let bytes ← skipSum 4 (cyclicSum written).toNat bytes
    skipSum 4 (written.size % 0x100000000) bytes) bytes

/-- What follows the header of a stream. A stream that needs a dictionary cannot be read. -/
def skipStreamHeader (bytes : List UInt8) : Except Stop (List UInt8) := do
  let (header, rest) ← takeBytes 2 bytes
  match header with
  | [first, second] =>
    let (first, second) := (first.toNat, second.toNat)
    if (first * 256 + second) % 31 ≠ 0 || first % 16 ≠ method || 7 < first / 16 then
      .error .damaged
    else if second.testBit 5 then
      let _ ← takeBytes 4 rest
      .error .damaged
    else return rest
  | _ => .error .cut

/-- The contents of a compressed stream, which running sums follow. -/
def stream? (bytes : List UInt8) : Option (List UInt8) :=
  contents? skipStreamHeader (fun written bytes => do
    let (sum, bytes) ← takeBytes 4 bytes
    if littleEndian sum.reverse = runningSum written then return bytes else .error .damaged) bytes

/-- The contents of blocks that nothing surrounds. -/
def blocks? (bytes : List UInt8) : Option (List UInt8) := contents? .ok (fun _ => .ok) bytes

/-- The ways in which contents are compressed. -/
inductive Compression where
  | file
  | stream
  deriving DecidableEq, Repr

namespace Compression

def ofName? (name : Text) : Option Compression :=
  if name == "gzip" then some .file
  else if name == "deflate" then some .stream
  else none

/-- The contents of compressed data. What is no stream may be blocks without a header. -/
def expand? : Compression → List UInt8 → Option (List UInt8)
  | .file, bytes => file? bytes
  | .stream, bytes => (stream? bytes).or (blocks? bytes)

/-- The contents of data that were compressed one time after the other. -/
def expandAll? (compressions : List Compression) (bytes : List UInt8) : Option (List UInt8) :=
  compressions.reverse.foldlM (fun bytes compression => compression.expand? bytes) bytes

end Compression

end Condense.Compressed
