import Condense.Text.Basic

/-!
# Encodings

Texts as bytes, in the three Unicode encodings. Decoding refuses everything that is not well formed,
with one exception that a document may make: it may hold halves of surrogate pairs. A document that
does not name its encoding shows it by its first bytes.
-/

namespace Condense.Text

/-- The bytes of a code point in UTF-8. Half of a surrogate pair is written by the same rule. -/
def utf8Bytes (p : CodePoint) : List UInt8 :=
  let n := p.code
  if n < 0x80 then [n.toUInt8]
  else if n < 0x800 then [(0xC0 + n / 0x40).toUInt8, (0x80 + n % 0x40).toUInt8]
  else if n < 0x10000 then
    [(0xE0 + n / 0x1000).toUInt8, (0x80 + n / 0x40 % 0x40).toUInt8, (0x80 + n % 0x40).toUInt8]
  else
    [(0xF0 + n / 0x40000).toUInt8, (0x80 + n / 0x1000 % 0x40).toUInt8,
      (0x80 + n / 0x40 % 0x40).toUInt8, (0x80 + n % 0x40).toUInt8]

def encodeUtf8 (t : Text) : List UInt8 := t.flatMap utf8Bytes

/-- The six bits of a byte that continues a character. -/
def continuation? (byte : UInt8) : Option Nat :=
  if 0x80 ≤ byte.toNat && byte.toNat < 0xC0 then some (byte.toNat - 0x80) else none

/-- The code point of a number, where halves of surrogate pairs are accepted or not. -/
def point? (halves : Bool) (code : Nat) : Option CodePoint :=
  let p := CodePoint.ofCode code
  if code < 0x110000 && (halves || p.char?.isSome) then some p else none

/-- A code point in UTF-8 at the front of some bytes, and the bytes behind it. None may take more
bytes than it needs. -/
def utf8Point? (halves : Bool) : List UInt8 → Option (CodePoint × List UInt8)
  | [] => none
  | first :: rest =>
    let n := first.toNat
    if n < 0x80 then some (.char (Char.ofNat n), rest)
    else if n < 0xC2 then none
    else if n < 0xE0 then
      match rest with
      | a :: rest => do
        let a ← continuation? a
        return (.char (Char.ofNat ((n - 0xC0) * 0x40 + a)), rest)
      | _ => none
    else if n < 0xF0 then
      match rest with
      | a :: b :: rest => do
        let a ← continuation? a
        let b ← continuation? b
        let code := (n - 0xE0) * 0x1000 + a * 0x40 + b
        if code < 0x800 then none
        else do
          let p ← point? halves code
          return (p, rest)
      | _ => none
    else if n < 0xF5 then
      match rest with
      | a :: b :: c :: rest => do
        let a ← continuation? a
        let b ← continuation? b
        let c ← continuation? c
        let code := (n - 0xF0) * 0x40000 + a * 0x1000 + b * 0x40 + c
        if code < 0x10000 then none
        else do
          let p ← point? false code
          return (p, rest)
      | _ => none
    else none

/-- Reads code point after code point. The number bounds them; what was read is kept with the latest
one first. -/
def readPoints (next : List UInt8 → Option (CodePoint × List UInt8)) :
    Nat → Text → List UInt8 → Option Text
  | _, done, [] => some done.reverse
  | 0, _, _ => none
  | fuel + 1, done, bytes =>
    match next bytes with
    | some (p, rest) => readPoints next fuel (p :: done) rest
    | none => none

def decodeUtf8? (bytes : List UInt8) : Option Text :=
  readPoints (utf8Point? false) bytes.length [] bytes

/-- How many bytes at the front of some bytes begin a character without being one. A byte that could
not continue the character is none of them. -/
def brokenLength : List UInt8 → Nat
  | first :: second :: rest =>
    let n := first.toNat
    let least := if n == 0xE0 then 0xA0 else if n == 0xF0 then 0x90 else 0x80
    let most := if n == 0xED then 0x9F else if n == 0xF4 then 0x8F else 0xBF
    if n < 0xE0 || 0xF4 < n || second.toNat < least || most < second.toNat then 1
    else if n < 0xF0 then 2
    else match rest with
      | third :: _ => if (continuation? third).isSome then 3 else 2
      | [] => 2
  | _ => 1

/-- The text of some bytes in UTF-8, in which each sequence that is no character becomes an unknown
one. The number bounds the sequences. -/
def decodeLeniently : Nat → List UInt8 → Text
  | _, [] => []
  | 0, _ => []
  | fuel + 1, bytes =>
    match utf8Point? false bytes with
    | some (p, rest) => p :: decodeLeniently fuel rest
    | none => .char unknown :: decodeLeniently fuel (bytes.drop (brokenLength bytes))

/-- The number that two bytes stand for. -/
def pairValue (bigEndian : Bool) (a b : UInt8) : Nat :=
  if bigEndian then a.toNat * 256 + b.toNat else b.toNat * 256 + a.toNat

/-- A code point in UTF-16 at the front of some bytes, and the bytes behind it. Half of a surrogate
pair is accepted. -/
def utf16Point? (bigEndian : Bool) : List UInt8 → Option (CodePoint × List UInt8)
  | a :: b :: rest =>
    let unit := pairValue bigEndian a b
    let alone := some (CodePoint.ofCode unit, rest)
    if 0xD800 ≤ unit && unit < 0xDC00 then
      match rest with
      | c :: d :: after =>
        let low := pairValue bigEndian c d
        if 0xDC00 ≤ low && low < 0xE000 then
          some (.char (Char.ofNat (0x10000 + (unit - 0xD800) * 0x400 + (low - 0xDC00))), after)
        else alone
      | _ => alone
    else alone
  | _ => none

/-- A code point in UTF-32 at the front of some bytes, and the bytes behind it. Half of a surrogate
pair is accepted. -/
def utf32Point? (bigEndian : Bool) : List UInt8 → Option (CodePoint × List UInt8)
  | a :: b :: c :: d :: rest =>
    let code := if bigEndian then pairValue true a b * 0x10000 + pairValue true c d
      else pairValue false c d * 0x10000 + pairValue false a b
    (point? true code).map (·, rest)
  | _ => none

/-- An encoding, and whether the most significant byte comes first. -/
inductive Encoding where
  | utf8
  | utf16 (bigEndian : Bool)
  | utf32 (bigEndian : Bool)
  deriving DecidableEq, Repr

/-- A number below 65536 as two bytes. -/
def pairBytes (bigEndian : Bool) (n : Nat) : List UInt8 :=
  if bigEndian then [(n / 256).toUInt8, (n % 256).toUInt8]
  else [(n % 256).toUInt8, (n / 256).toUInt8]

namespace Encoding

def pointBytes (encoding : Encoding) (p : CodePoint) : List UInt8 :=
  let n := p.code
  match encoding with
  | .utf8 => utf8Bytes p
  | .utf16 bigEndian =>
    if n < 0x10000 then pairBytes bigEndian n
    else pairBytes bigEndian (0xD800 + (n - 0x10000) / 0x400) ++
      pairBytes bigEndian (0xDC00 + (n - 0x10000) % 0x400)
  | .utf32 true => pairBytes true (n / 0x10000) ++ pairBytes true (n % 0x10000)
  | .utf32 false => pairBytes false (n % 0x10000) ++ pairBytes false (n / 0x10000)

def encode (encoding : Encoding) (t : Text) : List UInt8 := t.flatMap encoding.pointBytes

/-- The bytes of a text behind a byte order mark. -/
def encodeMarked (encoding : Encoding) (t : Text) : List UInt8 :=
  encoding.encode (.char (Char.ofNat 0xFEFF) :: t)

end Encoding

/-- The encoding of a document and the bytes of its text, without a byte order mark. Without a mark
the zero bytes among the first ones tell, because a document begins with ASCII characters. -/
def detect : List UInt8 → Encoding × List UInt8
  | 0x00 :: 0x00 :: 0xFE :: 0xFF :: rest => (.utf32 true, rest)
  | 0xFF :: 0xFE :: 0x00 :: 0x00 :: rest => (.utf32 false, rest)
  | 0xFE :: 0xFF :: rest => (.utf16 true, rest)
  | 0xFF :: 0xFE :: rest => (.utf16 false, rest)
  | 0xEF :: 0xBB :: 0xBF :: rest => (.utf8, rest)
  | bytes@(a :: b :: c :: d :: _) =>
    if a == 0 then (if b == 0 then .utf32 true else .utf16 true, bytes)
    else if b == 0 then (if c == 0 && d == 0 then .utf32 false else .utf16 false, bytes)
    else (.utf8, bytes)
  | bytes@(a :: b :: []) =>
    (if a == 0 then .utf16 true else if b == 0 then .utf16 false else .utf8, bytes)
  | bytes => (.utf8, bytes)

/-- The text of a document of unnamed encoding. Halves of surrogate pairs are accepted. -/
def decodeDocument? (bytes : List UInt8) : Option Text :=
  let (encoding, rest) := detect bytes
  let next := match encoding with
    | .utf8 => utf8Point? true
    | .utf16 bigEndian => utf16Point? bigEndian
    | .utf32 bigEndian => utf32Point? bigEndian
  readPoints next rest.length [] rest

end Condense.Text
