import Condense.Text.Encoding
import Condense.Text.Hex

/-!
# Escapes in addresses

A character that may not stand in a part of an address is written as its bytes in hexadecimal, each
behind a percent sign. What is written so already stays as it is. This is the percent-encoding of
URIs; which characters a part admits follows the percent-encode sets of the URL standard for
browsers, and for hosts the generic syntax.
-/

namespace Condense.Address

/-- A character that may stand in every part. -/
def isUnreserved (c : Char) : Bool :=
  c.isAlphanum || c == '-' || c == '.' || c == '_' || c == '~'

/-- A visible ASCII character that is none of the given ones. -/
def isVisibleBut (others : String) (c : Char) : Bool :=
  0x20 < c.toNat && c.toNat < 0x7F && !others.toList.contains c

def isFragmentChar : Char → Bool := isVisibleBut "\"<>`"

def isQueryChar : Char → Bool := isVisibleBut "\"#<>"

def isPathChar : Char → Bool := isVisibleBut "\"#<>?`\x7b\x7d"

def isUserChar : Char → Bool := isVisibleBut "\"#<>?`\x7b\x7d/;=@[\\]^|"

def isHostChar (c : Char) : Bool :=
  isUnreserved c || "!$&'()*+,;=\"`\x7b\x7d%|\\".toList.contains c

def upperHex (n : Nat) : Char := if n < 10 then Char.ofNat (48 + n) else Char.ofNat (55 + n)

def escapeByte (byte : UInt8) : List Char :=
  ['%', upperHex (byte.toNat / 16), upperHex (byte.toNat % 16)]

def escapePoint (p : CodePoint) : Text := Text.ofChars ((Text.utf8Bytes p).flatMap escapeByte)

/-- A hexadecimal digit of either case. -/
def isHex (c : Char) : Bool :=
  c.isDigit || ('a' ≤ c && c ≤ 'f') || ('A' ≤ c && c ≤ 'F')

/-- A percent sign and two hexadecimal digits stand at the front of a text. -/
def isEscape : Text → Bool
  | .char '%' :: a :: b :: _ => a.is isHex && b.is isHex
  | _ => false

/-- A code point as it stands in a part that admits some characters. -/
def escaped (allowed : Char → Bool) (p : CodePoint) : Text :=
  if p.is allowed then [p] else escapePoint p

/-- Escapes what is not allowed. The number says how many code points of an escape are still to be
passed over. -/
def escapeFrom (allowed : Char → Bool) : Nat → Text → Text
  | _, [] => []
  | passed + 1, p :: rest => p :: escapeFrom allowed passed rest
  | 0, p :: rest =>
    if isEscape (p :: rest) then p :: escapeFrom allowed 2 rest
    else escaped allowed p ++ escapeFrom allowed 0 rest

/-- The bytes of an escaped part. The number says how many code points of an escape are still to be
passed over. -/
def unescapedBytes : Nat → Text → List UInt8
  | _, [] => []
  | passed + 1, _ :: rest => unescapedBytes passed rest
  | 0, p :: rest =>
    match p, rest with
    | .char '%', .char a :: .char b :: _ =>
      match Text.hexValue? a, Text.hexValue? b with
      | some high, some low => (high * 16 + low).toUInt8 :: unescapedBytes 2 rest
      | _, _ => Text.utf8Bytes p ++ unescapedBytes 0 rest
    | _, _ => Text.utf8Bytes p ++ unescapedBytes 0 rest

def unescape (t : Text) : Text := Text.decodeLeniently (3 * t.length + 1) (unescapedBytes 0 t)

/-- Escapes what is not allowed; what is escaped already stays as it is. -/
def escape (allowed : Char → Bool) (t : Text) : Text := escapeFrom allowed 0 t

end Condense.Address
