import Condense.Text.Basic
import Condense.Text.Hex
import Condense.Text.Printable

/-!
# Quoted texts

A text or a string of bytes between quotation marks, as it is shown inside a larger value or an
error message. Single quotation marks are used unless the text holds one and holds no double one.
-/

namespace Condense.Text

/-- The quotation mark that surrounds a text. -/
def quoteFor (t : Text) : Char :=
  if t.contains (.char '\'') && !t.contains (.char '"') then '"' else '\''

/-- A backslash and a letter, for the three controls that have one. -/
def shortEscape? (c : Char) : Option (List Char) :=
  if c == '\t' then some ['\\', 't']
  else if c == '\n' then some ['\\', 'n']
  else if c == '\r' then some ['\\', 'r']
  else none

def quotedChar (quote c : Char) : List Char :=
  if c == quote || c == '\\' then ['\\', c]
  else match shortEscape? c with
    | some escape => escape
    | none =>
      if isPrintable c then [c]
      else if c.toNat ≤ 0xFF then '\\' :: 'x' :: hex 2 c.toNat
      else if c.toNat ≤ 0xFFFF then '\\' :: 'u' :: hex 4 c.toNat
      else '\\' :: 'U' :: hex 8 c.toNat

/-- One code point of a quoted text. Half of a surrogate pair is shown by its code. -/
def quotedPoint (quote : Char) : CodePoint → List Char
  | .char c => quotedChar quote c
  | .half unit => '\\' :: 'u' :: hex 4 (CodePoint.half unit).code

def quoted (t : Text) : Text :=
  let quote := quoteFor t
  ofChars (quote :: t.flatMap (quotedPoint quote) ++ [quote])

def quotedByte (quote : Char) (byte : UInt8) : List Char :=
  let c := Char.ofNat byte.toNat
  if c == quote || c == '\\' then ['\\', c]
  else match shortEscape? c with
    | some escape => escape
    | none =>
      if 0x20 ≤ byte.toNat && byte.toNat < 0x7F then [c] else '\\' :: 'x' :: hex 2 byte.toNat

/-- A string of bytes between quotation marks, marked by a leading `b`. -/
def quotedBytes (bytes : List UInt8) : Text :=
  let quote := quoteFor (ofChars (bytes.map fun byte => Char.ofNat byte.toNat))
  ofChars ('b' :: quote :: bytes.flatMap (quotedByte quote) ++ [quote])

end Condense.Text
