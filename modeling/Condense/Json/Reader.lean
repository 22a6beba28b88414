import Condense.Number.Reading
import Condense.Text.Hex
import Condense.Value.Depth

/-!
# Reading documents

The JSON grammar, with three words for the numbers that have no digits. Integers keep all their
digits, up to a limit; of members with the same name the last value counts and the first place. A
bracket that opens too deep inside others ends the reading.
-/

namespace Condense.Json

/-- Why a text is no document. -/
inductive Fault where
  | malformed
  | tooManyDigits (count : Nat)
  | tooDeep (why : TooDeep)
  deriving DecidableEq, Repr

def Fault.message : Fault → Text
  | .malformed => "malformed document"
  | .tooManyDigits count => (NumberFault.tooManyDigits count).message
  | .tooDeep why => why.message

/-- The white space of a document. -/
def isGap (c : Char) : Bool := c == ' ' || c == '\t' || c == '\n' || c == '\r'

/-- The text from its first character that is no white space. -/
def skipGap (t : Text) : Text := t.dropWhile (·.is isGap)

/-- The character that a letter after a backslash stands for. -/
def shortEscape? (c : Char) : Option Nat :=
  if c == '"' || c == '\\' || c == '/' then some c.toNat
  else if c == 'b' then some 8
  else if c == 'f' then some 12
  else if c == 'n' then some 10
  else if c == 'r' then some 13
  else if c == 't' then some 9
  else none

def fourHex? (a b c d : Char) : Option Nat := do
  let a ← Text.hexValue? a
  let b ← Text.hexValue? b
  let c ← Text.hexValue? c
  let d ← Text.hexValue? d
  return ((a * 16 + b) * 16 + c) * 16 + d

/-- The first half of a surrogate pair. -/
def isHighSurrogate (unit : Nat) : Bool := 0xD800 ≤ unit && unit < 0xDC00

/-- The second half of a surrogate pair. -/
def isLowSurrogate (unit : Nat) : Bool := 0xDC00 ≤ unit && unit < 0xE000

/-- The code points that were read so far, the latest one first. The first half of a surrogate pair
is kept in mind if it was written as an escape and nothing follows it yet. -/
structure Spelled where
  points : Text := []
  high : Option Nat := none

namespace Spelled

/-- One more code point that was not written as an escape. -/
def add (spelled : Spelled) (p : CodePoint) : Spelled := ⟨p :: spelled.points, none⟩

/-- One more escape. The two halves of a surrogate pair stand for one character if both of them are
escapes. -/
def addUnit (spelled : Spelled) (unit : Nat) : Spelled :=
  match spelled.high.filter fun _ => isLowSurrogate unit with
  | some high =>
    ⟨.ofCode (0x10000 + (high - 0xD800) * 0x400 + (unit - 0xDC00)) :: spelled.points.drop 1, none⟩
  | none => ⟨.ofCode unit :: spelled.points, if isHighSurrogate unit then some unit else none⟩

end Spelled

/-- A text up to its closing quotation mark, behind what was read of it before, and what follows the
mark. -/
def readPoints (spelled : Spelled) : Text → Except Fault (Text × Text)
  | [] => .error .malformed
  | .char '"' :: rest => .ok (spelled.points.reverse, rest)
  | .char '\\' :: .char 'u' :: .char a :: .char b :: .char c :: .char d :: rest =>
    match fourHex? a b c d with
    | some unit => readPoints (spelled.addUnit unit) rest
    | none => .error .malformed
  | .char '\\' :: .char c :: rest =>
    match shortEscape? c with
    | some unit => readPoints (spelled.add (.ofCode unit)) rest
    | none => .error .malformed
  | .char '\\' :: _ => .error .malformed
  | p :: rest => if p.code < 0x20 then .error .malformed else readPoints (spelled.add p) rest

/-- A text up to its closing quotation mark, and what follows it. -/
def readString (t : Text) : Except Fault (Text × Text) := readPoints {} t

/-- The digits at the front of a text, and what follows them. -/
def spanDigits (t : Text) : List Char × Text :=
  let (digits, rest) := t.span (·.is Char.isDigit)
  (digits.filterMap CodePoint.char?, rest)

/-- The digits in front of the point: a zero alone, or digits of which the first is no zero. -/
def wholePart? : Text → Option (List Char × Text)
  | .char '0' :: rest => some (['0'], rest)
  | t => let (digits, rest) := spanDigits t
    if digits.isEmpty then none else some (digits, rest)

/-- The digits behind a point, if there is a point with a digit behind it. -/
def fractionPart? (t : Text) : Option (List Char) × Text :=
  match t with
  | .char '.' :: tail =>
    let (digits, rest) := spanDigits tail
    if digits.isEmpty then (none, t) else (some digits, rest)
  | _ => (none, t)

def sign : Text → Bool × Text
  | .char '-' :: rest => (true, rest)
  | .char '+' :: rest => (false, rest)
  | t => (false, t)

/-- The power of ten, if there is one with a digit in it. -/
def powerPart? (t : Text) : Option Int × Text :=
  match t with
  | .char c :: tail =>
    if c == 'e' || c == 'E' then
      let (negative, body) := sign tail
      let (digits, rest) := spanDigits body
      if digits.isEmpty then (none, t)
      else (some (if negative then -(digitsValue digits : Int) else digitsValue digits), rest)
    else (none, t)
  | _ => (none, t)

/-- A number behind its sign: an integer unless it has a fraction or a power of ten. -/
def readMagnitude (negative : Bool) (t : Text) : Except Fault (Value × Text) :=
  match wholePart? t with
  | none => .error .malformed
  | some (whole, rest) =>
    let (fraction, rest) := fractionPart? rest
    let (power, rest) := powerPart? rest
    match fraction, power with
    | none, none =>
      if digitLimit < whole.length then .error (.tooManyDigits whole.length)
      else .ok (.int (if negative then -(digitsValue whole : Int) else digitsValue whole), rest)
    | _, _ =>
      let fraction := fraction.getD []
      let decimal : Decimal := ⟨digitsValue (whole ++ fraction), power.getD 0 - fraction.length⟩
      .ok (.real (Binary64.ofDecimal negative decimal), rest)

/-- A number. The only sign that may stand in front of it is a minus. -/
def readNumber : Text → Except Fault (Value × Text)
  | .char '-' :: rest => readMagnitude true rest
  | t => readMagnitude false t

def words : List (Text × Value) := [("null", .null), ("true", .bool true), ("false", .bool false),
  ("NaN", .real .nan), ("Infinity", .real (.infinite false)), ("-Infinity", .real (.infinite true))]

def readWord (t : Text) : Except Fault (Value × Text) :=
  match words.find? fun word => word.1.isPrefixOf t with
  | some word => .ok (word.2, t.drop word.1.length)
  | none => readNumber t

mutual

/-- A value at the front of a text, and what follows it. The first number bounds the work, the
second one the brackets that may still be opened. -/
def readValue : Nat → Nat → Text → Except Fault (Value × Text)
  | 0, _, _ => .error .malformed
  | fuel + 1, room, t =>
    match t with
    | .char '"' :: rest => (readString rest).map fun (s, rest) => (.text s, rest)
    | .char '[' :: rest =>
      match room with
      | 0 => .error (.tooDeep .readingList)
      | room + 1 =>
        match skipGap rest with
        | .char ']' :: rest => .ok (.list [], rest)
        | rest => (readItems fuel room [] rest).map fun (items, rest) => (.list items, rest)
    | .char '\x7b' :: rest =>
      match room with
      | 0 => .error (.tooDeep .readingDict)
      | room + 1 =>
        match skipGap rest with
        | .char '\x7d' :: rest => .ok (.dict [], rest)
        | rest => (readMembers fuel room [] rest).map fun (members, rest) => (.dict members, rest)
    | t => readWord t

/-- The items of a list up to its closing bracket, after those that were read before. -/
def readItems : Nat → Nat → List Value → Text → Except Fault (List Value × Text)
  | 0, _, _, _ => .error .malformed
  | fuel + 1, room, items, t =>
    match readValue fuel room t with
    | .error fault => .error fault
    | .ok (v, rest) =>
      match skipGap rest with
      | .char ']' :: rest => .ok ((v :: items).reverse, rest)
      | .char ',' :: rest => readItems fuel room (v :: items) (skipGap rest)
      | _ => .error .malformed

/-- The members of a dictionary up to its closing brace, after those that were read before. -/
def readMembers : Nat → Nat → List (Key × Value) → Text →
    Except Fault (List (Key × Value) × Text)
  | 0, _, _, _ => .error .malformed
  | fuel + 1, room, members, t =>
    match t with
    | .char '"' :: rest =>
      match readString rest with
      | .error fault => .error fault
      | .ok (name, rest) =>
        match skipGap rest with
        | .char ':' :: rest =>
          match readValue fuel room (skipGap rest) with
          | .error fault => .error fault
          | .ok (v, rest) =>
            let members := Assoc.put (.text name) v members
            match skipGap rest with
            | .char '\x7d' :: rest => .ok (members, rest)
            | .char ',' :: rest => readMembers fuel room members (skipGap rest)
            | _ => .error .malformed
        | _ => .error .malformed
    | _ => .error .malformed

end

/-- The value of a document, which holds nothing else but white space. -/
def read (t : Text) : Except Fault Value :=
  match readValue (2 * t.length + 2) depthLimit (skipGap t) with
  | .error fault => .error fault
  | .ok (v, rest) => if (skipGap rest).isEmpty then .ok v else .error .malformed

end Condense.Json
