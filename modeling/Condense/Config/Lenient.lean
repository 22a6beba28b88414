import Condense.Config.Checked
import Condense.Number.Reading
import Condense.Text.Encoding
import Condense.Value

/-!
# Lenient readers

How the values of a document become settings. A truth value may be written as a word, and a number
as a text, as long as nothing is lost.
-/

namespace Condense.Lenient

def yesWords : List String := ["1", "t", "y", "on", "yes", "true"]

def noWords : List String := ["0", "f", "n", "no", "off", "false"]

/-- The characters of a text that is to be read as something else. -/
def chars (t : Text) : Checked (List Char) :=
  match t.chars? with
  | some cs => .ok cs
  | none => .issue .stringUnicode

def booleanWord (cs : List Char) : Checked Bool :=
  let word := String.ofList (asciiLower cs)
  if yesWords.contains word then .ok true
  else if noWords.contains word then .ok false
  else .issue .boolParsing

/-- The bound of the integers of 64 bits. -/
def shortBound : Int := 0x8000000000000000

def isShort (n : Int) : Bool := -shortBound ≤ n && n < shortBound

def booleanNumber (n : Int) : Checked Bool :=
  if n = 0 then .ok false else if n = 1 then .ok true
  else if isShort n then .issue .boolParsing else .issue .boolType

def boolean : Value → Checked Bool
  | .bool b => .ok b
  | .int n => booleanNumber n
  | .real x =>
    match x.integer? with
    | some n => if n = -shortBound then .issue .boolType else booleanNumber n
    | none => .issue .boolType
  | .text t => (chars t).andThen booleanWord
  | _ => .issue .boolType

/-- The text without underscores, if they all stand alone and none stands at an end. -/
def joinGroups? (cs : List Char) : Option (List Char) :=
  let rec alone : List Char → Bool
    | '_' :: '_' :: _ => false
    | _ :: rest => alone rest
    | [] => true
  if cs.head? == some '_' || cs.getLast? == some '_' || !alone cs then none
  else some (cs.filter (· != '_'))

/-- The digits behind leading zeros, between which underscores may stand. A zero that a point
follows stays, and a minus sign behind the zeros counts as if it stood in front. -/
def dropZeros? (cs : List Char) : Option (List Char) :=
  let rec rest (last : Char) : List Char → Option (List Char)
    | [] => some [last]
    | c :: cs =>
      if c == '0' || c == '_' then rest c cs
      else if c.isDigit || c == '-' then some (c :: cs)
      else if c == '.' then some (last :: c :: cs)
      else none
  match cs with
  | '0' :: cs => rest '0' cs
  | c :: cs => if c.isDigit then some (c :: cs) else none
  | [] => none

/-- The digits in front of a fraction that consists of zeros. -/
def dropFraction (cs : List Char) : List Char :=
  match cs.span (· != '.') with
  | (whole, '.' :: fraction) =>
    if !fraction.isEmpty && fraction.all (· == '0') then whole else cs
  | _ => cs

/-- How a text is read as an integer that is written as a document writes it. -/
inductive PlainInteger where
  | value (n : Int)
  | tooLong
  | malformed
  deriving DecidableEq, Repr

/-- An integer as a document writes it: perhaps a minus sign, and digits of which the first is no
zero unless it stands alone. Sign and digits together must not be longer than the digits of an
integer may be, whatever follows them. -/
def plainInteger (cs : List Char) : PlainInteger :=
  let (negative, body) := match cs with
    | '-' :: body => (true, body)
    | body => (false, body)
  let (digits, rest) := body.span Char.isDigit
  let isZero := digits.head? == some '0'
  if digits.isEmpty || (isZero && digits.length != 1) then .malformed
  else if digitLimit < digits.length + negative.toNat then .tooLong
  else if !rest.isEmpty then .malformed
  else .value (if negative then -(digitsValue digits : Int) else digitsValue digits)

/-- The plain form of an integer that may be written with blanks around it, a plus sign, leading
zeros, single underscores between the digits and a fraction of zeros. -/
def plainForm? (cs : List Char) : Option (List Char) := do
  let trimmed ← (Text.trimWith Text.isSpace (Text.ofChars cs)).chars?
  let (negative, body) := takeSign trimmed
  let digits ← joinGroups? (dropFraction (← dropZeros? body))
  return if negative then '-' :: digits else digits

def integerWord (cs : List Char) : Checked Int :=
  match plainInteger cs with
  | .value n => .ok n
  | .tooLong => .issue .intParsingSize
  | .malformed =>
    match (plainForm? cs).map plainInteger with
    | some (.value n) => .ok n
    | _ => .issue .intParsing

/-- An integer. A floating point number has to be one. -/
def integer : Value → Checked Int
  | .bool b => .ok (Key.ofBool b)
  | .int n => .ok n
  | .real .nan | .real (.infinite _) => .issue .finiteNumber
  | .real x =>
    match x.integer? with
    | some n => if n.natAbs < shortBound then .ok n else .issue .intParsingSize
    | none => .issue .intFromFloat
  | .text t => (chars t).andThen integerWord
  | _ => .issue .intType

/-- A floating point number written as a text. -/
def realWord (cs : List Char) : Checked Binary64 :=
  match (Text.trimWith Text.isSpace (Text.ofChars cs)).chars?.bind Binary64.read? with
  | some x => .ok x
  | none =>
    match (joinGroups? cs).bind Binary64.read? with
    | some x => .ok x
    | none => .issue .floatParsing

def real : Value → Checked Binary64
  | .real x => .ok x
  | .int n =>
    match Binary64.ofInt n with
    | .ok x => .ok x
    | .error _ => .issue .floatType
  | .bool b =>
    match Binary64.ofInt (Key.ofBool b) with
    | .ok x => .ok x
    | .error _ => .issue .floatType
  | .text t => (chars t).andThen realWord
  | _ => .issue .floatType

def text : Value → Checked Text
  | .text t => .ok t
  | _ => .issue .stringType

def optional {α : Type} (read : Value → Checked α) : Value → Checked (Option α)
  | .null => .ok none
  | v => (read v).map some

def word {α : Type} (words : List (String × α)) : Value → Checked α
  | .text t => (chars t).andThen fun cs =>
    match Assoc.get? (String.ofList cs) words with
    | some a => .ok a
    | none => .issue .literalError
  | _ => .issue .literalError

def atLeast (bound : Int) (v : Value) : Checked Int :=
  (integer v).andThen fun n => if bound ≤ n then .ok n else .issue .greaterThanEqual

def above (bound : Int) (v : Value) : Checked Int :=
  (integer v).andThen fun n => if bound < n then .ok n else .issue .greaterThan

def one : Binary64 := Binary64.ofRatio false 1 1

/-- A floating point number above zero. -/
def positive (x : Binary64) : Checked Binary64 :=
  if (Binary64.zero false).lt x then .ok x else .issue .greaterThan

/-- A floating point number above zero. -/
def positiveReal (v : Value) : Checked Binary64 := (real v).andThen positive

/-- A floating point number between zero and one, without the ends. -/
def properShare (v : Value) : Checked Binary64 :=
  (real v).andThen fun x => if x.lt one then positive x else .issue .lessThan

/-- A floating point number above zero that does not exceed one. -/
def wholeShare (v : Value) : Checked Binary64 :=
  (real v).andThen fun x => if x.le one then positive x else .issue .lessThanEqual

def members {α : Type} (read : List (Key × Value) → Checked α) : Value → Checked α
  | .dict members => read members
  | _ => .issue .modelType

def setting {α : Type} (members : List (Key × Value)) (name : String) (default : α)
    (read : Value → Checked α) : Checked α :=
  match Assoc.get? (Key.text name) members with
  | some v => (read v).under name
  | none => .ok default

end Condense.Lenient
