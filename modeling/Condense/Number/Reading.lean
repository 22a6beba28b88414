import Condense.Number.Layout
import Condense.Text.Blank
import Condense.Text.Digit
import Condense.Text.Quoted

/-!
# Reading numbers

The grammar of decimal numbers that all readers share, and the lenient readers of integers and of
floating point numbers: blanks at the ends, digits of any script, a sign, and single underscores
between digits.
-/

namespace Condense

def digitsValue (cs : List Char) : Nat :=
  cs.foldl (fun n c => n * 10 + (c.toNat - 48)) 0

/-- The ASCII digits at the front of a text, and what follows them. -/
def spanDigits (cs : List Char) : List Char × List Char := cs.span Char.isDigit

def takeSign : List Char → Bool × List Char
  | '-' :: cs => (true, cs)
  | '+' :: cs => (false, cs)
  | cs => (false, cs)

/-- The power of ten behind a number's digits: `e`, a sign, digits. -/
def exponentPart? : List Char → Option Int
  | [] => some 0
  | c :: cs =>
    if c == 'e' || c == 'E' then
      let (negative, digits) := takeSign cs
      if digits.isEmpty || !digits.all Char.isDigit then none
      else some (if negative then -(digitsValue digits : Int) else digitsValue digits)
    else none

/-- An unsigned decimal number: digits around an optional point, at least one of them, then an
optional exponent. -/
def decimal? (cs : List Char) : Option Decimal :=
  let (whole, rest) := spanDigits cs
  let (fraction, rest) :=
    match rest with
    | '.' :: tail => spanDigits tail
    | tail => ([], tail)
  if whole.isEmpty && fraction.isEmpty then none
  else (exponentPart? rest).map fun e => ⟨digitsValue (whole ++ fraction), e - fraction.length⟩

def asciiLower (cs : List Char) : List Char := cs.map Char.toLower

/-- A signed decimal number, an infinity, or no number, whatever the case of its letters. -/
def Binary64.read? (cs : List Char) : Option Binary64 :=
  let (negative, body) := takeSign cs
  let name := String.ofList (asciiLower body)
  if name == "inf" || name == "infinity" then some (.infinite negative)
  else if name == "nan" then some .nan
  else (decimal? body).map (Binary64.ofDecimal negative)

/-- Why a text is no number. -/
inductive NumberFault where
  | badInteger (text : Text)
  | badReal (text : Text)
  | tooManyDigits (count : Nat)
  deriving DecidableEq, Repr

def NumberFault.message : NumberFault → Text
  | .badInteger text =>
    "invalid literal for int() with base 10: " ++ (Text.quoted text).take 200
  | .badReal text => "could not convert string to float: " ++ Text.quoted text
  | .tooManyDigits count =>
    "Exceeds the limit (4300 digits) for integer string conversion: value has " ++
      integerText count ++ " digits; use sys.set_int_max_str_digits() to increase the limit"

/-- Digits of any script as ASCII digits, everything else as it is. -/
def normalizeDigits (cs : List Char) : List Char :=
  cs.map fun c =>
    if c.toNat < 0x80 then c
    else match Text.digitValue? c with
      | some n => Char.ofNat (48 + n)
      | none => c

/-- Every underscore stands between two digits. -/
def underscoresBetweenDigits : Option Char → List Char → Bool
  | _, [] => true
  | before, '_' :: cs =>
    (before.map Char.isDigit).getD false &&
      (match cs with | c :: _ => c.isDigit | [] => false) && underscoresBetweenDigits (some '_') cs
  | _, c :: cs => underscoresBetweenDigits (some c) cs

/-- The text less its underscores, if they all stand between digits. -/
def dropUnderscores? (cs : List Char) : Option (List Char) :=
  if underscoresBetweenDigits none cs then some (cs.filter (· != '_')) else none

/-- The characters of a number in a text: white space at the ends does not count, and digits of any
script become ASCII digits. Half of a surrogate pair stands in no number. -/
def numberChars? (t : Text) : Option (List Char) :=
  (Text.trimWith Text.isSpace t).chars?.map normalizeDigits

/-- The digits of an integer and whether it is negative. -/
def integerDigits? (t : Text) : Option (Bool × List Char) := do
  let (negative, body) := takeSign (← numberChars? t)
  let digits ← dropUnderscores? body
  if digits.isEmpty || !digits.all Char.isDigit then none else return (negative, digits)

/-- The lenient reading of an integer. -/
def readInteger (t : Text) : Except NumberFault Int :=
  match integerDigits? t with
  | some (negative, digits) =>
    if digitLimit < digits.length then .error (.tooManyDigits digits.length)
    else .ok (if negative then -(digitsValue digits : Int) else digitsValue digits)
  | none => .error (.badInteger t)

/-- The lenient reading of a floating point number. -/
def readReal (t : Text) : Except NumberFault Binary64 :=
  match ((numberChars? t).bind dropUnderscores?).bind Binary64.read? with
  | some x => .ok x
  | none => .error (.badReal t)

end Condense
