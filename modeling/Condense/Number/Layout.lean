import Condense.Number.Decimal
import Condense.Text.Basic

/-!
# Decimal texts of numbers

How a floating point number is laid out once its digits are known, and the texts of integers and
truth values.
-/

namespace Condense

/-- The choices of a decimal format: the exponents of the first digit that are written
positionally, and the words for what is no finite number. -/
structure Layout where
  leastPositional : Int
  beyondPositional : Int
  nan : String
  infinity : String

namespace Layout

/-- Numbers as they are shown to a reader. -/
def plain : Layout := ⟨-4, 16, "nan", "inf"⟩

/-- Numbers in a document. -/
def document : Layout := ⟨-4, 16, "NaN", "Infinity"⟩

/-- The exponent of ten: a sign and at least two digits. -/
def exponentText (e : Int) : List Char :=
  let digits := Nat.toDigits 10 e.natAbs
  'e' :: (if e < 0 then '-' else '+') :: (if digits.length < 2 then '0' :: digits else digits)

/-- Digits whose first one has the given exponent. Positional numbers always show a point and a
digit after it; the others show a point only where more than one digit stands. -/
def place (layout : Layout) (digits : List Char) (first : Int) : List Char :=
  if layout.leastPositional ≤ first && first < layout.beyondPositional then
    if first < 0 then '0' :: '.' :: List.replicate (-first - 1).toNat '0' ++ digits
    else
      let whole := first.toNat + 1
      let padded := digits ++ List.replicate (whole - digits.length) '0'
      let fraction := padded.drop whole
      padded.take whole ++ '.' :: (if fraction.isEmpty then ['0'] else fraction)
  else
    match digits with
    | [] => exponentText first
    | [d] => d :: exponentText first
    | d :: rest => d :: '.' :: rest ++ exponentText first

def decimal (layout : Layout) (d : Decimal) : List Char :=
  let digits := Nat.toDigits 10 d.digits
  if d.digits = 0 then ['0', '.', '0']
  else layout.place digits (d.exponent + digits.length - 1)

/-- The text of a number. -/
def chars (layout : Layout) : Binary64 → List Char
  | .nan => layout.nan.toList
  | .infinite negative => (if negative then ['-'] else []) ++ layout.infinity.toList
  | .finite negative m e _ =>
    (if negative then ['-'] else []) ++ layout.decimal (Binary64.shortest m e)

end Layout

/-- The digits of an integer, behind a sign if it is negative. -/
def integerChars (n : Int) : List Char :=
  (if n < 0 then ['-'] else []) ++ Nat.toDigits 10 n.natAbs

def integerText (n : Int) : Text := Text.ofChars (integerChars n)

/-- The most digits that the text of an integer may have. -/
def digitLimit : Nat := 4300

/-- The integer has more digits than a text may have. -/
def isOverlong (n : Int) : Bool := digitLimit < (Nat.toDigits 10 n.natAbs).length

/-- What is said of an integer with too many digits. -/
def overlongMessage : Text :=
  "Exceeds the limit (4300 digits) for integer string conversion; " ++
    "use sys.set_int_max_str_digits() to increase the limit"

/-- A truth value as it is shown to a reader. -/
def truthText (b : Bool) : Text := if b then "True" else "False"

namespace Binary64

/-- The number as it is shown to a reader. -/
def text (x : Binary64) : Text := Text.ofChars (Layout.plain.chars x)

end Binary64

end Condense
