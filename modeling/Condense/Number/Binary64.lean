/-!
# Binary floating point numbers

The 64-bit format as exact data: a finite number is a sign, a significand below `2 ^ 53` and a power
of two, in the one representation that the format allows. All operations are exact up to one
rounding, `ofRatio`, which goes to the nearest number and at a tie to the even significand.
-/

namespace Condense

-- Powers are those of the natural numbers themselves, whatever else a library defines.
attribute [local instance (high)] instPowNat

/-- The significand and the exponent are the format's representation of a magnitude. -/
def Canonical (significand : Nat) (exponent : Int) : Prop :=
  significand < 2 ^ (53 : Nat) ∧ -1074 ≤ exponent ∧ exponent ≤ 971 ∧
    (2 ^ (52 : Nat) ≤ significand ∨ exponent = -1074)

instance (significand : Nat) (exponent : Int) : Decidable (Canonical significand exponent) :=
  inferInstanceAs (Decidable (_ ∧ _ ∧ _ ∧ _))

/-- A number of the format. A finite one is `± significand * 2 ^ exponent`. -/
inductive Binary64 where
  | nan
  | infinite (negative : Bool)
  | finite (negative : Bool) (significand : Nat) (exponent : Int)
      (canonical : Canonical significand exponent)
  deriving DecidableEq

namespace Binary64

/-- Why a number has no integer part. -/
inductive NotIntegral where
  | nan
  | infinite
  deriving DecidableEq, Repr

/-- An integer beyond the largest finite number. -/
inductive TooLarge where
  | tooLarge
  deriving DecidableEq, Repr

def NotIntegral.message : NotIntegral → String
  | .nan => "cannot convert float NaN to integer"
  | .infinite => "cannot convert float infinity to integer"

def TooLarge.message : TooLarge → String
  | .tooLarge => "int too large to convert to float"

def zero (negative : Bool) : Binary64 := .finite negative 0 (-1074) (by decide)

instance : Inhabited Binary64 := ⟨zero false⟩

/-- The quotient to the nearest integer, a tie to the even one. -/
def roundDiv (num den : Nat) : Nat :=
  let q := num / den
  let r := num % den
  if 2 * r < den then q else if den < 2 * r then q + 1 else q + q % 2

/-- The ratio `num / den` in units of `2 ^ exponent`, as a ratio again. -/
def scaled (num den : Nat) (exponent : Int) : Nat × Nat :=
  if 0 ≤ exponent then (num, den * 2 ^ exponent.toNat) else (num * 2 ^ (-exponent).toNat, den)

/-- The exponent at which the ratio's integer part has 53 binary digits, or the least exponent of
the format where it has fewer. -/
def exponentOf (num den : Nat) : Int :=
  let guess : Int := (num.log2 : Int) - den.log2 - 53
  let (n, d) := scaled num den guess
  max (if n / d < 2 ^ (53 : Nat) then guess else guess + 1) (-1074)

/-- A magnitude in the format, infinite beyond its range. -/
def pack (negative : Bool) (significand : Nat) (exponent : Int) : Binary64 :=
  if h : Canonical significand exponent then .finite negative significand exponent h
  else if h : Canonical (significand / 2) (exponent + 1) then
    .finite negative (significand / 2) (exponent + 1) h
  else .infinite negative

/-- The number nearest to `± num / den`, a tie to the even significand. -/
def ofRatio (negative : Bool) (num den : Nat) : Binary64 :=
  if num = 0 then zero negative
  else
    let exponent := exponentOf num den
    let (n, d) := scaled num den exponent
    pack negative (roundDiv n d) exponent

def ofInt (n : Int) : Except TooLarge Binary64 :=
  match ofRatio (n < 0) n.natAbs 1 with
  | .infinite _ => .error .tooLarge
  | x => .ok x

def isZero : Binary64 → Bool
  | .finite _ 0 _ _ => true
  | _ => false

/-- The product, rounded once. -/
def mul : Binary64 → Binary64 → Binary64
  | .nan, _ => .nan
  | _, .nan => .nan
  | .infinite s, .infinite t => .infinite (s != t)
  | .infinite s, .finite t m _ _ => if m = 0 then .nan else .infinite (s != t)
  | .finite s m _ _, .infinite t => if m = 0 then .nan else .infinite (s != t)
  | .finite s m e _, .finite t n f _ =>
    let exponent := e + f
    ofRatio (s != t) (m * n * 2 ^ exponent.toNat) (2 ^ (-exponent).toNat)

instance : Mul Binary64 := ⟨mul⟩

/-- The integer part, toward zero. -/
def truncate : Binary64 → Except NotIntegral Int
  | .nan => .error .nan
  | .infinite _ => .error .infinite
  | .finite negative m e _ =>
    let magnitude : Nat := m * 2 ^ e.toNat / 2 ^ (-e).toNat
    .ok (if negative then -(magnitude : Int) else magnitude)

/-- One, in units of the least positive number. -/
def unitsInOne : Nat := 2 ^ (1074 : Nat)

/-- A finite number in units of the least positive one. -/
def units? : Binary64 → Option Int
  | .finite negative m e _ =>
    let magnitude : Nat := m * 2 ^ (e + 1074).toNat
    some (if negative then -(magnitude : Int) else magnitude)
  | _ => none

/-- The number is written with a minus sign. -/
def isNegative : Binary64 → Bool
  | .nan => false
  | .infinite negative => negative
  | .finite negative .. => negative

/-- The difference, rounded once. Equal numbers differ by positive zero, except that negative zero
less positive zero keeps its sign. -/
def sub : Binary64 → Binary64 → Binary64
  | .nan, _ => .nan
  | _, .nan => .nan
  | .infinite s, .infinite t => if s == t then .nan else .infinite s
  | .infinite s, .finite .. => .infinite s
  | .finite .., .infinite t => .infinite !t
  | x@(.finite ..), y@(.finite ..) =>
    let difference := x.units?.getD 0 - y.units?.getD 0
    if difference = 0 then zero (x.isZero && x.isNegative && !y.isNegative)
    else ofRatio (difference < 0) difference.natAbs unitsInOne

instance : Sub Binary64 := ⟨sub⟩

/-- Numerical order; false as soon as one side is not a number. -/
def lt : Binary64 → Binary64 → Bool
  | .nan, _ => false
  | _, .nan => false
  | .infinite s, .infinite t => s && !t
  | .infinite s, .finite .. => s
  | .finite .., .infinite t => !t
  | x@(.finite ..), y@(.finite ..) =>
    match x.units?, y.units? with
    | some a, some b => a < b
    | _, _ => false

/-- Numerical equality: the two zeros are equal and what is no number equals nothing. -/
def same : Binary64 → Binary64 → Bool
  | .nan, _ => false
  | _, .nan => false
  | .infinite s, .infinite t => s == t
  | x@(.finite ..), y@(.finite ..) => x.units? == y.units?
  | _, _ => false

/-- Numerical order or equality. -/
def le (x y : Binary64) : Bool := lt x y || same x y

def integer? : Binary64 → Option Int
  | .finite negative m e _ =>
    if m * 2 ^ e.toNat % 2 ^ (-e).toNat = 0 then
      let magnitude : Nat := m * 2 ^ e.toNat / 2 ^ (-e).toNat
      some (if negative then -(magnitude : Int) else magnitude)
    else none
  | _ => none

end Binary64

end Condense
