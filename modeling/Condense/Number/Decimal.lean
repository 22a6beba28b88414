import Condense.Number.Binary64

/-!
# Decimal numbers

A decimal number is a whole number of units of a power of ten. `Binary64.ofDecimal` reads one,
rounding correctly; `Binary64.shortest` finds the one with the fewest digits that reads back.
-/

namespace Condense

attribute [local instance (high)] instPowNat

/-- The magnitude `digits * 10 ^ exponent`. -/
structure Decimal where
  digits : Nat
  exponent : Int
  deriving DecidableEq, Repr

namespace Decimal

/-- The count of decimal digits, one for zero. -/
def width (n : Nat) : Nat := (Nat.toDigits 10 n).length

/-- The numerator and the denominator of the magnitude. -/
def ratio (d : Decimal) : Nat × Nat :=
  (d.digits * 10 ^ d.exponent.toNat, 10 ^ (-d.exponent).toNat)

end Decimal

namespace Binary64

/-- The number nearest to `± d`. Magnitudes far outside the range of the format are recognised by
their count of digits alone. -/
def ofDecimal (negative : Bool) (d : Decimal) : Binary64 :=
  if d.digits = 0 then zero negative
  else if 400 < Decimal.width d.digits + d.exponent then .infinite negative
  else if Decimal.width d.digits + d.exponent < -400 then zero negative
  else ofRatio negative d.ratio.1 d.ratio.2

/-- The exponent of the first decimal digit of a positive ratio. -/
def leadingExponent (num den : Nat) : Int :=
  let guess : Int := (Decimal.width num : Int) - Decimal.width den
  if num * 10 ^ (-guess).toNat < den * 10 ^ guess.toNat then guess - 1 else guess

/-- The two decimals of `count` digits next to a positive ratio, the nearer one first; at a tie the
even one. -/
def neighbours (num den : Nat) (count : Nat) : List Decimal :=
  let exponent := leadingExponent num den - count + 1
  let n := num * 10 ^ (-exponent).toNat
  let d := den * 10 ^ exponent.toNat
  let below : Decimal := ⟨n / d, exponent⟩
  let above : Decimal :=
    if n / d + 1 = 10 ^ count then ⟨10 ^ (count - 1), exponent + 1⟩ else ⟨n / d + 1, exponent⟩
  if roundDiv n d = n / d then [below, above] else [above, below]

/-- The ratio of a finite magnitude. -/
def magnitude (significand : Nat) (exponent : Int) : Nat × Nat :=
  (significand * 2 ^ exponent.toNat, 2 ^ (-exponent).toNat)

/-- All digits of a finite magnitude. -/
def exactDecimal (significand : Nat) (exponent : Int) : Decimal :=
  if 0 ≤ exponent then ⟨significand * 2 ^ exponent.toNat, 0⟩
  else ⟨significand * 5 ^ (-exponent).toNat, exponent⟩

/-- The decimal of fewest digits that reads back as the magnitude, and of several the nearest. -/
def shortest (significand : Nat) (exponent : Int) : Decimal :=
  if significand = 0 then ⟨0, 0⟩
  else
    let (num, den) := magnitude significand exponent
    let candidates := (List.range 17).flatMap fun count => neighbours num den (count + 1)
    let readsBack (d : Decimal) : Bool :=
      match ofDecimal false d with
      | .finite _ m e _ => m == significand && e == exponent
      | _ => false
    match candidates.find? readsBack with
    | some d => d
    | none => exactDecimal significand exponent

end Binary64

end Condense
