import Condense.Number.Layout

/-!
# Quantities

A setting such as a time limit, a share or a price is a whole or a floating point number, or a truth
value that counts as one or zero. It keeps the form in which it was given: whole quantities are
computed with exactly, and as soon as one side is a floating point number the other one becomes one
too.
-/

namespace Condense

/-- A number that keeps the form in which it was given. -/
inductive Quantity where
  | truth (b : Bool)
  | whole (n : Int)
  | real (x : Binary64)
  deriving DecidableEq

namespace Quantity

/-- The quantity as it is shown to a reader. -/
def text : Quantity → Text
  | .truth b => truthText b
  | .whole n => integerText n
  | .real x => x.text

/-- The integer that a quantity was given as. -/
def integer? : Quantity → Option Int
  | .truth b => some (if b then 1 else 0)
  | .whole n => some n
  | .real _ => none

def toReal (q : Quantity) : Except Binary64.TooLarge Binary64 :=
  match q with
  | .real x => .ok x
  | q => Binary64.ofInt (q.integer?.getD 0)

/-- A point of the number line: a number of units of the least positive floating point number, or
one of the ends. -/
inductive Place where
  | start
  | at (units : Int)
  | finish
  deriving DecidableEq, Repr

/-- One point lies in front of another. -/
def Place.lt : Place → Place → Bool
  | .start, .start => false
  | .start, _ => true
  | .at m, .at n => decide (m < n)
  | .at _, .finish => true
  | _, _ => false

/-- The place of a quantity on the number line. What is no number has none. -/
def place? (q : Quantity) : Option Place :=
  match q with
  | .real .nan => none
  | .real (.infinite negative) => some (if negative then .start else .finish)
  | .real x => x.units?.map .at
  | q => q.integer?.map fun n => .at (n * Binary64.unitsInOne)

/-- Numerical order, exact between integers and floating point numbers. -/
def lt (p q : Quantity) : Bool :=
  match p.integer?, q.integer? with
  | some m, some n => decide (m < n)
  | _, _ =>
    match p.place?, q.place? with
    | some a, some b => a.lt b
    | _, _ => false

/-- The greater one of two quantities, the first one where neither is greater. -/
def max (p q : Quantity) : Quantity := if p.lt q then q else p

def sub (p q : Quantity) : Except Binary64.TooLarge Quantity :=
  match p.integer?, q.integer? with
  | some m, some n => .ok (.whole (m - n))
  | _, _ => do
    let x ← p.toReal
    let y ← q.toReal
    return .real (x - y)

/-- The quantity is zero or negative. -/
def isSpent : Quantity → Bool
  | .real x => x.le (Binary64.zero false)
  | q => q.integer?.any fun n => n ≤ 0

@[simp] theorem lt_whole (m n : Int) : lt (.whole m) (.whole n) = decide (m < n) := rfl

@[simp] theorem sub_whole (m n : Int) : sub (.whole m) (.whole n) = .ok (.whole (m - n)) := rfl

end Quantity

end Condense
