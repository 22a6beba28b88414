/-!
# Ranges of code points

A property of characters is kept as a list of closed ranges of code points, and a change of
case as a list of runs.
-/

namespace Condense.Text

/-- A code point lies in one of the ranges. -/
def inRanges (ranges : List (Nat × Nat)) (code : Nat) : Bool :=
  ranges.any fun range => range.1 ≤ code && code ≤ range.2

/-- Every `step`-th code point from `first` to `last` moves by `shift`. -/
structure Run where
  first : Nat
  last : Nat
  step : Nat
  shift : Int

/-- The run moves this code point. -/
def Run.covers (run : Run) (code : Nat) : Bool :=
  run.first ≤ code && code ≤ run.last && (code - run.first) % run.step == 0

/-- The image of a code point under the first run that covers it, or the code point itself. -/
def moved (runs : List Run) (code : Nat) : Nat :=
  match runs.find? (·.covers code) with
  | some run => (code + run.shift).toNat
  | none => code

end Condense.Text
