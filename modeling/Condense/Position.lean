/-!
# Positions

A place in a sequence may be counted from its front or, by a negative number, from its end.
-/

namespace Condense

/-- What a number was used for that is no integer. -/
inductive PositionFault where
  | cut
  | item
  deriving DecidableEq, Repr

def PositionFault.message : PositionFault → String
  | .cut => "slice indices must be integers or None or have an __index__ method"
  | .item => "list indices must be integers or slices, not float"

/-- The number of items before the place that an index names in a sequence of `length` items. -/
def position (index : Int) (length : Nat) : Nat :=
  if 0 ≤ index then min index.toNat length else (length + index).toNat

end Condense
