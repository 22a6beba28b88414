import Condense.Domain.DirectionTable

/-!
# Directions

A label with characters from right to left begins with one of them, holds no letter from left to
right, ends with a letter or a digit, and does not mix two kinds of digits. This is the Bidi rule of
IDNA 2008.
-/

namespace Condense.Domain

/-- The direction of a character. -/
inductive Direction where
  | left
  | right
  | arabic
  | arabicDigit
  | digit
  | mark
  | other
  deriving DecidableEq, Repr

namespace Direction

/-- The direction of a code point that a name may hold. -/
def of (code : Nat) : Direction :=
  if code == 0x2D || code == 0x200C || code == 0x200D then .other
  else if (0x660 ≤ code && code ≤ 0x669) || (0x10D30 ≤ code && code ≤ 0x10D39) then .arabicDigit
  else if Text.inRanges europeanDigitRanges code then .digit
  else if Text.inRanges nonSpacingRanges code then .mark
  else if Text.inRanges rightRanges code then .right
  else if Text.inRanges arabicRanges code then .arabic
  else if Text.inRanges neutralRanges code then .other
  else .left

def isRightLetter (d : Direction) : Bool := d == .right || d == .arabic

/-- A character that makes a label one from right to left. -/
def turns (d : Direction) : Bool := d.isRightLetter || d == .arabicDigit

/-- A letter or a digit that may end a label from right to left. -/
def mayEnd (d : Direction) : Bool := d.turns || d == .digit

end Direction

def directionsAgree (directions : List Direction) : Bool :=
  if directions.any Direction.turns then
    directions.head?.any Direction.isRightLetter &&
      !directions.contains .left &&
      (directions.filter (· != .mark)).getLast?.any Direction.mayEnd &&
      !(directions.contains .arabicDigit && directions.contains .digit)
  else true

/-- A mark, with room of its own or without. -/
def isMark (code : Nat) : Bool :=
  Text.inRanges nonSpacingRanges code || Text.inRanges spacingMarkRanges code

end Condense.Domain
