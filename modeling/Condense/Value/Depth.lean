import Condense.Value

/-!
# Depth of values

Lists and dictionaries may stand inside one another only so many times. Whoever follows a value into
its depth, to read, write, show or rename it, gives up beyond a limit.
-/

namespace Condense

/-- What was being done when a value proved too deep. -/
inductive TooDeep where
  | readingList
  | readingDict
  | writing
  | showing
  | following
  deriving DecidableEq, Repr

def TooDeep.message : TooDeep → String
  | .readingList =>
    "maximum recursion depth exceeded while decoding a JSON array from a unicode string"
  | .readingDict =>
    "maximum recursion depth exceeded while decoding a JSON object from a unicode string"
  | .writing => "maximum recursion depth exceeded while encoding a JSON object"
  | .showing => "maximum recursion depth exceeded while getting the repr of an object"
  | .following => "maximum recursion depth exceeded"

/-- The number of lists and dictionaries that may stand inside one another. -/
def depthLimit : Nat := 980

namespace Value

mutual

/-- More than `room` lists and dictionaries stand inside one another. -/
def exceeds (room : Nat) : Value → Bool
  | .list items => room == 0 || itemsExceed (room - 1) items
  | .dict members => room == 0 || membersExceed (room - 1) members
  | _ => false

/-- In one of the items more than `room` lists and dictionaries stand inside one another. -/
def itemsExceed (room : Nat) : List Value → Bool
  | [] => false
  | v :: vs => exceeds room v || itemsExceed room vs

/-- In one of the members more than `room` lists and dictionaries stand inside one another. -/
def membersExceed (room : Nat) : List (Key × Value) → Bool
  | [] => false
  | (_, v) :: rest => exceeds room v || membersExceed room rest

end

end Value

end Condense
