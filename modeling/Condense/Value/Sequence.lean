import Condense.Value

/-!
# Sequences

A list is a sequence of its items, a dictionary of its keys, and a text of its code points.
-/

namespace Condense

def Key.toValue : Key → Value
  | .null => .null
  | .bool b => .bool b
  | .int n => .int n
  | .real x => .real x
  | .text t => .text t

def Value.letters (t : Text) : List Value := t.map fun p => .text [p]

/-- The items of a value that stands for a sequence. -/
def Value.sequence? : Value → Option (List Value)
  | .text t => some (letters t)
  | .list items => some items
  | .dict members => some (members.map fun member => member.1.toValue)
  | _ => none

end Condense
