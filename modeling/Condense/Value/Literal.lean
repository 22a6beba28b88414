import Condense.Value.Depth

/-!
# Literals

A value shown as a literal: texts between quotation marks, members and items in their own order. A
value that is too deep, or that holds an integer with too many digits, cannot be shown.
-/

namespace Condense

def Key.literal : Key → Text
  | .null => "None"
  | .bool b => truthText b
  | .int n => integerText n
  | .real x => x.text
  | .text t => Text.quoted t

/-- The key is an integer with too many digits. -/
def Key.isOverlong : Key → Bool
  | .int n => Condense.isOverlong n
  | _ => false

def Key.name : Key → Text
  | .text t => t
  | key => key.literal

/-- Why a value has no text. -/
inductive Unshown where
  | tooManyDigits
  | tooDeep (why : TooDeep)
  deriving DecidableEq, Repr

def Unshown.message : Unshown → Text
  | .tooManyDigits => overlongMessage
  | .tooDeep why => why.message

namespace Value

mutual

/-- The first thing in a value that cannot be shown: an integer with too many digits, or a bracket
beyond those that may still be opened. -/
def unshown? (room : Nat) : Value → Option Unshown
  | .int n => if isOverlong n then some .tooManyDigits else none
  | .list items => if room = 0 then some (.tooDeep .showing) else itemsUnshown? (room - 1) items
  | .dict members =>
    if room = 0 then some (.tooDeep .showing) else membersUnshown? (room - 1) members
  | _ => none

/-- The first thing in the items that cannot be shown. -/
def itemsUnshown? (room : Nat) : List Value → Option Unshown
  | [] => none
  | v :: vs => (unshown? room v).or (itemsUnshown? room vs)

/-- The first thing in the members that cannot be shown. -/
def membersUnshown? (room : Nat) : List (Key × Value) → Option Unshown
  | [] => none
  | (k, v) :: rest =>
    if k.isOverlong then some .tooManyDigits
    else (unshown? room v).or (membersUnshown? room rest)

end

mutual

def literal : Value → Text
  | .null => "None"
  | .bool b => truthText b
  | .int n => integerText n
  | .real x => x.text
  | .text t => Text.quoted t
  | .bytes octets => Text.quotedBytes octets
  | .list items => "[" ++ Text.join ", " (literals items) ++ "]"
  | .dict members => "\x7b" ++ Text.join ", " (memberLiterals members) ++ "\x7d"

def literals : List Value → List Text
  | [] => []
  | v :: vs => literal v :: literals vs

def memberLiterals : List (Key × Value) → List Text
  | [] => []
  | (k, v) :: rest => (k.literal ++ ": " ++ literal v) :: memberLiterals rest

end

/-- A value as it stands inside a sentence: a text as it is, anything else as a literal. -/
def plain : Value → Text
  | .text t => t
  | v => literal v

end Value

end Condense
