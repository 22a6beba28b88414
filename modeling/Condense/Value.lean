import Condense.Assoc
import Condense.Number.Layout
import Condense.Text.Quoted

/-!
# Values

The data that tools take and return, that a host keeps in a conversation, and that a document holds.
-/

namespace Condense

/-- The key of a member of a dictionary. -/
inductive Key where
  | null
  | bool (b : Bool)
  | int (n : Int)
  | real (x : Binary64)
  | text (t : Text)
  deriving DecidableEq

namespace Key

def ofBool (b : Bool) : Int := if b then 1 else 0

/-- The numerical value in units of the least positive floating point number. -/
def units? : Key → Option Int
  | .bool b => some (ofBool b * Binary64.unitsInOne)
  | .int n => some (n * Binary64.unitsInOne)
  | .real x => x.units?
  | _ => none

/-- Two keys name the same member: texts by their characters, numbers and truth values by their
numerical value. -/
def same : Key → Key → Bool
  | .null, .null => true
  | .text s, .text t => s == t
  | .real (.infinite s), .real (.infinite t) => s == t
  | .bool a, .bool b => a == b
  | .int m, .int n => m == n
  | a, b =>
    match a.units?, b.units? with
    | some m, some n => m == n
    | _, _ => false

instance : BEq Key := ⟨same⟩

/-- Nothing but a text names the same member as the text. -/
theorem beq_text (key : Key) (t : Text) : (key == .text t) = decide (key = .text t) := by
  cases key with
  | text s =>
    have hsame : (Key.text s == Key.text t) = (s == t) := rfl
    rw [hsame, Bool.eq_iff_iff, beq_iff_eq, decide_eq_true_eq, Key.text.injEq]
  | real x => cases x <;> rfl
  | _ => rfl

theorem eq_of_beq_text {t : Text} (key : Key) (h : (key == .text t) = true) : key = .text t := by
  rwa [beq_text, decide_eq_true_eq] at h

/-- A text names the same member as no other key. -/
theorem text_beq (t : Text) (key : Key) : (Key.text t == key) = decide (key = .text t) := by
  cases key with
  | text s =>
    have hsame : (Key.text t == Key.text s) = (t == s) := rfl
    rw [hsame, Bool.eq_iff_iff, beq_iff_eq, decide_eq_true_eq, Key.text.injEq, eq_comm]
  | real x => cases x <;> rfl
  | _ => rfl

end Key

/-- Truth values, numbers, texts, bytes, lists and dictionaries. The members of a dictionary keep
their order. -/
inductive Value where
  | null
  | bool (b : Bool)
  | int (n : Int)
  | real (x : Binary64)
  | text (t : Text)
  | bytes (octets : List UInt8)
  | list (items : List Value)
  | dict (members : List (Key × Value))

instance : Inhabited Value := ⟨.null⟩

namespace Value

/-- The word for the kind of a value. -/
def kind : Value → String
  | .null => "NoneType"
  | .bool _ => "bool"
  | .int _ => "int"
  | .real _ => "float"
  | .text _ => "str"
  | .bytes _ => "bytes"
  | .list _ => "list"
  | .dict _ => "dict"

/-- A value that counts as something: not null, false, zero or empty. -/
def isTruthy : Value → Bool
  | .null => false
  | .bool b => b
  | .int n => n != 0
  | .real x => !x.isZero
  | .text s => !s.isEmpty
  | .bytes octets => !octets.isEmpty
  | .list items => !items.isEmpty
  | .dict members => !members.isEmpty

def ofFields (fields : List (String × Value)) : Value :=
  .dict (fields.map fun field => (.text field.1, field.2))

/-- The member of a dictionary under a textual key. -/
def member? (name : Text) : Value → Option Value
  | .dict members => Assoc.get? (Key.text name) members
  | _ => none

end Value

end Condense
