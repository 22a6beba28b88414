import Condense.Number.Quantity
import Condense.Number.Reading
import Condense.Value.Literal

/-!
# Models

What is known of a model, and how an entry of a published list is read. An entry has numbers where
numbers belong; a model that the host describes itself may have anything there.
-/

namespace Condense

/-- A model with its context window and its prices per million tokens. -/
structure Model where
  id : Text
  name : Value := .text ""
  contextWindow : Value := .int 0
  defaultMaxTokens : Value := .int 0
  costIn : Value := .real (Binary64.zero false)
  costOut : Value := .real (Binary64.zero false)

namespace Model

def toValue (model : Model) : Value :=
  .ofFields [("id", .text model.id), ("name", model.name), ("context_window", model.contextWindow),
    ("default_max_tokens", model.defaultMaxTokens), ("cost_per_1m_in", model.costIn),
    ("cost_per_1m_out", model.costOut)]

/-- The model of an id, of which some fields are given by name. -/
def ofFields (id : Text) (given : String → Option Value) : Model :=
  let d : Model := { id }
  { id
    name := (given "name").getD d.name
    contextWindow := (given "context_window").getD d.contextWindow
    defaultMaxTokens := (given "default_max_tokens").getD d.defaultMaxTokens
    costIn := (given "cost_per_1m_in").getD d.costIn
    costOut := (given "cost_per_1m_out").getD d.costOut }

end Model

/-- The quantity that a value is, if it is a number or a truth value. -/
def Value.quantity? : Value → Option Quantity
  | .bool b => some (.truth b)
  | .int n => some (.whole n)
  | .real x => some (.real x)
  | _ => none

/-- A context window that is no number but a value of another kind. -/
structure WindowFault where
  kind : String
  deriving DecidableEq, Repr

def WindowFault.message (fault : WindowFault) : String :=
  "'>' not supported between instances of '" ++ fault.kind ++ "' and 'int'"

/-- The context window of a model, if it is known to be positive. -/
def Model.window? (model : Model) : Except WindowFault (Option Quantity) :=
  match model.contextWindow.quantity? with
  | some window => .ok (if (Quantity.whole 0).lt window then some window else none)
  | none => .error ⟨model.contextWindow.kind⟩

/-- Why a value is no number. -/
inductive ConversionFault where
  | notIntegral (why : Binary64.NotIntegral)
  | tooLarge (why : Binary64.TooLarge)
  | unreadable (why : NumberFault)
  | integerFrom (kind : String)
  | realFrom (kind : String)
  deriving DecidableEq, Repr

namespace ConversionFault

def message : ConversionFault → Text
  | .notIntegral why => why.message
  | .tooLarge why => why.message
  | .unreadable why => why.message
  | .integerFrom kind =>
    "int() argument must be a string, a bytes-like object or a real number, not '" ++ kind ++ "'"
  | .realFrom kind => "float() argument must be a string or a real number, not '" ++ kind ++ "'"

/-- The number lies beyond the range of the format; any other failure concerns a value that is no
number at all. -/
def isOverflow : ConversionFault → Bool
  | .notIntegral .infinite | .tooLarge _ => true
  | _ => false

end ConversionFault

/-- The integer that a value stands for, without a fraction. -/
def Value.toInteger : Value → Except ConversionFault Int
  | .bool b => .ok (Key.ofBool b)
  | .int n => .ok n
  | .real x => x.truncate.mapError .notIntegral
  | .text t => (readInteger t).mapError .unreadable
  | v => .error (.integerFrom v.kind)

/-- The floating point number that a value stands for. -/
def Value.toReal : Value → Except ConversionFault Binary64
  | .bool b => (Binary64.ofInt (Key.ofBool b)).mapError .tooLarge
  | .int n => (Binary64.ofInt n).mapError .tooLarge
  | .real x => .ok x
  | .text t => (readReal t).mapError .unreadable
  | v => .error (.realFrom v.kind)

namespace Model

/-- The integer under a name, zero where nothing stands. -/
def integerField (members : List (Key × Value)) (name : Text) : Except ConversionFault Int :=
  match Assoc.get? (Key.text name) members with
  | some v => if v.isTruthy then v.toInteger else .ok 0
  | none => .ok 0

/-- The floating point number under a name, zero where nothing stands. -/
def realField (members : List (Key × Value)) (name : Text) : Except ConversionFault Binary64 :=
  match Assoc.get? (Key.text name) members with
  | some v => if v.isTruthy then v.toReal else .ok (Binary64.zero false)
  | none => .ok (Binary64.zero false)

/-- The model that an entry of a published list describes. -/
def ofMembers (members : List (Key × Value)) : Except ConversionFault Model := do
  let contextWindow ← integerField members "context_window"
  let defaultMaxTokens ← integerField members "default_max_tokens"
  let costIn ← realField members "cost_per_1m_in"
  let costOut ← realField members "cost_per_1m_out"
  return {
    id := ((Assoc.get? (Key.text "id") members).getD (.text "")).plain
    name := (Assoc.get? (Key.text "name") members).getD (.text "")
    contextWindow := .int contextWindow
    defaultMaxTokens := .int defaultMaxTokens
    costIn := .real costIn
    costOut := .real costOut }

end Model

end Condense
