import Condense.Notice
import Condense.Registry.Model

/-!
# Registries

The models whose context windows are known. A model is found by its id, or by the last part of an id
that names a provider in front.
-/

namespace Condense

/-- The context window of a model of which nothing is known, unless set otherwise. -/
def commonWindow : Int := 128000

/-- The known models, and what holds for all others. -/
structure Registry where
  sourceUrl : Text := "https://raw.githubusercontent.com/charmbracelet/crush/main/" ++
    "internal/agent/hyper/provider.json"
  defaultWindow : Quantity := .whole commonWindow
  fetchTimeout : Quantity := .real (Binary64.ofRatio false 15 1)
  models : List (Text × Model) := []

namespace Registry

/-- The table of models by their ids; a model without an id is left out. -/
def table (models : List Model) : List (Text × Model) :=
  Assoc.ofList ((models.filter fun model => !model.id.isEmpty).map fun model => (model.id, model))

def load (registry : Registry) (models : List Model) : Registry :=
  { registry with models := table models }

def size (registry : Registry) : Nat := registry.models.length

/-- The part of a text behind the last slash, if there is a slash in it. -/
def afterLastSlash? (t : Text) : Option Text :=
  if t.contains (.char '/') then some (t.reverse.takeWhile (· != .char '/')).reverse else none

/-- The model of an id, or else of the id without its provider. -/
def get? (registry : Registry) (id : Text) : Option Model :=
  match Assoc.get? id registry.models with
  | some model => some model
  | none =>
    match afterLastSlash? id with
    | some name => Assoc.get? name registry.models
    | none => none

def knownWindow? (registry : Registry) (id : Text) : Except WindowFault (Option Quantity) :=
  if id.isEmpty then .ok none
  else match registry.get? id with
    | some model => model.window?
    | none => .ok none

/-- The context window of a model, the default window where none is known. -/
def window (registry : Registry) (id : Text) : List Notice × Except WindowFault Quantity :=
  match registry.knownWindow? id with
  | .error why => ([], .error why)
  | .ok (some window) => ([], .ok window)
  | .ok none => ([.windowUnknown id registry.defaultWindow], .ok registry.defaultWindow)

end Registry

end Condense
