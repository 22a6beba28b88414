import Condense.Registry
import Condense.Summary.Request

/-!
# Strategies

A strategy belongs to one agent. It knows the agent's model, by whose context window it is sized,
and the model that writes the summaries.
-/

namespace Condense

/-- What both kinds of strategies are set up with. -/
structure Settings where
  model : Text
  summaryModel : Text
  windowOverride : Option Quantity := none
  tuning : Tuning := {}
  timeout : Option Quantity := none

namespace Settings

/-- Settings in which a summary model that is missing or empty gives way to the agent's model. -/
def make (model : Text) (summaryModel : Option Text) (windowOverride : Option Quantity)
    (tuning : Tuning) (timeout : Option Quantity) : Settings :=
  let summaryModel := match summaryModel with
    | some name => if name.isEmpty then model else name
    | none => model
  { model, summaryModel, windowOverride, tuning, timeout }

/-- The context window of a call: the override if there is one, or else the window of the model that
the call names, or else of the agent's model. -/
def window (settings : Settings) (registry : Registry) (model : Text) :
    List Notice × Except WindowFault Quantity :=
  let known := registry.window (if model.isEmpty then settings.model else model)
  match settings.windowOverride with
  | some window => if (Quantity.whole 0).lt window then ([], .ok window) else known
  | none => known

end Settings

/-- The number of turns after which the sliding window moves, unless set otherwise. -/
def defaultTurnLimit : Nat := 20

/-- When and how the conversation of an agent is compacted. -/
inductive Strategy where
  /-- Once the conversation's tokens reach the window less its buffer. -/
  | threshold (settings : Settings)
  /-- Once more than `limit` turns came since the last compaction. -/
  | slidingWindow (settings : Settings) (limit : Nat) (positive : 0 < limit)

namespace Strategy

/-- A sliding window over a number of turns; a limit that is not positive gives way to the default.
-/
def sliding (settings : Settings) (limit : Int) : Strategy :=
  if h : 0 < limit.toNat then .slidingWindow settings limit.toNat h
  else .slidingWindow settings defaultTurnLimit (by decide)

def kind : Strategy → StrategyKind
  | .threshold _ => .threshold
  | .slidingWindow .. => .slidingWindow

def settings : Strategy → Settings
  | .threshold settings => settings
  | .slidingWindow settings .. => settings

end Strategy

end Condense
