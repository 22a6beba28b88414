import Condense.Number.Quantity
import Condense.Position
import Condense.Registry.Model
import Condense.Tuning
import Condense.Value.Literal

/-!
# Faults

Why a compaction ends without a result.
-/

namespace Condense

/-- Why a compaction ended without a result. -/
inductive Fault where
  /-- A budget cannot be computed. -/
  | budget (why : ShareFault)
  /-- The context window of the model is no number. -/
  | window (why : WindowFault)
  /-- A position in the conversation or in a text is no integer. -/
  | position (why : PositionFault)
  /-- What a tool was given or gave back has no text to be measured. -/
  | unshown (why : Unshown)
  /-- The model did not answer within the time limit. -/
  | timedOut (limit : Option Quantity)
  /-- The model reported an error. -/
  | callFailed (why : Text)
  /-- The answer holds something else where a text or a dictionary should be. -/
  | noAttribute (kind name : String)
  /-- The call was cancelled while the compaction waited for it. -/
  | cancelled (message : Text)
  deriving DecidableEq

namespace Fault

def limitText : Option Quantity → Text
  | some limit => limit.text
  | none => "None"

def message : Fault → Text
  | .budget why => why.message
  | .window why => why.message
  | .position why => why.message
  | .unshown why => why.message
  | .timedOut limit => "summarization timed out after " ++ limitText limit ++ "s"
  | .callFailed why => "summarization LLM call failed: " ++ why
  | .noAttribute kind name => "'" ++ kind ++ "' object has no attribute '" ++ name ++ "'"
  | .cancelled message => message

/-- The failure is a cancellation, which passes through every handler. -/
def isCancellation : Fault → Bool
  | .cancelled _ => true
  | _ => false

end Fault

end Condense
