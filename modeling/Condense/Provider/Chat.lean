import Condense.Notice
import Condense.Provider.Answer
import Condense.Provider.Routing

/-!
# Chats

A call of a model through a provider. A failure of the call comes back as an answer that says so, in
which the provider's key does not appear.
-/

namespace Condense

/-- What a model is asked. Messages, length and temperature reach the endpoint as they are. -/
structure ChatRequest where
  messages : Value := .list []
  model : Text := []
  maxTokens : Value := .int 4096
  temperature : Value := .real (Binary64.ofRatio false 7 10)

/-- What reaches the endpoint. -/
structure Sent where
  model : Text
  messages : Value
  maxTokens : Value
  temperature : Value
  timeout : Binary64
  apiBase : Option Text
  apiKey : Option Text

/-- One of the texts that a model offers, and why it ends. -/
structure Choice where
  content : Value
  finishReason : Value

/-- The sizes of prompt and answer as an endpoint counts them, and what it says when it is asked for
one that it has not counted. -/
structure Usage where
  counts : List (Key × Value)
  uncounted : String → Text

/-- What an endpoint returns: the choices, and the sizes if it counts them. -/
structure Completion where
  choices : List Choice
  usage : Option Usage

/-- Why a completion is no answer. -/
inductive CompletionFault where
  | noChoice
  | uncounted (why : Text)
  deriving DecidableEq, Repr

def CompletionFault.message : CompletionFault → Text
  | .noChoice => "list index out of range"
  | .uncounted why => why

/-- How a call of an endpoint ends. -/
inductive Exchange where
  | completion (completion : Completion)
  | failed (why : Text)
  | cancelled (message : Text)

/-- A chat that was cancelled. -/
structure Cancelled where
  message : Text
  deriving DecidableEq, Repr

namespace Completion

def sizeOf (usage : Usage) (name : String) : Except CompletionFault (Key × Value) :=
  match Assoc.get? (Key.text name) usage.counts with
  | some v => .ok (.text name, v)
  | none => .error (.uncounted (usage.uncounted name))

def sizes : Option Usage → Except CompletionFault (List (Key × Value))
  | none => .ok []
  | some usage => ["prompt_tokens", "completion_tokens", "total_tokens"].mapM (sizeOf usage)

/-- The first choice as an answer. A reason that counts as nothing is no reason. -/
def answer (completion : Completion) : Except CompletionFault Answer :=
  match completion.choices with
  | [] => .error .noChoice
  | choice :: _ => do
    let usage ← sizes completion.usage
    let finishReason : Value :=
      if choice.finishReason.isTruthy then choice.finishReason else .text "stop"
    return { content := choice.content, finishReason, usage := .dict usage }

end Completion

namespace Provider

/-- A key of more than eight characters is replaced wherever it occurs. -/
def redact (provider : Provider) (message : Text) : Text :=
  match provider.apiKey with
  | some key => if 8 < key.length then Text.replace key "***" message else message
  | none => message

def failureAnswer (message : Text) : Answer where
  content := .text ("Error calling LLM: " ++ message)
  finishReason := .text "error"

def send (provider : Provider) (request : ChatRequest) : Sent where
  model := provider.resolve request.model
  messages := request.messages
  maxTokens := request.maxTokens
  temperature := request.temperature
  timeout := provider.timeout
  apiBase := given provider.apiBase
  apiKey := given provider.apiKey

def report (provider : Provider) (why : Text) : List Notice × Answer :=
  let message := provider.redact why
  ([.callError message], failureAnswer message)

/-- The answer that an exchange with the endpoint comes to. -/
def receive (provider : Provider) : Exchange → List Notice × Except Cancelled Answer
  | .cancelled message => ([], .error ⟨message⟩)
  | .failed why => (provider.report why).map id .ok
  | .completion completion =>
    match completion.answer with
    | .ok answer => ([], .ok answer)
    | .error why => (provider.report why.message).map id .ok

end Provider

end Condense
