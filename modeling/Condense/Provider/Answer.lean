import Condense.Value.Literal

/-!
# Answers

How a call of a provider ends. The endpoint is not bound to any form, so that anything may stand
where a text is expected.
-/

namespace Condense

/-- What a model answers. -/
structure Answer where
  content : Value := .null
  finishReason : Value := .text "stop"
  usage : Value := .dict []

namespace Answer

/-- The answer reports a failure. -/
def isError (answer : Answer) : Bool :=
  match answer.finishReason with
  | .text reason => reason == "error"
  | _ => false

/-- The size of the answer in tokens as the provider reports it. -/
def completionTokens (usage : List (Key × Value)) : Text :=
  ((Assoc.get? (Key.text "completion_tokens") usage).getD (.int 0)).plain

end Answer

/-- How a call of a provider ends. -/
inductive Reply where
  | answer (answer : Answer)
  | failed (why : Text)
  | timedOut
  | cancelled (message : Text)
  /-- The provider never answers. -/
  | silent

end Condense
