import Condense.Number.Reading
import Condense.Text.Case
import Condense.Text.Search

/-!
# Routing

The names under which models are called. A provider's key and address decide which route all calls
take; on the way, the name of a model gets the prefixes that the route expects.
-/

namespace Condense

/-- A provider of models. -/
structure Provider where
  apiKey : Option Text := none
  apiBase : Option Text := none
  defaultModel : Text := "anthropic/claude-opus-4-5"
  /-- The seconds that a call may take. -/
  timeout : Binary64 := Binary64.ofRatio false 120 1

namespace Provider

def given (t : Option Text) : Option Text := t.filter fun t => !t.isEmpty

/-- All calls go through OpenRouter: the key or the address says so. -/
def isOpenRouter (provider : Provider) : Bool :=
  (given provider.apiKey).any (Text.startsWith "sk-or-") ||
    (given provider.apiBase).any (Text.holds "openrouter")

/-- Calls go to an address of the deployment's own. -/
def isCustom (provider : Provider) : Bool :=
  (given provider.apiBase).isSome && !provider.isOpenRouter

/-- A name holds a word, whatever the case of its letters. -/
def mentions (word name : Text) : Bool := Text.holds word (Text.lower name)

/-- The model's name says which company's it is, and no route is named. -/
def needsZhipu (model : Text) : Bool :=
  (mentions "glm" model || mentions "zhipu" model) &&
    !(Text.startsWith "zhipu/" model || Text.startsWith "zai/" model ||
      Text.startsWith "openrouter/" model)

/-- A Gemini model that does not name its route. -/
def needsGemini (model : Text) : Bool :=
  mentions "gemini" model && !Text.startsWith "gemini/" model

def resolve (provider : Provider) (model : Text) : Text :=
  let model := if model.isEmpty then provider.defaultModel else model
  if provider.isOpenRouter && !Text.startsWith "openrouter/" model then "openrouter/" ++ model
  else
    let model := if needsZhipu model then "zhipu/" ++ model else model
    if provider.isCustom then "hosted_vllm/" ++ model
    else if needsGemini model then "gemini/" ++ model
    else model

/-- A provider whose time limit is given as a text. -/
def make (apiKey apiBase : Option Text) (defaultModel : Text) (timeout : Option Text) :
    Except NumberFault Provider := do
  let timeout ← readReal (timeout.getD "120")
  return { apiKey, apiBase, defaultModel, timeout }

end Provider

end Condense
