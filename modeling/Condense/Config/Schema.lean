import Condense.Strategy.Basic

/-!
# Configuration

The settings of a deployment: its agents, the keys of its providers, the registry of models, and the
constants of compaction.
-/

namespace Condense

/-- A fraction as a floating point number. -/
def ratio (num den : Nat) : Binary64 := Binary64.ofRatio false num den

/-- How the conversation of an agent is compacted. -/
structure GuardSettings where
  enabled : Bool := true
  strategy : StrategyKind := .threshold
  maxTurns : Int := 20
  windowOverride : Option Int := none
  summaryModel : Option Text := none
  summaryTimeout : Binary64 := ratio 120 1
  deriving DecidableEq

structure AgentSettings where
  model : Text := "anthropic/claude-opus-4-5"
  guard : GuardSettings := {}
  deriving DecidableEq

/-- The constants of compaction. -/
structure CompactionSettings where
  largeWindowThreshold : Int := 200000
  largeWindowBuffer : Int := 20000
  smallWindowRatio : Binary64 := ratio 20 100
  recentRatio : Binary64 := ratio 20 100
  summaryRatio : Binary64 := ratio 50 100
  wordsPerToken : Binary64 := ratio 75 100
  excerptChars : Int := 200
  slidingRatio : Binary64 := ratio 30 100
  slidingLeast : Int := 3
  deriving DecidableEq

/-- The registry of models. -/
structure RegistrySettings where
  sourceUrl : Text := ({} : Registry).sourceUrl
  defaultWindow : Int := commonWindow
  fetchTimeout : Binary64 := ratio 15 1
  deriving DecidableEq

/-- The key of a provider, and its address if it is not the usual one. -/
structure ProviderSettings where
  apiKey : Text := []
  apiBase : Option Text := none
  deriving DecidableEq

structure ProvidersSettings where
  anthropic : ProviderSettings := {}
  openai : ProviderSettings := {}
  openrouter : ProviderSettings := {}
  gemini : ProviderSettings := {}
  zhipu : ProviderSettings := {}
  vllm : ProviderSettings := {}
  deriving DecidableEq

/-- The settings of a deployment. -/
structure Config where
  agents : List (Text × AgentSettings) := []
  providers : ProvidersSettings := {}
  registry : RegistrySettings := {}
  compaction : CompactionSettings := {}
  deriving DecidableEq

/-- The constants in the form in which strategies use them. -/
def CompactionSettings.tuning (settings : CompactionSettings) : Tuning where
  largeWindowThreshold := .whole settings.largeWindowThreshold
  largeWindowBuffer := .whole settings.largeWindowBuffer
  smallWindowRatio := .real settings.smallWindowRatio
  recentRatio := .real settings.recentRatio
  summaryRatio := .real settings.summaryRatio
  wordsPerToken := .real settings.wordsPerToken
  excerptChars := .whole settings.excerptChars
  slidingRatio := .real settings.slidingRatio
  slidingLeast := .whole settings.slidingLeast

def RegistrySettings.registry (settings : RegistrySettings) : Registry where
  sourceUrl := settings.sourceUrl
  defaultWindow := .whole settings.defaultWindow
  fetchTimeout := .real settings.fetchTimeout

def Value.ofOption : Option Text → Value
  | some t => .text t
  | none => .null

def GuardSettings.toValue (settings : GuardSettings) : Value :=
  .ofFields [
    ("enabled", .bool settings.enabled),
    ("strategy", .text settings.strategy.name),
    ("max_turns", .int settings.maxTurns),
    ("context_window_override", match settings.windowOverride with
      | some n => .int n
      | none => .null),
    ("summary_model", .ofOption settings.summaryModel),
    ("summary_timeout_seconds", .real settings.summaryTimeout)]

def AgentSettings.toValue (settings : AgentSettings) : Value :=
  .ofFields [("model", .text settings.model), ("context_guard", settings.guard.toValue)]

def CompactionSettings.toValue (settings : CompactionSettings) : Value :=
  .ofFields [
    ("large_context_window_threshold", .int settings.largeWindowThreshold),
    ("large_context_window_buffer", .int settings.largeWindowBuffer),
    ("small_context_window_ratio", .real settings.smallWindowRatio),
    ("recent_window_ratio", .real settings.recentRatio),
    ("summary_output_ratio", .real settings.summaryRatio),
    ("words_per_token", .real settings.wordsPerToken),
    ("fallback_excerpt_chars", .int settings.excerptChars),
    ("sliding_window_recent_ratio", .real settings.slidingRatio),
    ("sliding_window_min_recent", .int settings.slidingLeast)]

def RegistrySettings.toValue (settings : RegistrySettings) : Value :=
  .ofFields [
    ("source_url", .text settings.sourceUrl),
    ("default_context_window", .int settings.defaultWindow),
    ("fetch_timeout_seconds", .real settings.fetchTimeout)]

def ProviderSettings.toValue (settings : ProviderSettings) : Value :=
  .ofFields [("api_key", .text settings.apiKey), ("api_base", .ofOption settings.apiBase)]

def ProvidersSettings.toValue (settings : ProvidersSettings) : Value :=
  .ofFields [
    ("anthropic", settings.anthropic.toValue),
    ("openai", settings.openai.toValue),
    ("openrouter", settings.openrouter.toValue),
    ("gemini", settings.gemini.toValue),
    ("zhipu", settings.zhipu.toValue),
    ("vllm", settings.vllm.toValue)]

/-- The members of the dictionary of all settings. -/
def Config.members (config : Config) : List (Key × Value) := [
  (.text "agents", .dict (config.agents.map fun agent => (.text agent.1, agent.2.toValue))),
  (.text "providers", config.providers.toValue),
  (.text "registry", config.registry.toValue),
  (.text "compaction", config.compaction.toValue)]

namespace Config

def given (t : Text) : Option Text := if t.isEmpty then none else some t

/-- The first key that is set. -/
def apiKey? (config : Config) : Option Text :=
  let providers := config.providers
  [providers.openrouter, providers.anthropic, providers.openai, providers.gemini, providers.zhipu,
    providers.vllm].findSome? fun provider => given provider.apiKey

/-- The address that goes with OpenRouter if no other is set. -/
def openRouterBase : Text := "https://openrouter.ai/api/v1"

/-- The address that calls go to, if it is not the usual one. -/
def apiBase? (config : Config) : Option Text :=
  let providers := config.providers
  if !providers.openrouter.apiKey.isEmpty then
    some ((providers.openrouter.apiBase.bind given).getD openRouterBase)
  else if !providers.zhipu.apiKey.isEmpty then providers.zhipu.apiBase
  else providers.vllm.apiBase.bind given

end Config

end Condense
