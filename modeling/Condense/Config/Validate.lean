import Condense.Config.Lenient
import Condense.Config.Schema
import Condense.Text.Case

/-!
# Validation

Settings out of a document. What a document leaves out keeps its default; unknown names are passed
over, except at the top.
-/

namespace Condense

open Lenient

def strategyWords : List (String × StrategyKind) :=
  [StrategyKind.threshold, .slidingWindow].map fun kind => (kind.name, kind)

def GuardSettings.read (members : List (Key × Value)) : Checked GuardSettings :=
  let d : GuardSettings := {}
  (Checked.ok GuardSettings.mk)
    |>.part (setting members "enabled" d.enabled boolean)
    |>.part (setting members "strategy" d.strategy (word strategyWords))
    |>.part (setting members "max_turns" d.maxTurns (atLeast 1))
    |>.part (setting members "context_window_override" d.windowOverride (optional (above 0)))
    |>.part (setting members "summary_model" d.summaryModel (optional text))
    |>.part (setting members "summary_timeout_seconds" d.summaryTimeout positiveReal)

def AgentSettings.read (members : List (Key × Value)) : Checked AgentSettings :=
  let d : AgentSettings := {}
  (Checked.ok AgentSettings.mk)
    |>.part (setting members "model" d.model text)
    |>.part (setting members "context_guard" d.guard (Lenient.members GuardSettings.read))

def CompactionSettings.read (members : List (Key × Value)) : Checked CompactionSettings :=
  let d : CompactionSettings := {}
  (Checked.ok CompactionSettings.mk)
    |>.part (setting members "large_context_window_threshold" d.largeWindowThreshold (above 0))
    |>.part (setting members "large_context_window_buffer" d.largeWindowBuffer (above 0))
    |>.part (setting members "small_context_window_ratio" d.smallWindowRatio properShare)
    |>.part (setting members "recent_window_ratio" d.recentRatio properShare)
    |>.part (setting members "summary_output_ratio" d.summaryRatio wholeShare)
    |>.part (setting members "words_per_token" d.wordsPerToken positiveReal)
    |>.part (setting members "fallback_excerpt_chars" d.excerptChars (above 0))
    |>.part (setting members "sliding_window_recent_ratio" d.slidingRatio properShare)
    |>.part (setting members "sliding_window_min_recent" d.slidingLeast (atLeast 1))

def RegistrySettings.read (members : List (Key × Value)) : Checked RegistrySettings :=
  let d : RegistrySettings := {}
  (Checked.ok RegistrySettings.mk)
    |>.part (setting members "source_url" d.sourceUrl text)
    |>.part (setting members "default_context_window" d.defaultWindow (above 0))
    |>.part (setting members "fetch_timeout_seconds" d.fetchTimeout real)

def ProviderSettings.read (members : List (Key × Value)) : Checked ProviderSettings :=
  let d : ProviderSettings := {}
  (Checked.ok ProviderSettings.mk)
    |>.part (setting members "api_key" d.apiKey text)
    |>.part (setting members "api_base" d.apiBase (optional text))

def ProvidersSettings.read (members : List (Key × Value)) : Checked ProvidersSettings :=
  let provider (name : String) : Checked ProviderSettings :=
    setting members name {} (Lenient.members ProviderSettings.read)
  (Checked.ok ProvidersSettings.mk)
    |>.part (provider "anthropic")
    |>.part (provider "openai")
    |>.part (provider "openrouter")
    |>.part (provider "gemini")
    |>.part (provider "zhipu")
    |>.part (provider "vllm")

/-- Reads the agents, which keep their order. -/
def readAgents : Value → Checked (List (Text × AgentSettings))
  | .dict members =>
    Checked.all (Lenient.members AgentSettings.read)
      (members.map fun member => (member.1.name, member.2))
  | _ => .issue .dictType

namespace Config

def names : List String := ["agents", "providers", "registry", "compaction"]

/-- A key names a part of the configuration, whatever the case of its letters. -/
def spells (part : String) (key : Key) : Bool := Text.lower key.name == part

/-- The value given for a part: under the first spelling of its name. -/
def given? (members : List (Key × Value)) (part : String) : Option Value :=
  (members.find? fun member => spells part member.1).map (·.2)

/-- The members that name no part. -/
def unknown (members : List (Key × Value)) : List (Key × Value) :=
  members.filter fun member => !names.any fun part => spells part member.1

/-- The members under the names of the parts, and then the unknown ones. -/
def settle (members : List (Key × Value)) : List (Key × Value) :=
  (names.filterMap fun part => (given? members part).map fun v => (Key.text part, v)) ++
    unknown members

/-- The issues of unknown names. -/
def extras (members : List (Key × Value)) : List Issue :=
  (unknown members).map fun member => ⟨[member.1.name], .extraForbidden⟩

/-- Reads all settings under the names of their parts. Names that are no words at all end the
reading. -/
def read (members : List (Key × Value)) : Checked Config :=
  if (unknown members).any fun member => Text.hasHalf member.1.name then .issue .stringUnicode
  else
    let d : Config := {}
    ((Checked.ok Config.mk)
      |>.part (setting members "agents" d.agents readAgents)
      |>.part (setting members "providers" d.providers (Lenient.members ProvidersSettings.read))
      |>.part (setting members "registry" d.registry (Lenient.members RegistrySettings.read))
      |>.part (setting members "compaction" d.compaction (Lenient.members CompactionSettings.read)))
      |>.also (extras members)

end Config

end Condense
