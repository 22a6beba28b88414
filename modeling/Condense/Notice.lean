import Condense.Number.Quantity
import Condense.Strategy.Kind

/-!
# Notices

What the library reports while it works. A notice is data; its wording is given by `Notice.text`.
-/

namespace Condense

/-- The importance of a notice. -/
inductive Level where
  | debug
  | info
  | warning
  | error
  deriving DecidableEq, Repr

def Level.name : Level → String
  | .debug => "DEBUG"
  | .info => "INFO"
  | .warning => "WARNING"
  | .error => "ERROR"

/-- Something worth reporting. -/
inductive Notice where
  /-- The model returned an empty summary of so many turns. -/
  | blankSummary (turns : Nat)
  | summaryWritten (model : Text) (length : Nat) (completionTokens : Text) (budget : Int)
  | stateUnreadable (path why : Text)
  | readFailed (key agent why : Text)
  | persistFailed (label agent why : Text)
  | thresholdExceeded (agent : Text) (tokens : Nat) (threshold window buffer : Quantity)
    (words : Int)
  | turnLimitExceeded (agent : Text) (since limit : Nat)
  | nothingOld (strategy : StrategyKind) (agent : Text)
  | compressed (strategy : StrategyKind) (agent : Text) (summarized kept before after : Nat)
  | strategyConfigured (agent : Text) (strategy : StrategyKind)
  | strategiesReloaded (agents : Nat)
  | compactionFailed (agent : Text) (strategy : StrategyKind) (why : Text)
  | nowAt (agent : Text) (tokens kept : Nat)
  | windowUnknown (model : Text) (default : Quantity)
  | sourceTooLarge (bytes : Nat)
  | fetchFailed (why : Text)
  | parseFailed (why : Text)
  | entrySkipped (why : Text)
  | modelsLoaded (count : Nat)
  | callError (message : Text)
  | settingsUnreadable (path why : Text)
  | defaultSettings
  | registryUnavailable
  deriving DecidableEq

namespace Notice

def level : Notice → Level
  | .summaryWritten .. | .nothingOld .. | .nowAt .. | .windowUnknown .. | .entrySkipped .. => .debug
  | .thresholdExceeded .. | .turnLimitExceeded .. | .compressed .. | .strategyConfigured ..
  | .strategiesReloaded .. | .modelsLoaded .. => .info
  | .callError .. => .error
  | _ => .warning

def text : Notice → Text
  | .blankSummary turns =>
    "Summarization returned empty text, using fallback summary for " ++ integerText turns ++
      " turns"
  | .summaryWritten model length completionTokens budget =>
    "Summary generated with " ++ model ++ ": " ++ integerText length ++ " chars, " ++
      completionTokens ++ " completion tokens (budget " ++ integerText budget ++ ")"
  | .stateUnreadable path why => "Error reading conversation state " ++ path ++ ": " ++ why
  | .readFailed key agent why =>
    "ContextGuard: failed to read " ++ key ++ " for agent " ++ agent ++ ": " ++ why
  | .persistFailed label agent why =>
    "ContextGuard: failed to persist " ++ label ++ " for agent " ++ agent ++ ": " ++ why
  | .thresholdExceeded agent tokens threshold window buffer words =>
    "ContextGuard [threshold]: threshold exceeded for agent " ++ agent ++ ", summarizing (" ++
      integerText tokens ++ " tokens, threshold " ++ threshold.text ++ ", window " ++
      window.text ++ ", buffer " ++ buffer.text ++ ", max summary words " ++
      integerText words ++ ")"
  | .turnLimitExceeded agent since limit =>
    "ContextGuard [sliding_window]: turn limit exceeded for agent " ++ agent ++ ", summarizing (" ++
      integerText since ++ " turns since last compaction, max " ++ integerText limit ++ ")"
  | .nothingOld strategy agent =>
    "ContextGuard [" ++ strategy.name ++ "]: nothing old enough to summarize for agent " ++ agent
  | .compressed strategy agent summarized kept before after =>
    "ContextGuard [" ++ strategy.name ++ "]: conversation compressed for agent " ++ agent ++ ": " ++
      integerText summarized ++ " old turns summarized, " ++ integerText kept ++ " kept, " ++
      integerText before ++ " -> " ++ integerText after ++ " tokens"
  | .strategyConfigured agent strategy =>
    "ContextGuard: strategy configured for agent " ++ agent ++ ": " ++ strategy.name
  | .strategiesReloaded agents =>
    "ContextGuard: strategies reloaded (" ++ integerText agents ++ " agents)"
  | .compactionFailed agent strategy why =>
    "ContextGuard: compaction failed for agent " ++ agent ++ " (" ++ strategy.name ++
      "), passing through: " ++ why
  | .nowAt agent tokens kept =>
    "ContextGuard: agent " ++ agent ++ " now at ~" ++ integerText tokens ++ " tokens (" ++
      integerText kept ++ " recent turns kept)"
  | .windowUnknown model default =>
    "Model registry: no context window for '" ++ model ++ "', using default " ++ default.text
  | .sourceTooLarge bytes =>
    "Model registry: source too large (" ++ integerText bytes ++ " bytes)"
  | .fetchFailed why => "Model registry: fetch failed: " ++ why
  | .parseFailed why => "Model registry: parse failed: " ++ why
  | .entrySkipped why => "Model registry: skipped malformed entry: " ++ why
  | .modelsLoaded count => "Model registry: loaded " ++ integerText count ++ " models"
  | .callError message => "LLM call error: " ++ message
  | .settingsUnreadable path why => "Failed to load config from " ++ path ++ ": " ++ why
  | .defaultSettings => "Using default configuration."
  | .registryUnavailable => "Model registry unavailable, using default context windows"

end Notice

end Condense
