import Condense.Config.Load
import Condense.Guard
import Condense.Provider.Routing
import Condense.Registry.Refresh

/-!
# Setup

From a configuration to a provider, a registry and a guard.
-/

namespace Condense

/-- Why a deployment cannot be set up. -/
inductive SetupFault where
  | load (why : LoadFault)
  | noKey
  | timeLimit (why : NumberFault)
  | refresh (why : RefreshFault)
  deriving DecidableEq, Repr

def noKeyMessage : Text :=
  "No API key configured. Set one in ~/.contextguard/config.json under providers.openrouter.apiKey"

namespace AgentSettings

def strategy (agent : AgentSettings) (tuning : Tuning) : Strategy :=
  let settings := Settings.make agent.model agent.guard.summaryModel
    (agent.guard.windowOverride.map .whole) tuning (some (.real agent.guard.summaryTimeout))
  match agent.guard.strategy with
  | .threshold => .threshold settings
  | .slidingWindow => .sliding settings agent.guard.maxTurns

end AgentSettings

namespace Config

def strategies (config : Config) : List (Text × Strategy) :=
  (config.agents.filter fun agent => agent.2.guard.enabled).map fun agent =>
    (agent.1, agent.2.strategy config.compaction.tuning)

def strategyNotices (config : Config) : List Notice :=
  config.strategies.map fun entry => .strategyConfigured entry.1 entry.2.kind

/-- The provider of the first key that is set. The time limit comes from the environment. -/
def provider (config : Config) (timeout : Option Text) : Except SetupFault Provider :=
  match config.apiKey? with
  | none => .error .noKey
  | some key =>
    (Provider.make (some key) config.apiBase? ({} : Provider).defaultModel timeout).mapError
      .timeLimit

end Config

/-- What a deployment is set up from. What is not given comes from the configuration, which in turn
is loaded if it is not given. -/
structure Setup where
  env : Environment := []
  path : Text
  file : Option (List UInt8) := none
  timeout : Option Text := none
  config : Option Config := none
  hasProvider : Bool := false
  registry : Option Registry := none
  refresh : Bool := true
  fetched : Fetched

/-- A guard and the registry that it uses. -/
structure Deployment where
  guard : Guard
  registry : Registry
  /-- The registry is the one that was given. -/
  reused : Bool

/-- How a setup ends, and the address that it asked for. -/
structure SetupRun where
  notices : List Notice
  requested : Option Text := none
  outcome : Except SetupFault Deployment

namespace Setup

def loadConfig (setup : Setup) : List Notice × Except LoadFault Config :=
  match setup.config with
  | some config => ([], .ok config)
  | none => Config.load setup.env setup.path setup.file

/-- The registry. A given one that is empty is no use. -/
def chooseRegistry (setup : Setup) (config : Config) : Registry × Bool :=
  match setup.registry with
  | some registry =>
    if registry.size = 0 then (config.registry.registry, false) else (registry, true)
  | none => (config.registry.registry, false)

/-- There is a provider, or one can be made. -/
def checkProvider (setup : Setup) (config : Config) : Except SetupFault Unit :=
  if setup.hasProvider then .ok () else (config.provider setup.timeout).map fun _ => ()

def build (config : Config) (registry : Registry) (reused : Bool) : List Notice × Deployment :=
  (config.strategyNotices, ⟨Guard.install 0 config.strategies, registry, reused⟩)

/-- Sets a deployment up. A registry that cannot be refreshed is used as it is. -/
def run (setup : Setup) : SetupRun :=
  match setup.loadConfig with
  | (notices, .error why) => { notices, outcome := .error (.load why) }
  | (notices, .ok config) =>
    match setup.checkProvider config with
    | .error why => { notices, outcome := .error why }
    | .ok () =>
      let (registry, reused) := setup.chooseRegistry config
      if setup.refresh then
        let refresh := registry.refresh setup.fetched
        let notices := notices ++ refresh.notices
        match refresh.outcome with
        | .error why =>
          { notices, requested := refresh.requested, outcome := .error (.refresh why) }
        | .ok (replaced, registry) =>
          let (configured, deployment) := build config registry reused
          { notices := notices ++ (if replaced then [] else [.registryUnavailable]) ++ configured,
            requested := refresh.requested, outcome := .ok deployment }
      else
        let (configured, deployment) := build config registry reused
        { notices := notices ++ configured, outcome := .ok deployment }

end Setup

end Condense
