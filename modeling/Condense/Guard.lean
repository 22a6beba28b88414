import Condense.Strategy.Compact

/-!
# The guard

Stands in front of every model call and hands the conversation to the strategy of the calling agent.
Compaction is an optimization: if it fails, the call goes on with the turns as they were. Only a
cancellation goes through, and it leaves the turns as they were too.
-/

namespace Condense

/-- A strategy in use, with the number of its lock. -/
structure Installed where
  lock : Nat
  strategy : Strategy

/-- The strategies of the agents. -/
structure Guard where
  strategies : List (Text × Installed) := []

namespace Guard

def strategyFor? (guard : Guard) (agent : Text) : Option Installed :=
  Assoc.get? agent guard.strategies

/-- Installs strategies, of which the first gets the given lock and each later one the next. -/
def install (lock : Nat) (strategies : List (Text × Strategy)) : Guard :=
  ⟨Assoc.ofList (strategies.zipIdx lock |>.map fun entry => (entry.1.1, ⟨entry.2, entry.1.2⟩))⟩

def size (guard : Guard) : Nat := guard.strategies.length

/-- How a call of a strategy looks from outside: the turns, the notices, and whether it was
cancelled. `before` are the turns at the start. -/
def passThrough (agent : Text) (kind : StrategyKind) (before turns : List Turn) :
    Except Fault (Option Compaction) → List Turn × List Notice × Except Fault Unit
  | .ok none => (turns, [], .ok ())
  | .ok (some result) => (turns, [.nowAt agent result.tokensAfter result.kept], .ok ())
  | .error fault =>
    if fault.isCancellation then (before, [], .error fault)
    else (before, [.compactionFailed agent kind fault.message], .ok ())

/-- Compacts the turns before a model call if the agent has a strategy and it finds that due. -/
def beforeModelCall (guard : Guard) (registry : Registry) (call : Call)
    (provider : Summary.Request → Reply) (turns : List Turn) (store : Store) : Run Unit :=
  if turns.isEmpty then { turns, store, outcome := .ok () }
  else match guard.strategyFor? call.agent with
    | none => { turns, store, outcome := .ok () }
    | some installed =>
      let run := installed.strategy.compact registry call provider turns store
      let (turns', notices, outcome) :=
        passThrough call.agent installed.strategy.kind turns run.turns run.outcome
      { turns := turns', store := run.store, notices := run.notices ++ notices, sent := run.sent,
        outcome }

end Guard

end Condense
