import Condense.Pool.Schedule

/-!
# Sessions

A host with its conversations and stores, a guard, and a provider that answers from a script.
-/

namespace Condense

/-- A host. -/
structure Session where
  world : World
  guard : Guard := {}
  /-- The lock of the next strategy that is installed. -/
  nextLock : Nat := 0

/-- A call as the host makes it: of which agent, on which conversation and store. -/
structure Errand where
  call : Call
  list : Text
  store : Text

namespace Session

def install (session : Session) (strategies : List (Text × Strategy)) : Session :=
  { session with
    guard := Guard.install session.nextLock strategies
    nextLock := session.nextLock + strategies.length }

/-- Installs strategies while the host is running. -/
def swap (session : Session) (strategies : List (Text × Strategy)) : Session :=
  let session := session.install strategies
  { session with world := session.world.report [.strategiesReloaded session.guard.size] }

/-- Takes over what a call left behind. -/
def absorb {α : Type} (session : Session) (errand : Errand) (run : Run α) : Session :=
  let world := (session.world.setTurns errand.list run.turns).setStore errand.store run.store
  let world := world.report run.notices
  { session with
    world := match run.sent with
      | some request => world.send request
      | none => world }

def call (session : Session) (errand : Errand) : Session × Except Fault Unit :=
  let run := session.guard.beforeModelCall session.world.registry errand.call
    (fun _ => session.world.nextReply) (session.world.turns errand.list)
    (session.world.store errand.store)
  (session.absorb errand run, run.outcome)

/-- Makes a call of the agent's strategy by itself; there is no result if the agent has none. -/
def compact (session : Session) (errand : Errand) :
    Session × Option (Except Fault (Option Compaction)) :=
  match session.guard.strategyFor? errand.call.agent with
  | none => (session, none)
  | some installed =>
    let run := installed.strategy.compact session.world.registry errand.call
      (fun _ => session.world.nextReply) (session.world.turns errand.list)
      (session.world.store errand.store)
    (session.absorb errand run, some run.outcome)

def task (session : Session) (errand : Errand) (guarded : Bool) : Task where
  call := errand.call
  list := errand.list
  store := errand.store
  installed := session.guard.strategyFor? errand.call.agent
  guarded := guarded

def pool (session : Session) (errands : List (Errand × Bool)) : Pool where
  world := { session.world with lines := [] }
  tasks := errands.map fun errand => session.task errand.1 errand.2

end Session

end Condense
