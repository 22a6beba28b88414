import Condense.Pool.Task

/-!
# Schedules

A pool of calls and the orders in which they may move. `Pool.run` follows any order of moves;
`Pool.startAll`, `Pool.cancelAll` and `Pool.releaseAll` follow the one order in which every call
moves as far as it can before the next one does, and the provider answers the oldest request first.
-/

namespace Condense

/-- Calls that share a world. -/
structure Pool where
  world : World
  tasks : List Task
  /-- The calls that asked the provider, the oldest first. -/
  asked : List Nat := []

/-- A move of one call. -/
inductive Move where
  | step (id : Nat)
  | cancel (id : Nat)
  deriving DecidableEq, Repr

namespace Pool

def update (pool : Pool) (id : Nat) (task : Task) (moved : World × Task) : Pool where
  world := moved.1
  tasks := pool.tasks.set id moved.2
  asked :=
    if moved.2.phase.isAsking && !task.phase.isAsking then pool.asked ++ [id] else pool.asked

def move (pool : Pool) : Move → Pool
  | .step id =>
    match pool.tasks[id]? with
    | some task => pool.update id task (task.step id pool.world)
    | none => pool
  | .cancel id =>
    match pool.tasks[id]? with
    | some task => pool.update id task (task.cancel id pool.world)
    | none => pool

def run (pool : Pool) (moves : List Move) : Pool := moves.foldl move pool

/-- A call that has started can move without the provider. -/
def canMove (pool : Pool) (id : Nat) (task : Task) : Bool :=
  match task.phase with
  | .ready | .asking .. | .finished _ => false
  | .queued _ => task.installed.any fun installed => pool.world.holds installed.lock id
  | _ => true

def nextMove? (pool : Pool) : Option Nat :=
  (pool.tasks.zipIdx.find? fun entry => pool.canMove entry.2 entry.1).map (·.2)

/-- At most `fuel` moves of calls that can move. -/
def settleWithin : Nat → Pool → Pool
  | 0, pool => pool
  | fuel + 1, pool =>
    match pool.nextMove? with
    | some id => settleWithin fuel (pool.move (.step id))
    | none => pool

/-- Moves the calls until every one is done or waits for the provider or for a lock. A call makes
fewer than eight moves. -/
def settle (pool : Pool) : Pool := settleWithin (8 * pool.tasks.length) pool

/-- Starts the calls one after the other. -/
def startAll (pool : Pool) : Pool :=
  (List.range pool.tasks.length).foldl (fun pool id => (pool.move (.step id)).settle) pool

/-- Cancels calls one after the other. -/
def cancelAll (pool : Pool) (ids : List Nat) : Pool :=
  ids.foldl (fun pool id => (pool.move (.cancel id)).settle) pool

/-- The call whose request is the oldest one without an answer. -/
def oldestAsking? (pool : Pool) : Option Nat :=
  pool.asked.find? fun id => (pool.tasks[id]?).any (·.phase.isAsking)

/-- At most `fuel` answers of the provider. -/
def releaseWithin : Nat → Pool → Pool
  | 0, pool => pool
  | fuel + 1, pool =>
    match pool.oldestAsking? with
    | some id => releaseWithin fuel (pool.move (.step id)).settle
    | none => pool

/-- Lets the provider answer until no request is left. Every call makes at most one. -/
def releaseAll (pool : Pool) : Pool := releaseWithin pool.tasks.length pool

end Pool

end Condense
