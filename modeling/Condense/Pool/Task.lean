import Condense.Guard

/-!
# Concurrent calls

Several calls share conversations, stores, locks and a provider. A call runs without interruption up
to its next wait; `Task.step` is one wait of a call together with the stretch of work behind it. The
calls that want a strategy's lock stand in line, and the first of them holds it.
-/

namespace Condense

/-- What concurrent calls share. -/
structure World where
  registry : Registry := {}
  /-- The conversations by name. -/
  lists : List (Text × List Turn) := []
  /-- The stores by name. -/
  stores : List (Text × Store) := []
  /-- The calls that stand in line for each lock. -/
  lines : List (Nat × List Nat) := []
  /-- The replies that the provider still has in store. -/
  script : List Reply := []
  /-- The reply to every call beyond the script. -/
  otherwise : Reply := .silent
  /-- The requests that reached the provider. -/
  sent : List Summary.Request := []
  notices : List Notice := []

namespace World

def turns (world : World) (name : Text) : List Turn := (Assoc.get? name world.lists).getD []

def setTurns (world : World) (name : Text) (turns : List Turn) : World :=
  { world with lists := Assoc.put name turns world.lists }

def store (world : World) (name : Text) : Store := (Assoc.get? name world.stores).getD .empty

def setStore (world : World) (name : Text) (store : Store) : World :=
  { world with stores := Assoc.put name store world.stores }

/-- The calls that stand in line for a lock; the first one holds it. -/
def line (world : World) (lock : Nat) : List Nat := (Assoc.get? lock world.lines).getD []

/-- A call gets in line for a lock. -/
def enter (world : World) (lock id : Nat) : World :=
  { world with lines := Assoc.put lock (world.line lock ++ [id]) world.lines }

/-- A call gives a lock back, or gives up waiting for it. -/
def leave (world : World) (lock id : Nat) : World :=
  { world with lines := Assoc.put lock ((world.line lock).filter (· != id)) world.lines }

def holds (world : World) (lock id : Nat) : Bool := (world.line lock).head? == some id

def report (world : World) (notices : List Notice) : World :=
  { world with notices := world.notices ++ notices }

def nextReply (world : World) : Reply := world.script.headD world.otherwise

/-- A request reaches the provider. -/
def send (world : World) (request : Summary.Request) : World :=
  { world with sent := world.sent ++ [request], script := world.script.tail }

def load (world : World) (name agent : Text) : World × Record :=
  let (notices, store, record) := Record.load agent (world.store name)
  ((world.setStore name store).report notices, record)

end World

/-- Where a call stands. -/
inductive Phase where
  | ready
  | loading (plan : Plan)
  | queued (pending : Pending)
  | reloading (pending : Pending)
  | asking (job : Job) (reply : Reply)
  | saving (job : Job) (summary : Value)
  | counting (job : Job) (summary : Value)
  | finished (outcome : Except Fault (Option Compaction))

namespace Phase

def isReady : Phase → Bool
  | .ready => true
  | _ => false

def isAsking : Phase → Bool
  | .asking .. => true
  | _ => false

def isFinished : Phase → Bool
  | .finished _ => true
  | _ => false

end Phase

/-- A call among others: of a strategy by itself, or of the guard. -/
structure Task where
  call : Call
  list : Text
  store : Text
  installed : Option Installed
  guarded : Bool
  /-- The turns when the call started. -/
  before : List Turn := []
  phase : Phase := .ready

namespace Task

/-- Ends a call. The lock becomes free, and the guard has the last word about the turns. -/
def finish (task : Task) (id : Nat) (world : World) (outcome : Except Fault (Option Compaction)) :
    World × Task :=
  match task.installed with
  | none => (world, { task with phase := .finished (.ok none) })
  | some installed =>
    let world := world.leave installed.lock id
    if task.guarded then
      let (turns, notices, result) := Guard.passThrough task.call.agent installed.strategy.kind
        task.before (world.turns task.list) outcome
      ((world.setTurns task.list turns).report notices,
        { task with phase := .finished (result.map fun _ => none) })
    else (world, { task with phase := .finished outcome })

/-- Replaces the turns and ends a call that compacted. -/
def conclude (task : Task) (id : Nat) (world : World) (job : Job) (summary : Value) :
    World × Task :=
  let world := world.setTurns task.list (job.compacted summary)
  match job.result task.call summary with
  | .error fault => task.finish id world (.error fault)
  | .ok result =>
    task.finish id (world.report [result.notice task.call.agent]) (.ok (some result))

/-- Starts a call: it runs up to the first load of its record. -/
def start (task : Task) (id : Nat) (world : World) : World × Task :=
  let turns := world.turns task.list
  let task := { task with before := turns }
  match task.installed with
  | none => task.finish id world (.ok none)
  | some installed =>
    if task.guarded && turns.isEmpty then (world, { task with phase := .finished (.ok none) })
    else
      let (notices, plan) := installed.strategy.plan world.registry task.call turns
      let world := world.report notices
      match plan with
      | .error fault => task.finish id world (.error fault)
      | .ok plan => (world, { task with phase := .loading plan })

/-- Asks the provider for a summary, unless the time limit rules that out. -/
def ask (task : Task) (id : Nat) (world : World) (job : Job) : World × Task :=
  match Summary.refused? job.timeout with
  | some fault => task.finish id world (.error fault)
  | none => (world.send job.request, { task with phase := .asking job world.nextReply })

/-- One wait of a call and the work behind it. A call that cannot go on stays where it is. -/
def step (task : Task) (id : Nat) (world : World) : World × Task :=
  match task.phase with
  | .ready => task.start id world
  | .loading plan =>
    let (world, record) := world.load task.store task.call.agent
    let stretch := plan.check task.call record (world.turns task.list)
    let world := (world.setTurns task.list stretch.turns).report stretch.notices
    match stretch.next with
    | .stop => task.finish id world (.ok none)
    | .fail fault => task.finish id world (.error fault)
    | .go pending =>
      let world := match task.installed with
        | some installed => world.enter installed.lock id
        | none => world
      (world, { task with phase := .queued pending })
  | .queued pending =>
    if (task.installed.any fun installed => world.holds installed.lock id) then
      (world, { task with phase := .reloading pending })
    else (world, task)
  | .reloading pending =>
    let (world, record) := world.load task.store task.call.agent
    let stretch := pending.recheck world.registry task.call record (world.turns task.list)
    let world := (world.setTurns task.list stretch.turns).report stretch.notices
    match stretch.next with
    | .stop => task.finish id world (.ok none)
    | .fail fault => task.finish id world (.error fault)
    | .go job => task.ask id world job
  | .asking job reply =>
    let (notices, summary) := job.request.receive job.timeout reply
    let world := world.report notices
    match summary with
    | .error fault => task.finish id world (.error fault)
    | .ok summary => (world, { task with phase := .saving job summary })
  | .saving job summary =>
    let (notices, store) := job.saveSummary task.call.agent summary (world.store task.store)
    let world := (world.setStore task.store store).report notices
    match job.turnCount with
    | some _ => (world, { task with phase := .counting job summary })
    | none => task.conclude id world job summary
  | .counting job summary =>
    let (notices, store) := job.saveTurns task.call.agent (world.store task.store)
    task.conclude id ((world.setStore task.store store).report notices) job summary
  | .finished _ => (world, task)

/-- Cancels a call at its wait. What is being written at that moment is written nonetheless. -/
def cancel (task : Task) (id : Nat) (world : World) : World × Task :=
  let fault : Fault := .cancelled []
  match task.phase with
  | .finished _ => (world, task)
  | .ready => (world, { task with phase := .finished (.error fault) })
  | .saving job summary =>
    let (notices, store) := job.saveSummary task.call.agent summary (world.store task.store)
    task.finish id ((world.setStore task.store store).report notices) (.error fault)
  | .counting job _ =>
    let (notices, store) := job.saveTurns task.call.agent (world.store task.store)
    task.finish id ((world.setStore task.store store).report notices) (.error fault)
  | _ => task.finish id world (.error fault)

end Task

end Condense
