import Condense.Strategy.Plan

/-!
# Compaction

A call of a strategy from beginning to end, when nothing else uses the conversation meanwhile.
-/

namespace Condense

/-- What a call leaves behind: the turns, the store, the notices, the request that was sent to the
provider if one was, and its result. -/
structure Run (α : Type) where
  turns : List Turn
  store : Store
  notices : List Notice := []
  sent : Option Summary.Request := none
  outcome : Except Fault α

namespace Job

/-- Keeps a summary and replaces the turns. -/
def conclude (job : Job) (call : Call) (summary : Value) (store : Store) :
    Run (Option Compaction) :=
  let (notices, store) := job.saveSummary call.agent summary store
  let (notices', store) := job.saveTurns call.agent store
  match job.result call summary with
  | .error fault =>
    { turns := job.compacted summary, store, notices := notices ++ notices',
      outcome := .error fault }
  | .ok result =>
    { turns := job.compacted summary, store,
      notices := notices ++ notices' ++ [result.notice call.agent], outcome := .ok (some result) }

/-- Has the summary written and keeps it. -/
def perform (job : Job) (call : Call) (provider : Summary.Request → Reply) (turns : List Turn)
    (store : Store) : Run (Option Compaction) :=
  match Summary.ask job.request job.timeout provider with
  | (notices, sent, .error fault) => { turns, store, notices, sent, outcome := .error fault }
  | (notices, sent, .ok summary) =>
    let run := job.conclude call summary store
    { run with notices := notices ++ run.notices, sent }

end Job

/-- What follows the second look at the record. -/
def Stretch.perform (stretch : Stretch Job) (call : Call) (provider : Summary.Request → Reply)
    (store : Store) : Run (Option Compaction) :=
  match stretch.next with
  | .stop => { turns := stretch.turns, store, notices := stretch.notices, outcome := .ok none }
  | .fail fault =>
    { turns := stretch.turns, store, notices := stretch.notices, outcome := .error fault }
  | .go job =>
    let run := job.perform call provider stretch.turns store
    { run with notices := stretch.notices ++ run.notices }

/-- What follows the first look at the record. -/
def Stretch.confirm (stretch : Stretch Pending) (registry : Registry) (call : Call)
    (provider : Summary.Request → Reply) (store : Store) : Run (Option Compaction) :=
  match stretch.next with
  | .stop => { turns := stretch.turns, store, notices := stretch.notices, outcome := .ok none }
  | .fail fault =>
    { turns := stretch.turns, store, notices := stretch.notices, outcome := .error fault }
  | .go pending =>
    let (notices, store, record) := Record.load call.agent store
    let run := (pending.recheck registry call record stretch.turns).perform call provider store
    { run with notices := stretch.notices ++ notices ++ run.notices }

/-- Compacts the turns of a conversation if the strategy finds it due. -/
def Strategy.compact (strategy : Strategy) (registry : Registry) (call : Call)
    (provider : Summary.Request → Reply) (turns : List Turn) (store : Store) :
    Run (Option Compaction) :=
  match strategy.plan registry call turns with
  | (notices, .error fault) => { turns, store, notices, outcome := .error fault }
  | (notices, .ok plan) =>
    let (notices', store, record) := Record.load call.agent store
    let run := (plan.check call record turns).confirm registry call provider store
    { run with notices := notices ++ notices' ++ run.notices }

end Condense
