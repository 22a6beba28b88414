import Condense.Split.Boundary
import Condense.State.Record
import Condense.Strategy.Basic
import Condense.Summary.Leading

/-!
# Plans

A compaction waits several times: for its record, for the strategy's lock, for the record again, for
the summary, and for the summary to be kept. This module holds what happens between those waits,
each stretch as a function of the turns and of what the wait brought.
-/

namespace Condense

/-- The call of a model that is about to be made. -/
structure Call where
  agent : Text
  system : Text := []
  model : Text := []

/-- A compaction that took place. -/
structure Compaction where
  strategy : StrategyKind
  summary : Value
  tokensBefore : Nat
  tokensAfter : Nat
  summarized : Nat
  kept : Nat

/-- How a stretch of work ends: nothing has to be done, the compaction fails, or it goes on. -/
inductive Next (α : Type) where
  | stop
  | fail (fault : Fault)
  | go (value : α)

/-- The turns and the notices after a stretch of work, and how it ends. -/
structure Stretch (α : Type) where
  turns : List Turn
  notices : List Notice
  next : Next α

/-- The limits that the threshold strategy computes for a call. -/
structure Limits where
  window : Quantity
  buffer : Quantity
  /-- The tokens at which a compaction is due. -/
  threshold : Quantity

/-- What a strategy fixes before it first looks at the record. -/
inductive Plan where
  | threshold (settings : Settings) (limits : Limits)
  | slidingWindow (settings : Settings) (limit turnCount : Nat)

/-- A compaction that seems due and waits for the lock. The threshold strategy remembers the summary
and the tokens that it saw. -/
inductive Pending where
  | threshold (settings : Settings) (limits : Limits) (seen : Text) (tokens : Nat)
  | slidingWindow (settings : Settings) (limit turnCount : Nat)

/-- A compaction that has been decided on: the request for the summary, the turns that stay, and
what is to be kept in the record. -/
structure Job where
  kind : StrategyKind
  request : Summary.Request
  timeout : Option Quantity
  kept : List Turn
  tokensBefore : Nat
  /-- The tokens that the summary answers. -/
  answered : Nat
  /-- The number of turns at the compaction, where the strategy counts turns. -/
  turnCount : Option Nat

/-- The limits below a context window. -/
def Limits.of (tuning : Tuning) (window : Quantity) : Except Fault Limits := do
  let buffer ← (tuning.buffer window).mapError .budget
  let threshold ← (window.sub buffer).mapError fun why => .budget (.count why)
  return ⟨window, buffer, threshold⟩

/-- Fixes what does not depend on the record. -/
def Strategy.plan (strategy : Strategy) (registry : Registry) (call : Call) (turns : List Turn) :
    List Notice × Except Fault Plan :=
  match strategy with
  | .threshold settings =>
    let (notices, window) := settings.window registry call.model
    (notices, do
      let window ← window.mapError .window
      let limits ← Limits.of settings.tuning window
      return .threshold settings limits)
  | .slidingWindow settings limit _ => ([], .ok (.slidingWindow settings limit turns.length))

/-- The turns that came since a compaction. A conversation that is shorter than it was then has been
started anew. -/
def turnsSince (turnCount turnsAt : Nat) : Nat :=
  if turnCount < turnsAt then turnCount else turnCount - turnsAt

/-- The tokens of a conversation, if it can be measured. -/
def measure (call : Call) (turns : List Turn) : Except Fault Nat :=
  (conversationTokens turns call.system).mapError .unshown

/-- So many tokens lie below a limit. -/
def staysBelow (tokens : Nat) (limit : Quantity) : Bool := (Quantity.whole tokens).lt limit

/-- Decides from the record whether a compaction is due, before the lock is taken. -/
def Plan.check (plan : Plan) (call : Call) (record : Record) (turns : List Turn) :
    Stretch Pending :=
  match plan with
  | .threshold settings limits =>
    let turns := Summary.inject record.summary turns
    match measure call turns with
    | .error fault => ⟨turns, [], .fail fault⟩
    | .ok tokens =>
      if staysBelow tokens limits.threshold then ⟨turns, [], .stop⟩
      else match settings.tuning.summarySize limits.buffer with
        | .error why => ⟨turns, [], .fail (.budget why)⟩
        | .ok size =>
          ⟨turns,
            [.thresholdExceeded call.agent tokens limits.threshold limits.window limits.buffer
              size.words],
            .go (.threshold settings limits record.summary tokens)⟩
  | .slidingWindow settings limit turnCount =>
    let since := turnsSince turnCount record.turnsAt
    if since ≤ limit then ⟨Summary.inject record.summary turns, [], .stop⟩
    else ⟨turns, [.turnLimitExceeded call.agent since limit],
      .go (.slidingWindow settings limit turnCount)⟩

namespace Pending

/-- Sets up the threshold strategy's compaction of turns that hold so many tokens. -/
def summarizeOver (settings : Settings) (limits : Limits) (call : Call) (previous : Text)
    (tokens : Nat) (turns : List Turn) : Stretch Job :=
  match share limits.window settings.tuning.recentRatio with
  | .error why => ⟨turns, [], .fail (.budget why)⟩
  | .ok budget =>
    let (old, kept) := Summary.cut turns (budgetBoundary turns budget)
    if old.isEmpty then ⟨turns, [.nothingOld .threshold call.agent], .stop⟩
    else match Summary.Request.make settings.tuning settings.summaryModel old previous
        limits.buffer with
      | .error why => ⟨turns, [], .fail (.budget why)⟩
      | .ok request =>
        ⟨turns, [], .go ⟨.threshold, request, settings.timeout, kept, tokens, tokens, none⟩⟩

/-- The boundary of the sliding window, which leaves so many turns if no call is cut from its
result. -/
def boundary (settings : Settings) (limit turnCount : Nat) (turns : List Turn) :
    Except Fault Nat := do
  let keep ← (settings.tuning.slidingKeep limit).mapError .budget
  let wanted ← ((Quantity.whole turnCount).sub keep).mapError fun why => .budget (.count why)
  (boundaryBefore turns ((Quantity.whole 0).max wanted)).mapError .position

/-- The request for a summary of old turns by the context window of the call's model. -/
def requestFor (settings : Settings) (previous : Text) (old : List Turn)
    (window : Except WindowFault Quantity) : Except Fault Summary.Request := do
  let window ← window.mapError .window
  let buffer ← (settings.tuning.buffer window).mapError .budget
  (Summary.Request.make settings.tuning settings.summaryModel old previous buffer).mapError .budget

/-- Sets up the sliding window's compaction at a number of turns. -/
def summarizeBefore (settings : Settings) (limit turnCount : Nat) (registry : Registry)
    (call : Call) (previous : Text) (turns : List Turn) : Stretch Job :=
  match measure call turns, boundary settings limit turnCount turns with
  | .error fault, _ | .ok _, .error fault => ⟨turns, [], .fail fault⟩
  | .ok tokens, .ok index =>
    let (old, kept) := Summary.cut turns index
    if old.isEmpty then
      ⟨Summary.inject previous turns, [.nothingOld .slidingWindow call.agent], .stop⟩
    else
      let (notices, window) := settings.window registry call.model
      match requestFor settings previous old window with
      | .error fault => ⟨turns, notices, .fail fault⟩
      | .ok request =>
        ⟨turns, notices, .go ⟨.slidingWindow, request, settings.timeout, kept, tokens,
          conversationTextTokens old, some turnCount⟩⟩

/-- Decides once more, from the record as it is when the lock is held: another call may have
compacted in the meantime. -/
def recheck (pending : Pending) (registry : Registry) (call : Call) (record : Record)
    (turns : List Turn) : Stretch Job :=
  match pending with
  | .threshold settings limits seen tokens =>
    if record.summary = seen then
      summarizeOver settings limits call record.summary tokens turns
    else
      let turns := Summary.renew record.summary turns
      match measure call turns with
      | .error fault => ⟨turns, [], .fail fault⟩
      | .ok tokens =>
        if staysBelow tokens limits.threshold then ⟨turns, [], .stop⟩
        else summarizeOver settings limits call record.summary tokens turns
  | .slidingWindow settings limit turnCount =>
    if turnsSince turnCount record.turnsAt ≤ limit then
      ⟨Summary.inject record.summary turns, [], .stop⟩
    else summarizeBefore settings limit turnCount registry call record.summary turns

end Pending

namespace Job

def saveSummary (job : Job) (agent : Text) (summary : Value) (store : Store) :
    List Notice × Store :=
  Record.saveSummary agent summary (.int job.answered) store

/-- Keeps the number of turns in the record, where the strategy counts them. -/
def saveTurns (job : Job) (agent : Text) (store : Store) : List Notice × Store :=
  match job.turnCount with
  | some count => Record.saveTurns agent (.int count) store
  | none => ([], store)

def compacted (job : Job) (summary : Value) : List Turn := Summary.replace summary.plain job.kept

/-- What the compaction came to. The turns that stay are measured once more. -/
def result (job : Job) (call : Call) (summary : Value) : Except Fault Compaction := do
  let tokens ← measure call (job.compacted summary)
  return {
    strategy := job.kind
    summary := summary
    tokensBefore := job.tokensBefore
    tokensAfter := tokens
    summarized := job.request.turns.length
    kept := job.kept.length }

end Job

def Compaction.notice (result : Compaction) (agent : Text) : Notice :=
  .compressed result.strategy agent result.summarized result.kept result.tokensBefore
    result.tokensAfter

end Condense
