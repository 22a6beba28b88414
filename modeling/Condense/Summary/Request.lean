import Condense.Fault
import Condense.Notice
import Condense.Provider.Answer
import Condense.Summary.Fallback
import Condense.Text.Blank

/-!
# Requests for a summary

What the summarizing model is asked, what comes back, and the summary that results.
-/

namespace Condense.Summary

/-- A request to summarize turns. -/
structure Request where
  model : Text
  turns : List Turn
  previous : Text
  size : Tuning.SummarySize
  excerptChars : Quantity

namespace Request

/-- The request for a summary that fits into a buffer. -/
def make (tuning : Tuning) (model : Text) (turns : List Turn) (previous : Text)
    (buffer : Quantity) : Except ShareFault Request := do
  let size ← tuning.summarySize buffer
  return ⟨model, turns, previous, size, tuning.excerptChars⟩

def maxTokens (request : Request) : Int := max 1 request.size.tokens

def system (request : Request) : Text := systemPrompt request.size.words

/-- The user's message of the request. -/
def prompt (request : Request) : Text := Summary.prompt request.turns request.previous

/-- The length of the longest text of the turns. -/
def longest (request : Request) : Nat :=
  (request.turns.flatMap fun turn => turn.parts.map fun
    | .text t => t.length
    | _ => 0).foldl max 0

/-- The mechanical summary that stands in for an empty answer. A text cannot be cut at a limit that
is no integer. -/
def fallback (request : Request) : Except PositionFault Text :=
  match request.excerptChars.integer? with
  | some limit => .ok (Summary.fallback limit request.turns request.previous)
  | none =>
    if 0 < request.longest && request.excerptChars.lt (.whole request.longest) then .error .cut
    else .ok (Summary.fallback request.longest request.turns request.previous)

/-- A byte that stands for a blank. -/
def isBlankByte (byte : UInt8) : Bool := byte == 0x20 || (0x09 ≤ byte && byte ≤ 0x0D)

/-- Bytes without blanks at their ends. -/
def trimBytes (octets : List UInt8) : List UInt8 :=
  ((octets.dropWhile isBlankByte).reverse.dropWhile isBlankByte).reverse

/-- The content of an answer without blanks at its ends: a text, or bytes if the provider gives
bytes. Nothing at all counts as an empty text. -/
def content (answer : Answer) : Except Fault Value :=
  match answer.content with
  | .text t => .ok (.text (Text.trim t))
  | .bytes octets => .ok (.bytes (trimBytes octets))
  | v => if v.isTruthy then .error (.noAttribute v.kind "strip") else .ok (.text [])

def lengthOf : Value → Nat
  | .text t => t.length
  | .bytes octets => octets.length
  | _ => 0

/-- The notice of a summary, if the provider reports sizes. -/
def sizeNotice (request : Request) (answer : Answer) (summary : Value) :
    Except Fault (List Notice) :=
  match answer.usage with
  | .dict [] => .ok []
  | .dict usage =>
    .ok [.summaryWritten request.model (lengthOf summary) (Answer.completionTokens usage)
      request.size.tokens]
  | v => if v.isTruthy then .error (.noAttribute v.kind "get") else .ok []

/-- The summary in an answer that reports no failure. -/
def accept (request : Request) (answer : Answer) : List Notice × Except Fault Value :=
  match content answer with
  | .error fault => ([], .error fault)
  | .ok summary =>
    if !summary.isTruthy then
      ([.blankSummary request.turns.length],
        (request.fallback.mapError Fault.position).map Value.text)
    else match request.sizeNotice answer summary with
      | .error fault => ([], .error fault)
      | .ok notices => (notices, .ok summary)

/-- The summary that results from a reply. A provider that stays silent is given up at the time
limit. -/
def receive (request : Request) (limit : Option Quantity) : Reply → List Notice × Except Fault Value
  | .answer answer =>
    if answer.isError then ([], .error (.callFailed answer.content.plain))
    else request.accept answer
  | .failed why => ([], .error (.callFailed why))
  | .timedOut | .silent => ([], .error (.timedOut limit))
  | .cancelled message => ([], .error (.cancelled message))

end Request

/-- Why a provider is not even asked: no time is left for the call, or the clock cannot count as far
as the time limit. -/
def refused? (limit : Option Quantity) : Option Fault :=
  match limit with
  | none => none
  | some q =>
    if q.isSpent then some (.timedOut limit)
    else match q.toReal with
      | .ok _ => none
      | .error why => some (.callFailed why.message)

/-- Asks for a summary: the notices, the request if one was sent, and the summary. -/
def ask (request : Request) (limit : Option Quantity) (provider : Request → Reply) :
    List Notice × Option Request × Except Fault Value :=
  match refused? limit with
  | some fault => ([], none, .error fault)
  | none =>
    let (notices, result) := request.receive limit (provider request)
    (notices, some request, result)

end Condense.Summary
