import Condense.Number.Quantity

/-!
# Tuning

The constants that a deployment may tune, and the token budgets that follow from them.
-/

namespace Condense

/-- Why a share of a count of tokens cannot be computed. -/
inductive ShareFault where
  | count (why : Binary64.TooLarge)
  | share (why : Binary64.NotIntegral)
  deriving DecidableEq, Repr

def ShareFault.message : ShareFault → String
  | .count why => why.message
  | .share why => why.message

/-- A share of a count, without its fraction. A whole share of a whole count is taken exactly; any
other in floating point. -/
def share (count ratio : Quantity) : Except ShareFault Int :=
  match count.integer?, ratio.integer? with
  | some n, some r => .ok (n * r)
  | _, _ => do
    let x ← count.toReal.mapError .count
    let y ← ratio.toReal.mapError .count
    (x * y).truncate.mapError .share

/-- A decimal fraction as a ratio. -/
def hundredths (n : Nat) : Quantity := .real (Binary64.ofRatio false n 100)

/-- The constants of compaction. -/
structure Tuning where
  /-- The largest context window that counts as small. -/
  largeWindowThreshold : Quantity := .whole 200000
  /-- What is kept free below a large window. -/
  largeWindowBuffer : Quantity := .whole 20000
  /-- The share of a small window that is kept free. -/
  smallWindowRatio : Quantity := hundredths 20
  /-- The share of the window that recent turns may fill. -/
  recentRatio : Quantity := hundredths 20
  /-- The share of the buffer that a summary may fill. -/
  summaryRatio : Quantity := hundredths 50
  /-- The words in a token. -/
  wordsPerToken : Quantity := hundredths 75
  /-- The characters that a mechanical summary keeps of a text. -/
  excerptChars : Quantity := .whole 200
  /-- The share of the turn limit that stays after the sliding window moved. -/
  slidingRatio : Quantity := hundredths 30
  /-- The fewest turns that stay after the sliding window moved. -/
  slidingLeast : Quantity := .whole 3
  deriving DecidableEq

namespace Tuning

def fields (tuning : Tuning) : List (String × Quantity) := [
  ("large_context_window_threshold", tuning.largeWindowThreshold),
  ("large_context_window_buffer", tuning.largeWindowBuffer),
  ("small_context_window_ratio", tuning.smallWindowRatio),
  ("recent_window_ratio", tuning.recentRatio),
  ("summary_output_ratio", tuning.summaryRatio),
  ("words_per_token", tuning.wordsPerToken),
  ("fallback_excerpt_chars", tuning.excerptChars),
  ("sliding_window_recent_ratio", tuning.slidingRatio),
  ("sliding_window_min_recent", tuning.slidingLeast)]

def ofFields (given : String → Option Quantity) : Tuning :=
  let d : Tuning := {}
  { largeWindowThreshold := (given "large_context_window_threshold").getD d.largeWindowThreshold
    largeWindowBuffer := (given "large_context_window_buffer").getD d.largeWindowBuffer
    smallWindowRatio := (given "small_context_window_ratio").getD d.smallWindowRatio
    recentRatio := (given "recent_window_ratio").getD d.recentRatio
    summaryRatio := (given "summary_output_ratio").getD d.summaryRatio
    wordsPerToken := (given "words_per_token").getD d.wordsPerToken
    excerptChars := (given "fallback_excerpt_chars").getD d.excerptChars
    slidingRatio := (given "sliding_window_recent_ratio").getD d.slidingRatio
    slidingLeast := (given "sliding_window_min_recent").getD d.slidingLeast }

/-- The tokens kept free below a context window. -/
def buffer (tuning : Tuning) (window : Quantity) : Except ShareFault Quantity :=
  if tuning.largeWindowThreshold.lt window then .ok tuning.largeWindowBuffer
  else (share window tuning.smallWindowRatio).map .whole

/-- The size of a summary in tokens and in words. -/
structure SummarySize where
  tokens : Int
  words : Int
  deriving DecidableEq, Repr

def summarySize (tuning : Tuning) (buffer : Quantity) : Except ShareFault SummarySize := do
  let tokens ← share buffer tuning.summaryRatio
  let words ← share (.whole tokens) tuning.wordsPerToken
  return ⟨tokens, words⟩

/-- The turns that stay after the sliding window moved over `limit` turns. -/
def slidingKeep (tuning : Tuning) (limit : Int) : Except ShareFault Quantity := do
  let kept ← share (.whole limit) tuning.slidingRatio
  return tuning.slidingLeast.max (.whole kept)

end Tuning

end Condense
