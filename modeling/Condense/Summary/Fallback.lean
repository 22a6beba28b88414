import Condense.Position
import Condense.Summary.Prompt

/-!
# Mechanical summaries

Where the model has nothing to say, the summary consists of excerpts from the texts themselves.
-/

namespace Condense.Summary

/-- Stands between the summary so far and the excerpts. -/
def fallbackSeparator : Text := "\n\n---\n\n"

/-- A text that is longer than allowed, cut and marked as such. A negative limit drops code points
from the end. -/
def excerpt (limit : Int) (t : Text) : Text :=
  if limit < t.length then t.take (position limit t.length) ++ "..." else t

def excerptLine? (limit : Int) (speaker : Text) : Part → Option Text
  | .text t => if t.isEmpty then none else some (speaker ++ ": " ++ excerpt limit t)
  | _ => none

def excerptLines (limit : Int) (turn : Turn) : List Text :=
  turn.parts.filterMap (excerptLine? limit turn.speaker)

/-- The excerpts of some turns, or a note that none of them holds text. -/
def excerpts (limit : Int) (turns : List Turn) : List Text :=
  let found := turns.flatMap (excerptLines limit)
  if found.isEmpty && !turns.isEmpty then
    ["[" ++ integerText turns.length ++ " earlier turn(s) without text content were compacted]"]
  else found

/-- The summary so far, followed by excerpts. -/
def fallback (limit : Int) (turns : List Turn) (previous : Text) : Text :=
  let body := lines (excerpts limit turns)
  if previous.isEmpty then body
  else if body.isEmpty then previous
  else previous ++ fallbackSeparator ++ body

end Condense.Summary
