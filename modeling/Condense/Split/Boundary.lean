import Condense.Estimate
import Condense.Number.Quantity
import Condense.Position
import Condense.Split.Span

/-!
# Boundaries

A boundary cuts a conversation into the turns before it, which may be summarized, and the turns from
it on, which stay. A boundary that separates a call from its result, or lets the kept turns open
with a result, moves back until it does neither.
-/

namespace Condense

/-- The turn at an index carries a tool result. -/
def opensWithResult (turns : List Turn) (index : Nat) : Bool :=
  match turns[index]? with
  | some turn => turn.hasResult
  | none => false

/-- The earliest call among the spans that enclose a boundary. -/
def earliestEnclosing (spans : List Span) (index : Nat) : Option Nat :=
  ((spans.filter (·.encloses index)).map Span.call).min?

theorem earliestEnclosing_lt {spans : List Span} {index call : Nat}
    (h : earliestEnclosing spans index = some call) : call < index := by
  have member := List.min?_mem h
  simp only [List.mem_map, List.mem_filter, Span.encloses, Bool.and_eq_true,
    decide_eq_true_eq] at member
  obtain ⟨span, ⟨_, before, _⟩, rfl⟩ := member
  exact before

/-- Moves a boundary back, in front of the earliest call whose span it cuts, or past a result that
would come first, until neither is the case. -/
def retreat (turns : List Turn) (spans : List Span) (index : Nat) : Nat :=
  if 0 < index then
    match _h : earliestEnclosing spans index with
    | some call => retreat turns spans call
    | none => if opensWithResult turns index then retreat turns spans (index - 1) else index
  else 0
termination_by index
decreasing_by
  · exact earliestEnclosing_lt _h
  · omega

/-- The boundary nearest below a wanted one that keeps every call with its result. Wanted boundaries
outside the conversation are moved to its ends. -/
def safeBoundary (turns : List Turn) (wanted : Int) : Nat :=
  let index := min wanted.toNat turns.length
  if index = turns.length then index else retreat turns (spans turns) index

/-- The earliest call among the spans that enclose a place between two turns. -/
def earliestAround (spans : List Span) (place : Quantity) : Option Nat :=
  ((spans.filter fun span =>
    (Quantity.whole span.call).lt place && !(Quantity.whole span.result).lt place).map
      Span.call).min?

/-- The boundary below a wanted place, which need not be an integer. A place between two turns is a
boundary only if it can move back from there to a call. -/
def boundaryBefore (turns : List Turn) (wanted : Quantity) : Except PositionFault Nat :=
  match wanted.integer? with
  | some index => .ok (safeBoundary turns index)
  | none =>
    let count := Quantity.whole turns.length
    if !(Quantity.whole 0).lt wanted then .ok 0
    else if count.lt wanted then .ok turns.length
    else if !wanted.lt count then .error .cut
    else match earliestAround (spans turns) wanted with
      | some call => .ok (retreat turns (spans turns) call)
      | none => .error .item

/-- The greatest index from which on the texts reach the budget, found from the last turn backwards.
`tokens` counts the turns that were passed, `turns` holds the others, the latest first. -/
def reaching (budget : Int) (tokens : Nat) : List Turn → Option Nat
  | [] => none
  | turn :: earlier =>
    let tokens := tokens + turn.textTokens
    if budget ≤ tokens then some earlier.length else reaching budget tokens earlier

/-- The fewest turns that stay. -/
def leastKept (count : Nat) : Nat := if 3 ≤ count then 2 else 1

/-- The boundary that keeps as many of the latest turns as stay below the budget. A conversation
that never reaches it is cut in half. -/
def budgetBoundary (turns : List Turn) (budget : Int) : Nat :=
  let count := turns.length
  if count = 0 then 0
  else match reaching budget 0 turns.reverse with
    | some index => safeBoundary turns (min (index + 1) (count - leastKept count) : Nat)
    | none => safeBoundary turns (if 2 < count then count / 2 else count - 1 : Nat)

end Condense
