import Condense.Turn

/-!
# Spans

Which call each tool result answers. The parts of a conversation are read in order; a call waits
until a result answers it.
-/

namespace Condense

/-- A call that no result has answered yet, by the tool's name and the index of its turn. -/
structure Waiting where
  tool : Text
  turn : Nat
  deriving DecidableEq, Repr

/-- A call and the result that answers it, by the indices of their turns. -/
structure Span where
  call : Nat
  result : Nat
  deriving DecidableEq, Repr

namespace Span

/-- A boundary in front of turn `index` lies between the call and the result. -/
def encloses (span : Span) (index : Nat) : Bool := span.call < index && index ≤ span.result

/-- The span of a conversation that stands behind `offset` further turns. -/
def shift (offset : Nat) (span : Span) : Span := ⟨span.call + offset, span.result + offset⟩

end Span

/-- The oldest waiting call of a tool, and the calls that go on waiting. -/
def takeNamed? (tool : Text) : List Waiting → Option (Waiting × List Waiting)
  | [] => none
  | call :: calls =>
    if call.tool = tool then some (call, calls)
    else (takeNamed? tool calls).map fun found => (found.1, call :: found.2)

/-- The latest waiting call, and the calls that go on waiting. -/
def takeLatest? : List Waiting → Option (Waiting × List Waiting)
  | [] => none
  | [call] => some (call, [])
  | call :: calls => (takeLatest? calls).map fun found => (found.1, call :: found.2)

/-- The call that a result of the tool answers: the oldest one of that name, or else the latest of
all. -/
def takeAnswered? (tool : Text) (waiting : List Waiting) : Option (Waiting × List Waiting) :=
  match takeNamed? tool waiting with
  | some found => some found
  | none => takeLatest? waiting

/-- The calls that wait after some parts of the conversation, and the spans found so far. -/
structure Matching where
  waiting : List Waiting := []
  spans : List Span := []
  deriving DecidableEq, Repr

namespace Matching

/-- Reads one part of the turn `index`. -/
def read (matching : Matching) (index : Nat) : Part → Matching
  | .call tool _ => { matching with waiting := matching.waiting ++ [⟨tool, index⟩] }
  | .result tool _ =>
    match takeAnswered? tool matching.waiting with
    | some (call, rest) => ⟨rest, matching.spans ++ [⟨call.turn, index⟩]⟩
    | none => matching
  | _ => matching

def readTurn (matching : Matching) (index : Nat) (turn : Turn) : Matching :=
  turn.parts.foldl (fun matching part => matching.read index part) matching

/-- Reads turns of which the first one has the given index. -/
def readTurns (matching : Matching) : Nat → List Turn → Matching
  | _, [] => matching
  | index, turn :: turns => (matching.readTurn index turn).readTurns (index + 1) turns

theorem readTurns_append (matching : Matching) (index : Nat) (xs ys : List Turn) :
    matching.readTurns index (xs ++ ys) =
      (matching.readTurns index xs).readTurns (index + xs.length) ys := by
  induction xs generalizing matching index with
  | nil => simp [readTurns]
  | cons turn xs ih => simp [readTurns, ih, Nat.add_assoc, Nat.add_comm 1]

end Matching

/-- The calls of a conversation with the results that answer them, in the order of the results. -/
def spans (turns : List Turn) : List Span := (Matching.readTurns {} 0 turns).spans

end Condense
