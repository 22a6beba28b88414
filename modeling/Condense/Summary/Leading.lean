import Condense.Turn

/-!
# Leading summaries

A summary enters the conversation as its first turn, which is recognised by the marker that its text
begins with.
-/

namespace Condense.Summary

/-- The first line of a summary in a conversation. -/
def openingMarker : Text := "[Previous conversation summary]"

/-- The last line of a summary in a conversation. -/
def closingMarker : Text := "[End of summary, conversation continues below]"

/-- The turn that carries a summary. -/
def turnOf (summary : Text) : Turn :=
  .ofText "user" (openingMarker ++ "\n" ++ summary ++ "\n" ++ closingMarker)

def isMarked (t : Text) : Bool := Text.startsWith openingMarker t

def isSummary (turn : Turn) : Bool :=
  turn.role == "user" &&
    match turn.parts with
    | .text t :: _ => isMarked t
    | _ => false

/-- Puts a summary in front of a conversation that has none. -/
def inject (summary : Text) (turns : List Turn) : List Turn :=
  if summary.isEmpty then turns
  else match turns with
    | first :: _ => if isSummary first then turns else turnOf summary :: turns
    | [] => [turnOf summary]

/-- Puts a summary in front of a conversation, in place of the one that is there. -/
def renew (summary : Text) (turns : List Turn) : List Turn :=
  if summary.isEmpty then turns
  else match turns with
    | first :: rest => turnOf summary :: (if isSummary first then rest else turns)
    | [] => [turnOf summary]

/-- The conversation with everything before the kept turns replaced by a summary. -/
def replace (summary : Text) (kept : List Turn) : List Turn := turnOf summary :: kept

/-- The turns before a boundary that are to be summarized, and the turns from it on. Turns that
carry a summary are not summarized again. -/
def cut (turns : List Turn) (boundary : Nat) : List Turn × List Turn :=
  ((turns.take boundary).filter fun turn => !isSummary turn, turns.drop boundary)

@[simp] theorem isSummary_turnOf (summary : Text) : isSummary (turnOf summary) = true := by
  simp only [isSummary, turnOf, Turn.ofText, isMarked, List.append_assoc, Text.startsWith_append,
    beq_self_eq_true, Bool.and_self]

/-- The conversation begins with a turn that carries a summary. -/
def isLed (turns : List Turn) : Bool := turns.head?.any isSummary

@[simp] theorem isLed_nil : isLed [] = false := rfl

@[simp] theorem isLed_turnOf (summary : Text) (turns : List Turn) :
    isLed (turnOf summary :: turns) = true := isSummary_turnOf summary

@[simp] theorem inject_nil (turns : List Turn) : inject [] turns = turns := rfl

theorem inject_of_isLed (summary : Text) {turns : List Turn} (h : isLed turns = true) :
    inject summary turns = turns := by
  cases turns with
  | nil => contradiction
  | cons lead rest =>
    have hlead : isSummary lead = true := h
    simp [inject, hlead]

theorem inject_of_not_isLed {summary : Text} {turns : List Turn} (hsummary : summary ≠ [])
    (h : isLed turns = false) : inject summary turns = turnOf summary :: turns := by
  cases turns with
  | nil => simp [inject, hsummary]
  | cons lead rest =>
    have hlead : isSummary lead = false := h
    simp [inject, hsummary, hlead]

theorem isLed_inject {summary : Text} (hsummary : summary ≠ []) (turns : List Turn) :
    isLed (inject summary turns) = true := by
  cases hled : isLed turns with
  | true => rw [inject_of_isLed summary hled, hled]
  | false => rw [inject_of_not_isLed hsummary hled, isLed_turnOf]

theorem renew_of_isSummary {summary : Text} {lead : Turn} (rest : List Turn)
    (hsummary : summary ≠ []) (h : isSummary lead = true) :
    renew summary (lead :: rest) = turnOf summary :: rest := by
  simp [renew, hsummary, h]

theorem renew_of_not_isLed {summary : Text} {turns : List Turn} (hsummary : summary ≠ [])
    (h : isLed turns = false) : renew summary turns = turnOf summary :: turns := by
  cases turns with
  | nil => simp [renew, hsummary]
  | cons lead rest =>
    have hlead : isSummary lead = false := h
    simp [renew, hsummary, hlead]

end Condense.Summary
