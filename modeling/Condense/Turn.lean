import Condense.Value

/-!
# Turns

A conversation is a list of turns. A turn belongs to a role and consists of parts: text, calls of
tools, and the results that answer them.
-/

namespace Condense

/-- A part of a turn. `other` stands for content that only the host understands. -/
inductive Part where
  | text (text : Text)
  | call (tool : Text) (args : Value)
  | result (tool : Text) (value : Value)
  | other (payload : Value)

namespace Part

def isCall : Part → Bool
  | .call .. => true
  | _ => false

def isResult : Part → Bool
  | .result .. => true
  | _ => false

end Part

/-- One message of a conversation. -/
structure Turn where
  role : Text
  parts : List Part

instance : Inhabited Turn := ⟨⟨[], []⟩⟩

namespace Turn

def ofText (role text : Text) : Turn := ⟨role, [.text text]⟩

def hasCall (turn : Turn) : Bool := turn.parts.any Part.isCall

def hasResult (turn : Turn) : Bool := turn.parts.any Part.isResult

/-- The role as it is written in front of a line. -/
def speaker (turn : Turn) : Text := if turn.role.isEmpty then "unknown" else turn.role

end Turn

end Condense
