import Condense.Json.Arranged
import Condense.Turn

/-!
# Estimated sizes

The size of a text in tokens is a quarter of its length. It decides when a conversation is
summarized, for which a rough figure is enough.
-/

namespace Condense

-- Sums start from the zero of the natural numbers themselves.
attribute [local instance (high)] Zero.ofOfNat0

/-- The characters that make up a token. -/
def charsPerToken : Nat := 4

def textTokens (t : Text) : Nat := t.length / charsPerToken

/-- The tokens of what a tool was given or gave back: of a text as it stands, of any other value in
its arranged form. A value without a text has no size. -/
def Value.tokens : Value → Except Unshown Nat
  | .text t => .ok (textTokens t)
  | v => (Json.canonicalText v).map textTokens

def Part.tokens : Part → Except Unshown Nat
  | .text t => .ok (textTokens t)
  | .call tool args => args.tokens.map (textTokens tool + ·)
  | .result tool value => value.tokens.map (textTokens tool + ·)
  | .other _ => .ok 0

def Part.textTokens : Part → Nat
  | .text t => Condense.textTokens t
  | _ => 0

/-- The sum of the tokens of some items. The first item without a size counts. -/
def sumTokens {α : Type} (size : α → Except Unshown Nat) : List α → Except Unshown Nat
  | [] => .ok 0
  | x :: xs => do
    let first ← size x
    let rest ← sumTokens size xs
    return first + rest

namespace Turn

/-- The tokens of all parts of a turn. -/
def tokens (turn : Turn) : Except Unshown Nat := sumTokens Part.tokens turn.parts

def textTokens (turn : Turn) : Nat := (turn.parts.map Part.textTokens).sum

end Turn

def conversationTextTokens (turns : List Turn) : Nat := (turns.map Turn.textTokens).sum

/-- The tokens of a conversation together with the system instruction. -/
def conversationTokens (turns : List Turn) (system : Text) : Except Unshown Nat :=
  (sumTokens Turn.tokens turns).map (· + textTokens system)

end Condense
