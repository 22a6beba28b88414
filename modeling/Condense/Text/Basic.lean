/-!
# Texts

A text is a list of code points. Most code points are characters; a document may also spell half of
a surrogate pair alone, which is no character but has a place and a length of its own.
-/

namespace Condense

-- Lists are in the order in which the core library puts them.
attribute [local instance (high)] List.instLE List.decidableLE

/-- A character, or half of a surrogate pair that stands alone. -/
inductive CodePoint where
  | char (c : Char)
  | half (unit : Fin 0x800)
  deriving DecidableEq, Repr

namespace CodePoint

/-- The first of the halves of surrogate pairs. -/
def firstHalf : Nat := 0xD800

/-- The number of a code point. -/
def code : CodePoint → Nat
  | .char c => c.toNat
  | .half unit => firstHalf + unit

/-- The code point of a number; beyond the last code point the number stands for none. -/
def ofCode (n : Nat) : CodePoint :=
  if h : n - firstHalf < 0x800 ∧ firstHalf ≤ n then .half ⟨n - firstHalf, h.1⟩
  else .char (Char.ofNat n)

/-- The code point is a character of a class. -/
def is (p : Char → Bool) : CodePoint → Bool
  | .char c => p c
  | .half _ => false

def char? : CodePoint → Option Char
  | .char c => some c
  | .half _ => none

end CodePoint

/-- A sequence of code points. -/
abbrev Text := List CodePoint

namespace Text

def ofChars (cs : List Char) : Text := cs.map .char

def ofString (s : String) : Text := ofChars s.toList

instance : Coe String Text := ⟨ofString⟩

/-- The characters of a text that holds nothing else. -/
def chars? (t : Text) : Option (List Char) := t.mapM CodePoint.char?

/-- The text holds half of a surrogate pair. -/
def hasHalf (t : Text) : Bool := t.any fun
  | .char _ => false
  | .half _ => true

/-- The character that stands for a byte that is part of no character. -/
def unknown : Char := Char.ofNat 0xFFFD

/-- The text as it is shown where only characters can stand: half of a surrogate pair would take
three bytes, of which none is part of a character. -/
def shown (t : Text) : Text := t.flatMap fun
  | .char c => [.char c]
  | .half _ => ofChars (List.replicate 3 unknown)

/-- The order of texts by the numbers of their code points. -/
def le (s t : Text) : Bool := decide (s.map CodePoint.code ≤ t.map CodePoint.code)

/-- Texts one after the other, with a separator between them. -/
def join (separator : Text) (texts : List Text) : Text := separator.intercalate texts

def startsWith (start t : Text) : Bool := start.isPrefixOf t

@[simp] theorem startsWith_append (start t : Text) : startsWith start (start ++ t) = true := by
  induction start with
  | nil => simp [startsWith]
  | cons p rest ih => simp [startsWith]

@[simp] theorem ofChars_append (xs ys : List Char) :
    ofChars (xs ++ ys) = ofChars xs ++ ofChars ys :=
  List.map_append

end Text

end Condense
