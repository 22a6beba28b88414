import Condense.Text.Basic
import Condense.Text.CaseTable

/-!
# Letter case

Lower case of a whole text, with the two forms of sigma, and the capitalized form of a word.
-/

namespace Condense.Text

/-- Characters that a search for a neighbouring letter steps over. -/
def isCaseIgnorable (c : Char) : Bool := inRanges caseIgnorableRanges c.toNat

/-- Letters that have a case. -/
def isCased (c : Char) : Bool := inRanges casedRanges c.toNat

/-- The nearest character that is not stepped over is a cased letter. -/
def meetsCased (t : Text) : Bool := (t.dropWhile (·.is isCaseIgnorable)).head?.any (·.is isCased)

/-- The lower case of a character, given the text before it (nearest first) and after it: a capital
sigma is final when a letter stands before it and none after it. -/
def lowerAt (before : Text) (c : Char) (after : Text) : List Char :=
  if c.toNat < 0x80 then [if 'A' ≤ c && c ≤ 'Z' then Char.ofNat (c.toNat + 32) else c]
  else if c.toNat == 0x3A3 then
    [if meetsCased before && !meetsCased after then 'ς' else 'σ']
  else if c.toNat == 0x130 then ['i', Char.ofNat 0x307]
  else [Char.ofNat (moved lowerRuns c.toNat)]

/-- The lower case of a text that stands after `before` (nearest first). -/
def lowerFrom (before : Text) : Text → Text
  | [] => []
  | .char c :: rest => ofChars (lowerAt before c rest) ++ lowerFrom (.char c :: before) rest
  | p :: rest => p :: lowerFrom (p :: before) rest

def lower (t : Text) : Text := lowerFrom [] t

/-- The title case of a character, which may be several characters long. -/
def title (c : Char) : List Char :=
  if c.toNat < 0x80 then [if 'a' ≤ c && c ≤ 'z' then Char.ofNat (c.toNat - 32) else c]
  else match longTitles.find? (·.1 == c.toNat) with
    | some entry => entry.2.map Char.ofNat
    | none => [Char.ofNat (moved titleRuns c.toNat)]

/-- The word with its first character in title case and the others in lower case. -/
def capitalize : Text → Text
  | [] => []
  | .char c :: rest => ofChars (title c) ++ lowerFrom [.char c] rest
  | p :: rest => p :: lowerFrom [p] rest

end Condense.Text
