import Condense.Domain.Composed
import Condense.Domain.Direction
import Condense.Domain.JoiningTable
import Condense.Domain.NameTable
import Condense.Domain.ScriptTable
import Condense.Text.Basic

/-!
# Labels

Which texts may stand between the dots of an international host name: the U-labels of IDNA 2008.
Most characters may stand anywhere or nowhere; a few depend on their neighbours, by the contextual
rules of that standard.
-/

namespace Condense.Domain

/-- Joining letters see through the character. -/
def isTransparent (code : Nat) : Bool :=
  transparentCodes.contains code ||
    (Text.inRanges nonSpacingRanges code && code != opaqueMark)

/-- A letter that joins the letter behind it. -/
def joinsNext (code : Nat) : Bool :=
  Text.inRanges leftJoiningRanges code || Text.inRanges dualJoiningRanges code

/-- A letter that joins the letter in front of it. -/
def joinsPrevious (code : Nat) : Bool :=
  Text.inRanges rightJoiningRanges code || Text.inRanges dualJoiningRanges code

/-- The class of the marks that take a vowel away. -/
def viramaClass : Nat := 9

/-- A mark that takes a vowel away comes first. -/
def followsVirama (before : List Nat) : Bool :=
  before.head?.any fun code => combiningClass code == viramaClass

/-- The first character that is seen belongs to a class. -/
def meets (p : Nat → Bool) (codes : List Nat) : Bool :=
  (codes.dropWhile isTransparent).head?.any p

/-- A digit of the Arabic scripts. -/
def isArabicDigit (code : Nat) : Bool := 0x660 ≤ code && code ≤ 0x669

def isExtendedDigit (code : Nat) : Bool := 0x6F0 ≤ code && code ≤ 0x6F9

/-- A character may stand between the characters before it, of which the nearest comes first, and
those after it. -/
def fits (before : List Nat) (code : Nat) (after : List Nat) : Bool :=
  if isNameCode code then true
  else if code == 0x200C then
    followsVirama before || (meets joinsNext before && meets joinsPrevious after)
  else if code == 0x200D then followsVirama before
  else if code == 0xB7 then before.head? == some 0x6C && after.head? == some 0x6C
  else if code == 0x375 then after.head?.any (Text.inRanges greekRanges)
  else if code == 0x5F3 || code == 0x5F4 then before.head?.any (Text.inRanges hebrewRanges)
  else if code == 0x30FB then
    (before ++ after).any fun other => other != 0x30FB && Text.inRanges eastAsianRanges other
  else if isArabicDigit code then !(before ++ after).any isExtendedDigit
  else if isExtendedDigit code then !(before ++ after).any isArabicDigit
  else false

/-- All characters may stand where they stand, behind those that come before. -/
def allFit (before : List Nat) : List Nat → Bool
  | [] => true
  | code :: rest => fits before code rest && allFit (code :: before) rest

def hyphen : Nat := 0x2D

/-- No hyphen stands at an end, and no two stand where a label in ASCII has them. -/
def hyphensFit (codes : List Nat) : Bool :=
  (codes.drop 2).take 2 != [hyphen, hyphen] && codes.head? != some hyphen &&
    codes.getLast? != some hyphen

/-- The longest name, with a dot at its end. -/
def longestName : Nat := 254

def isLabel (t : Text) : Bool :=
  let codes := t.map CodePoint.code
  !codes.isEmpty && codes.length ≤ longestName && allFit [] codes && hyphensFit codes &&
    !codes.head?.any isMark && isComposed codes && directionsAgree (codes.map Direction.of)

end Condense.Domain
