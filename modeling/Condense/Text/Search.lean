import Condense.Text.Basic

/-!
# Searching a text
-/

namespace Condense.Text

/-- `part` stands somewhere in the text. -/
def holds (part : Text) : Text → Bool
  | [] => part.isEmpty
  | p :: rest => part.isPrefixOf (p :: rest) || holds part rest

/-- Replaces the occurrences of `part`, found from the left and without overlap. The number says how
many code points of an occurrence are still to be passed over. -/
def replaceFrom (part new : Text) : Nat → Text → Text
  | _, [] => []
  | skip + 1, _ :: rest => replaceFrom part new skip rest
  | 0, p :: rest =>
    if !part.isEmpty && part.isPrefixOf (p :: rest) then
      new ++ replaceFrom part new (part.length - 1) rest
    else p :: replaceFrom part new 0 rest

/-- Replaces every occurrence of a non-empty `part`. -/
def replace (part new t : Text) : Text := replaceFrom part new 0 t

/-- The pieces between the occurrences of a separator. -/
def splitOn (separator : Char) : Text → List Text
  | [] => [[]]
  | p :: rest =>
    let pieces := splitOn separator rest
    if p == .char separator then [] :: pieces
    else match pieces with
      | piece :: others => (p :: piece) :: others
      | [] => [[p]]

/-- The pieces of a text between the occurrences of a separator, found from the left and without
overlap; a limit bounds how many of them separate. `piece` is the piece that has begun, the latest
code point first; the number says how many code points of an occurrence are still to be passed over.
-/
def piecesFrom (separator : Text) : Option Nat → Text → Nat → Text → List Text
  | _, piece, _, [] => [piece.reverse]
  | limit, piece, skip + 1, _ :: rest => piecesFrom separator limit piece skip rest
  | limit, piece, 0, p :: rest =>
    if limit != some 0 && separator.isPrefixOf (p :: rest) then
      piece.reverse ::
        piecesFrom separator (limit.map (· - 1)) [] (separator.length - 1) rest
    else piecesFrom separator limit (p :: piece) 0 rest

/-- The pieces of a text between the occurrences of a separator that is not empty. -/
def pieces (separator : Text) (limit : Option Nat) (t : Text) : List Text :=
  piecesFrom separator limit [] 0 t

end Condense.Text
