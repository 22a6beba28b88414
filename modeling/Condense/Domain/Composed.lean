import Condense.Domain.ComposedTable

/-!
# Composed form

A name has one spelling only: marks stand in the order of their classes, and a character and a mark
that can be one composed character are one. A name that is spelled otherwise differs from its
composed form, which is Unicode's normalization form C.
-/

namespace Condense.Domain

/-- The combining class of a code point, zero for what is no mark. -/
def combiningClass (code : Nat) : Nat :=
  match combiningRanges.find? fun range => range.1 ≤ code && code ≤ range.2.1 with
  | some range => range.2.2
  | none => 0

/-- The character that two others compose. -/
def composite? (first second : Nat) : Option Nat :=
  (composites.find? fun entry => entry.1 == first && entry.2.1 == second).map (·.2.2)

/-- The greatest number of characters that compose one. -/
def compositionDepth : Nat := 4

/-- The characters that compose a code point, taken apart so many times at most. -/
def decompose : Nat → Nat → List Nat
  | 0, code => [code]
  | depth + 1, code =>
    match composites.find? (·.2.2 == code) with
    | some (first, second, _) => decompose depth first ++ [second]
    | none => [code]

/-- Puts a code point in front of others. A mark moves behind the marks of lower classes. -/
def placeMark (code : Nat) : List Nat → List Nat
  | [] => [code]
  | next :: rest =>
    if combiningClass next != 0 && combiningClass next < combiningClass code then
      next :: placeMark code rest
    else code :: next :: rest

/-- Marks in the order of their classes. -/
def orderMarks (codes : List Nat) : List Nat := codes.foldr placeMark []

/-- A character and the marks behind it that were not composed with it. -/
structure Cluster where
  starter : Nat
  marks : List Nat := []

namespace Cluster

def codes (cluster : Cluster) : List Nat := cluster.starter :: cluster.marks

/-- Nothing between the character and a further one of the given class keeps them apart. -/
def admits (cluster : Cluster) (markClass : Nat) : Bool :=
  match cluster.marks.getLast? with
  | none => true
  | some last => combiningClass last < markClass

/-- The composed form of code points behind a cluster. -/
def compose (cluster : Cluster) : List Nat → List Nat
  | [] => cluster.codes
  | code :: rest =>
    let joined :=
      if cluster.admits (combiningClass code) then composite? cluster.starter code else none
    match joined with
    | some starter => compose { cluster with starter } rest
    | none =>
      if combiningClass code == 0 then cluster.codes ++ compose ⟨code, []⟩ rest
      else compose { cluster with marks := cluster.marks ++ [code] } rest

end Cluster

def composedForm (codes : List Nat) : List Nat :=
  match orderMarks (codes.flatMap (decompose compositionDepth)) with
  | [] => []
  | first :: rest => Cluster.compose ⟨first, []⟩ rest

def isComposed (codes : List Nat) : Bool := composedForm codes == codes

end Condense.Domain
