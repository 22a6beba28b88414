import Condense.Text.Search

/-!
# Numeric hosts

Hosts that are named by numbers: four decimal bytes between points (an IPv4 address), or eight
groups of hexadecimal digits between colons (an IPv6 address), of which a run of zeros may be left
out. The texts are those of the IPv6 addressing architecture, without leading zeros in a decimal
byte.
-/

namespace Condense.Address

/-- A host looks like four decimal bytes: four runs of digits between points. -/
def looksLikeQuad (t : Text) : Bool :=
  let runs := Text.splitOn '.' t
  runs.length == 4 && runs.all fun run => !run.isEmpty && run.all (·.is Char.isDigit)

/-- A decimal byte, without leading zeros. -/
def isDecimalByte (t : Text) : Bool :=
  match t.chars? with
  | some cs =>
    !cs.isEmpty && cs.all Char.isDigit && cs.length ≤ 3 && (cs == ['0'] || cs.head? != some '0') &&
      cs.foldl (fun n c => n * 10 + (c.toNat - 48)) 0 ≤ 255
  | none => false

/-- Four decimal bytes between points. -/
def isQuad (t : Text) : Bool :=
  let bytes := Text.splitOn '.' t
  bytes.length == 4 && bytes.all isDecimalByte

def isHexGroup (t : Text) : Bool :=
  !t.isEmpty && t.length ≤ 4 &&
    t.all (·.is fun c => c.isDigit || ('a' ≤ c && c ≤ 'f') || ('A' ≤ c && c ≤ 'F'))

/-- The groups of hexadecimal digits; four decimal bytes at the end stand for two groups. -/
def hexGroups? (t : Text) : Option (List Text) :=
  let groups := Text.splitOn ':' t
  if groups.length < 3 then none
  else match groups.getLast? with
    | some last =>
      if last.contains (.char '.') then
        if isQuad last then some (groups.dropLast ++ [Text.ofString "0", Text.ofString "0"])
        else none
      else some groups
    | none => none

/-- Groups in front of or behind those that are left out. An empty one at the outer end stands for
nothing and has to stand alone. -/
def outerGroups? (isOuterEmpty : Bool) (groups : List Text) : Option (List Text) :=
  if isOuterEmpty then (if groups.length = 1 then some [] else none) else some groups

/-- The groups form an address: all eight, or fewer around one place where zeros are left out. -/
def areGroups (groups : List Text) : Bool :=
  let inner := (groups.drop 1).dropLast
  match inner.zipIdx.filter fun entry => entry.1.isEmpty with
  | [] => groups.length == 8 && groups.all isHexGroup
  | [(_, index)] =>
    let front := outerGroups? (groups.head?.any (·.isEmpty)) (groups.take (index + 1))
    let back := outerGroups? (groups.getLast?.any (·.isEmpty)) (groups.drop (index + 2))
    match front, back with
    | some front, some back =>
      front.length + back.length < 8 && front.all isHexGroup && back.all isHexGroup
    | _, _ => false
  | _ => false

/-- The address and the name of its zone behind a percent sign; the name must not be empty. -/
def withoutZone? (t : Text) : Option Text :=
  match t.span (· != .char '%') with
  | (address, _ :: zone) =>
    if zone.isEmpty || zone.contains (.char '%') then none else some address
  | (address, []) => some address

/-- Eight groups of hexadecimal digits, possibly in a zone. -/
def isGrouped (t : Text) : Bool :=
  !t.contains (.char '/') &&
    match (withoutZone? t).bind hexGroups? with
    | some groups => groups.length ≤ 9 && areGroups groups
    | none => false

end Condense.Address
