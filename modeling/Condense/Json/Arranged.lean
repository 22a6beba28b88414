import Condense.Json.Writer

/-!
# Arranged values

A value whose dictionaries, at every depth, list their members by key. Texts are ordered by code
points and numbers by value; a dictionary that mixes kinds of keys has no arrangement.
-/

namespace Condense.Json

/-- One key may stand before the other. Both are texts or both are numbers. -/
def keyLe : Key → Key → Bool
  | .text s, .text t => Text.le s t
  | .real (.infinite true), _ => true
  | _, .real (.infinite false) => true
  | .real (.infinite false), _ => false
  | _, .real (.infinite true) => false
  | a, b =>
    match a.units?, b.units? with
    | some m, some n => decide (m ≤ n)
    | _, _ => true

def isTextKey : Key → Bool
  | .text _ => true
  | _ => false

def isNumberKey : Key → Bool
  | .bool _ | .int _ | .real _ => true
  | _ => false

/-- The keys can be compared with one another. -/
def comparable (keys : List Key) : Bool :=
  keys.length ≤ 1 || keys.all isTextKey || keys.all isNumberKey

/-- Why a value has no arrangement that could be written. -/
inductive Disorder where
  | mixedKeys
  | tooManyDigits
  | tooDeep
  deriving DecidableEq, Repr

/-- Members with arranged values. The first member without an arrangement counts, in the order of
the keys. -/
def settle : List (Key × Except Disorder Value) → Except Disorder (List (Key × Value))
  | [] => .ok []
  | (k, v) :: rest =>
    if k.isOverlong then .error .tooManyDigits
    else do
      let v ← v
      let rest ← settle rest
      return (k, v) :: rest

def arrangeMembers (members : List (Key × Except Disorder Value)) :
    Except Disorder (List (Key × Value)) :=
  if comparable (members.map (·.1)) then
    settle (members.mergeSort fun a b => keyLe a.1 b.1)
  else .error .mixedKeys

mutual

/-- The value with every dictionary in it ordered by key. No more than `room` lists and dictionaries
may stand inside one another, and no integer may have too many digits. -/
def arrange (room : Nat) : Value → Except Disorder Value
  | .int n => if isOverlong n then .error .tooManyDigits else .ok (.int n)
  | .list items =>
    if room = 0 then .error .tooDeep else (arrangeItems (room - 1) items).map .list
  | .dict members =>
    if room = 0 then .error .tooDeep
    else (arrangeMembers (arrangeValues (room - 1) members)).map .dict
  | v => .ok v

/-- The items with every dictionary in them ordered by key. -/
def arrangeItems (room : Nat) : List Value → Except Disorder (List Value)
  | [] => .ok []
  | v :: vs => do
    let v ← arrange room v
    let vs ← arrangeItems room vs
    return v :: vs

/-- The members with every dictionary in their values ordered by key. -/
def arrangeValues (room : Nat) : List (Key × Value) → List (Key × Except Disorder Value)
  | [] => []
  | (k, v) :: rest => (k, arrange room v) :: arrangeValues room rest

end

/-- The value as it stands inside a sentence, if it can be shown. -/
def plainText (v : Value) : Except Unshown Text :=
  match v.unshown? depthLimit with
  | some why => .error why
  | none => .ok v.plain

/-- The one-line text of a value, which does not depend on the order of members where the value can
be arranged. A value with mixed keys, or with an integer that cannot be written, is shown as it
stands; one that is too deep is given up. -/
def canonicalText (v : Value) : Except Unshown Text :=
  match arrange depthLimit v with
  | .ok arranged => .ok (render .inline arranged)
  | .error .tooDeep => .error (.tooDeep .writing)
  | .error .mixedKeys | .error .tooManyDigits => plainText v

end Condense.Json
