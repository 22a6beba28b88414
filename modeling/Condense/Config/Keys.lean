import Condense.Text.Case
import Condense.Text.Search
import Condense.Value.Depth

/-!
# Names of settings

In a file the names of settings are written in camel case, everywhere else in snake case.
-/

namespace Condense

/-- An underscore in front of every capital letter. -/
def separateCapitals (t : Text) : Text :=
  t.flatMap fun p => if p.is fun c => 'A' ≤ c && c ≤ 'Z' then [.char '_', p] else [p]

/-- A camel case name in snake case. A capital letter at the front begins no new word. -/
def snakeCase : Text → Text
  | [] => []
  | p :: rest => Text.lower (p :: separateCapitals rest)

def camelCase (name : Text) : Text :=
  match Text.splitOn '_' name with
  | [] => []
  | head :: words => head ++ words.flatMap Text.capitalize

def Key.rename (f : Text → Text) : Key → Key
  | .text t => .text (f t)
  | key => key

namespace Value

mutual

/-- Renames the keys of every dictionary in a value. Of members that get the same name the last
value counts and the first place. -/
def rename (f : Text → Text) : Value → Value
  | .list items => .list (renameItems f items)
  | .dict members => .dict (Assoc.ofList (renameMembers f members))
  | v => v

def renameItems (f : Text → Text) : List Value → List Value
  | [] => []
  | v :: vs => rename f v :: renameItems f vs

def renameMembers (f : Text → Text) : List (Key × Value) → List (Key × Value)
  | [] => []
  | (k, v) :: rest => (k.rename f, rename f v) :: renameMembers f rest

end

/-- The lists and dictionaries that may stand inside one another in a value whose keys are renamed.
It takes two steps to pass from one to the next. -/
def renamingLimit : Nat := depthLimit / 2 - 5

def renamed (f : Text → Text) (v : Value) : Except TooDeep Value :=
  if v.exceeds renamingLimit then .error .following else .ok (v.rename f)

end Value

end Condense
