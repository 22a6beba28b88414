import Condense.Config.Keys
import Condense.Value.Sequence

/-!
# Settings in a file

The dictionary of all settings as a file holds it. The names of settings change between the two
forms; the ids of agents are no names and stay as they are.
-/

namespace Condense

/-- Why a document is no dictionary of settings. -/
inductive DiskFault where
  | notIterable (kind : String)
  | notPair (index : Nat)
  | badLength (index length : Nat)
  | unhashable (kind : String)
  | nameNotText (kind : String)
  | nameNotSplit (kind : String)
  | tooDeep (why : TooDeep)
  deriving DecidableEq, Repr

namespace DiskFault

def message : DiskFault → Text
  | .notIterable kind => "'" ++ kind ++ "' object is not iterable"
  | .notPair index =>
    "cannot convert dictionary update sequence element #" ++ integerText index ++ " to a sequence"
  | .badLength index length =>
    "dictionary update sequence element #" ++ integerText index ++ " has length " ++
      integerText length ++ "; 2 is required"
  | .unhashable kind => "unhashable type: '" ++ kind ++ "'"
  | .nameNotText kind => "expected string or bytes-like object, got '" ++ kind ++ "'"
  | .nameNotSplit kind => "'" ++ kind ++ "' object has no attribute 'split'"
  | .tooDeep why => why.message

end DiskFault

def Value.toKey : Value → Except DiskFault Key
  | .null => .ok .null
  | .bool b => .ok (.bool b)
  | .int n => .ok (.int n)
  | .real x => .ok (.real x)
  | .text t => .ok (.text t)
  | v => .error (.unhashable v.kind)

/-- The member that an item stands for: a key and a value. -/
def pairOf (index : Nat) (item : Value) : Except DiskFault (Key × Value) :=
  match item.sequence? with
  | none => .error (.notPair index)
  | some [k, v] => k.toKey.map (·, v)
  | some parts => .error (.badLength index parts.length)

/-- The members that the items of a sequence stand for. -/
def pairsFrom (index : Nat) (members : List (Key × Value)) :
    List Value → Except DiskFault (List (Key × Value))
  | [] => .ok members
  | item :: items =>
    match pairOf index item with
    | .error fault => .error fault
    | .ok (k, v) => pairsFrom (index + 1) (Assoc.put k v members) items

def Value.toMembers : Value → Except DiskFault (List (Key × Value))
  | .dict members => .ok members
  | .list items => pairsFrom 0 [] items
  | .text t => pairsFrom 0 [] (letters t)
  | v => .error (.notIterable v.kind)

/-- Settings can be renamed if their names are texts and none of them is too deep. The first one that
cannot be renamed counts. -/
def checkSettings (fault : String → DiskFault) : List (Key × Value) → Except DiskFault Unit
  | [] => .ok ()
  | (.text _, v) :: rest =>
    if v.exceeds (Value.renamingLimit - 1) then .error (.tooDeep .following)
    else checkSettings fault rest
  | (k, _) :: _ => .error (fault k.toValue.kind)

/-- Agents can be renamed if they are not too deep. Agents that form no dictionary are not looked at,
because they are left out. -/
def checkAgents : Option Value → Except DiskFault Unit
  | some (.dict agents) =>
    if (Value.dict agents).exceeds (Value.renamingLimit - 1) then .error (.tooDeep .following)
    else .ok ()
  | _ => .ok ()

/-- Renames everything but the ids of agents, which come last. Agents that form no dictionary are
left out. -/
def renameSettings (f : Text → Text) (members : List (Key × Value)) : List (Key × Value) :=
  let agents := Assoc.get? (Key.text "agents") members
  let renamed :=
    Assoc.ofList (Value.renameMembers f (Assoc.erase (Key.text "agents") members))
  match agents with
  | some (.dict agents) =>
    Assoc.put (.text "agents") (.dict (agents.map fun agent => (agent.1, agent.2.rename f))) renamed
  | _ => renamed

/-- Renames the settings in a document, whose names have to be texts. -/
def renameDocument (f : Text → Text) (fault : String → DiskFault) (document : Value) :
    Except DiskFault (List (Key × Value)) := do
  let members ← document.toMembers
  checkSettings fault (Assoc.erase (Key.text "agents") members)
  checkAgents (Assoc.get? (Key.text "agents") members)
  return renameSettings f members

/-- The settings in a document from a file. -/
def fromDisk (document : Value) : Except DiskFault (List (Key × Value)) :=
  renameDocument snakeCase .nameNotText document

/-- The document for a file with settings. -/
def toDisk (document : Value) : Except DiskFault (List (Key × Value)) :=
  renameDocument camelCase .nameNotSplit document

end Condense
