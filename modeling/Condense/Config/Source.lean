import Condense.Config.SourceFile
import Condense.Value.Literal

/-!
# Sources

A document of settings may also say how the environment is read beside it: how the names of
variables begin, what separates the parts of a name, and which texts count as nothing.
-/

namespace Condense

/-- What separates the parts of a name. -/
structure Separator where
  text : Text
  /-- How many of them separate; there may be no bound. -/
  limit : Except SourceFault (Option Nat)

/-- What names are said to begin with. A list can be measured, but no name begins with one. -/
inductive Start where
  | text (t : Text)
  | other (kind : String)

/-- How the environment is read. -/
structure Source where
  /-- What the names of all variables are said to begin with. -/
  start : Start := .text "CONTEXTGUARD_"
  /-- The names of variables do begin so. -/
  isStarted : Bool := true
  /-- What separates the parts of a name. Without it a name has one part only. -/
  separator : Option Separator := some ⟨"__", .ok none⟩
  /-- Variables that hold no text are left aside. -/
  ignoresEmpty : Bool := false
  /-- The text that stands for null. -/
  nullWord : Option Value := none
  /-- Capital and small letters of names are told apart. -/
  caseSensitive : Bool := false
  /-- Folders with further settings have names that can be read. -/
  folders : Except SourceFault Unit := .ok ()

namespace Source

def reservedName : String := "__pydantic_self__"

/-- The names under which a document says how the environment is read. -/
def names : List String := [
  "_env_prefix", "_env_nested_delimiter", "_env_nested_max_split", "_env_ignore_empty",
  "_env_parse_none_str", "_case_sensitive", "_env_file", "_secrets_dir", "_env_file_encoding",
  "_env_file_depth", "_env_parse_enums", "_env_prefix_target",
  "_nested_model_default_partial_update", "_cli_show_env_vars",
  "_cli_prog_name", "_cli_parse_args", "_cli_settings_source", "_cli_parse_none_str",
  "_cli_hide_none_type", "_cli_avoid_json", "_cli_enforce_required",
  "_cli_use_class_docs_for_groups", "_cli_exit_on_error", "_cli_prefix", "_cli_flag_prefix_char",
  "_cli_implicit_flags", "_cli_ignore_unknown_args", "_cli_kebab_case", "_cli_shortcuts",
  "_build_sources"]

/-- A member that says how the environment is read, and is no setting itself. -/
def isOption (member : Key × Value) : Bool :=
  match member.1 with
  | .text name => names.any fun known => name == known
  | _ => false

/-- The value of an option; null counts as none. -/
def option? (members : List (Key × Value)) (name : String) : Option Value :=
  (Assoc.get? (Key.text name) members).filter fun
    | .null => false
    | _ => true

/-- An option is given and counts as something. -/
def isSet (members : List (Key × Value)) (name : String) : Bool :=
  (option? members name).any Value.isTruthy

/-- What the names of all variables begin with. -/
def startOf : Option Value → Except SourceFault Start
  | none => .ok ({} : Source).start
  | some (.text t) => .ok (.text t)
  | some (.list items) => .ok (.other (Value.list items).kind)
  | some (.dict members) => .ok (.other (Value.dict members).kind)
  | some (.bytes octets) => .ok (.other (Value.bytes octets).kind)
  | some v => .error (.noLength v.kind)

/-- The names of variables begin as it is said only if this is meant for variables, and not for
names of another kind alone. -/
def isForVariables : Option Value → Bool
  | none => true
  | some (.text t) => t == Text.ofString "variable" || t == Text.ofString "all"
  | some _ => false

/-- How many separators count, where the pieces of a name are counted. Zero pieces stand for no
bound. -/
def limitOf (pieces : Option Value) : Except SourceFault (Except SourceFault (Option Nat)) :=
  match pieces.filter Value.isTruthy with
  | none => .ok (.ok none)
  | some (.bool _) => .ok (.ok (some 0))
  | some (.int n) =>
    if n - 1 < SourceFile.countLimit && -SourceFile.countLimit ≤ n - 1 then
      .ok (.ok (if n ≤ 0 then none else some (n - 1).toNat))
    else .ok (.error .tooLarge)
  | some (.real x) => .ok (.error (.notInteger (Value.real x).kind))
  | some v => .error (.noDifference v.kind)

/-- What separates the parts of a name; what counts as nothing does not separate. -/
def separatorOf (given : Option Value) (limit : Except SourceFault (Option Nat)) :
    Option Separator :=
  match given with
  | none => ({} : Source).separator.map fun separator => { separator with limit }
  | some (.text t) => if t.isEmpty then none else some ⟨t, limit⟩
  | some v =>
    if v.isTruthy then some ⟨v.literal, limit.bind fun _ => .error (.notText v.kind)⟩ else none

/-- The name that no document may use is not used. -/
def checkNames (members : List (Key × Value)) : Except SourceFault Unit :=
  if Assoc.has (Key.text reservedName) members then .error (.reserved reservedName) else .ok ()

/-- A document may say outright which sources of settings there are, as the first one of a pair. No
value of a document is a source, so that this goes well only if there are none. -/
def checkSources (pair : Value) : Except SourceFault Unit :=
  match pair.sequence? with
  | none => .error (.notUnpackable pair.kind)
  | some [sources, _] =>
    if !sources.isTruthy then .ok ()
    else match sources.sequence? with
      | some (source :: _) => .error (.notCallable source.kind)
      | some [] => .ok ()
      | none => .error (.notIterable sources.kind)
  | some _ => .error .invalid

/-- How the environment is read beside the members of a document. -/
def ofMembers (members : List (Key × Value)) : Except SourceFault Source := do
  let limit ← limitOf (option? members "_env_nested_max_split")
  let start ← startOf (option? members "_env_prefix")
  SourceFile.check (option? members "_env_file_depth") (option? members "_env_file")
  return {
    start
    isStarted := isForVariables (option? members "_env_prefix_target")
    separator := separatorOf (option? members "_env_nested_delimiter") limit
    ignoresEmpty := isSet members "_env_ignore_empty"
    nullWord := option? members "_env_parse_none_str"
    caseSensitive := isSet members "_case_sensitive"
    folders := SourceFile.checkFolders (option? members "_secrets_dir") }

def settings (members : List (Key × Value)) : List (Key × Value) :=
  members.filter fun member => !isOption member

end Source

end Condense
