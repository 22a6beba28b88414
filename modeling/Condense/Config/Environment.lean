import Condense.Config.Schema
import Condense.Config.Source
import Condense.Json.Reader
import Condense.Text.Case
import Condense.Text.Search

/-!
# Settings in the environment

A variable may hold one of the four parts of the configuration as a document, or a single setting,
to which its name leads part by part. Unless the source says otherwise the case of names does not
matter. Settings of a document win over those of the environment.
-/

namespace Condense

/-- The shape of a setting, as far as names are concerned. -/
inductive Shape where
  | leaf
  | record (fields : List (String × Shape))
  | table (entry : Shape)

namespace Shape

def flat (names : List String) : Shape := .record (names.map fun name => (name, .leaf))

def guard : Shape :=
  flat ["enabled", "strategy", "max_turns", "context_window_override", "summary_model",
    "summary_timeout_seconds"]

def agent : Shape := .record [("model", .leaf), ("context_guard", guard)]

def provider : Shape := flat ["api_key", "api_base"]

def providers : Shape :=
  .record (["anthropic", "openai", "openrouter", "gemini", "zhipu", "vllm"].map (·, provider))

def registry : Shape := flat ["source_url", "default_context_window", "fetch_timeout_seconds"]

def compaction : Shape :=
  flat ["large_context_window_threshold", "large_context_window_buffer",
    "small_context_window_ratio", "recent_window_ratio", "summary_output_ratio", "words_per_token",
    "fallback_excerpt_chars", "sliding_window_recent_ratio", "sliding_window_min_recent"]

def config : List (String × Shape) :=
  [("agents", .table agent), ("providers", providers), ("registry", registry),
    ("compaction", compaction)]

def isTable : Shape → Bool
  | .table _ => true
  | _ => false

/-- The setting has parts of its own. -/
def isComplex : Shape → Bool
  | .leaf => false
  | _ => true

end Shape

/-- Why the environment gives no settings. -/
inductive EnvironmentFault where
  /-- The variable of a part holds no document where there has to be one. -/
  | notDocument (part : String)
  /-- No name can begin with what names are said to begin with. -/
  | noStart (part : String)
  | source (why : SourceFault)
  | tooDeep (why : TooDeep)
  deriving DecidableEq, Repr

def EnvironmentFault.message : EnvironmentFault → String
  | .notDocument part =>
    "error parsing value for field \"" ++ part ++ "\" from source \"EnvSettingsSource\""
  | .noStart part =>
    "error getting value for field \"" ++ part ++ "\" from source \"EnvSettingsSource\""
  | .source why => why.message
  | .tooDeep why => why.message

structure Variable where
  name : Text
  text : Text
  /-- The text stands for null. -/
  isNull : Bool := false

/-- The variables of a process, by name. -/
abbrev Environment := List (Text × Text)

namespace Source

def spelled (source : Source) (name : Text) : Text :=
  if source.caseSensitive then name else Text.lower name

/-- The name of the variable for a setting that stands alone. -/
def variableName (source : Source) (start : Text) (name : String) : Text :=
  source.spelled (start ++ name)

def isNull (source : Source) (text : Text) : Bool :=
  match source.nullWord with
  | some (.text word) => text == word
  | _ => false

/-- The variables of an environment; of those whose names do not differ the last one counts. -/
def entries (source : Source) (env : Environment) : List Variable :=
  let entries := env.filter fun entry => !(source.ignoresEmpty && entry.2.isEmpty)
  (Assoc.ofList (entries.map fun entry => (source.spelled entry.1, entry.2))).map
    fun entry => ⟨entry.1, entry.2, source.isNull entry.2⟩

/-- A part of a name names a field: by the field's name or by the name of its own variable. -/
def meets (source : Source) (start : Text) (part : Text) (field : String) : Bool :=
  if source.caseSensitive then part == field || part == start ++ field
  else
    let part := Text.lower part
    part == Text.lower field || part == Text.lower (start ++ field)

end Source

/-- Where the parts of a name have led so far. An entry of a table is no declared setting, so that a
text which is no document may stand for it. -/
inductive Target where
  | setting (shape : Shape)
  | entry (shape : Shape)
  | unknown

namespace Target

/-- Follows one part of a name. The entries of a table may have any name. -/
def follow (named : String → Bool) : Target → Target
  | .unknown => .unknown
  | .setting shape | .entry shape =>
    match shape with
    | .leaf => .unknown
    | .record fields =>
      match fields.find? fun field => named field.1 with
      | some field => .setting field.2
      | none => .unknown
    | .table inner => .entry inner

/-- How a variable's text becomes a value: as a document, as a document if it is one, or as it is.
-/
inductive Reading where
  | document
  | documentOrText
  | text

/-- How the text of a variable is read that leads here, in a part of the configuration. -/
def reading (inTable : Bool) : Target → Reading
  | .setting shape => if shape.isComplex then .document else .text
  | .entry shape => if shape.isComplex then .documentOrText else .text
  | .unknown => if inTable then .documentOrText else .text

end Target

/-- Puts a value under names that lead into dictionaries. A value of another kind on the way is left
as it is. -/
def putUnder : List Text → Value → List (Key × Value) → List (Key × Value)
  | [], _, members => members
  | [name], v, members => Assoc.put (.text name) v members
  | name :: names, v, members =>
    match Assoc.get? (Key.text name) members with
    | some (.dict inner) => Assoc.put (.text name) (.dict (putUnder names v inner)) members
    | some _ => members
    | none => Assoc.put (.text name) (.dict (putUnder names v [])) members

/-- The value to which names lead. -/
def valueUnder? : List Text → List (Key × Value) → Option Value
  | [], _ => none
  | [name], members => Assoc.get? (Key.text name) members
  | name :: names, members =>
    match Assoc.get? (Key.text name) members with
    | some (.dict inner) => valueUnder? names inner
    | _ => none

namespace Environment

def readDocument (part : String) (text : Text) : Except EnvironmentFault Value :=
  match Json.read text with
  | .ok v => .ok v
  | .error (.tooDeep why) => .error (.tooDeep why)
  | .error _ => .error (.notDocument part)

/-- The value of a variable that leads to a setting of a part, and whether it stands for null. -/
def readSetting (part : String) (reading : Target.Reading) (entry : Variable) :
    Except EnvironmentFault (Value × Bool) :=
  let asText : Value × Bool :=
    (if entry.isNull then .null else .text entry.text, entry.isNull)
  if entry.text.isEmpty then .ok asText
  else match reading with
    | .text => .ok asText
    | .document => (readDocument part entry.text).map (·, false)
    | .documentOrText =>
      match readDocument part entry.text with
      | .ok v => .ok (v, false)
      | .error (.tooDeep why) => .error (.tooDeep why)
      | .error _ => .ok asText

/-- Adds the setting of a variable. What stands for null gives way to anything that is there. -/
def addSetting (names : List Text) (v : Value) (givesWay : Bool) (members : List (Key × Value)) :
    List (Key × Value) :=
  if givesWay then
    match valueUnder? names members with
    | none | some (.dict []) => putUnder names v members
    | some _ => members
  else putUnder names v members

/-- The parts of the name of a variable behind its beginning. -/
def namesOf (separator : Separator) (rest : Text) : Except EnvironmentFault (List Text) :=
  match separator.limit with
  | .ok limit => .ok (Text.pieces separator.text limit rest)
  | .error why => .error (.source why)

/-- The single settings of a part, after those that were found before. -/
def nestedFrom (source : Source) (start : Text) (part : String) (shape : Shape)
    (separator : Separator) (members : List (Key × Value)) :
    List Variable → Except EnvironmentFault (List (Key × Value))
  | [] => .ok members
  | entry :: rest =>
    let first := source.variableName start part ++ separator.text
    if first.isPrefixOf entry.name then do
      let names ← namesOf separator (entry.name.drop first.length)
      let target := names.foldl (fun target name => target.follow (source.meets start name))
        (Target.setting shape)
      let (v, givesWay) ← readSetting part (target.reading shape.isTable) entry
      nestedFrom source start part shape separator (addSetting names v givesWay members) rest
    else nestedFrom source start part shape separator members rest

/-- The single settings of a part. -/
def nested (source : Source) (start : Text) (part : String) (shape : Shape)
    (entries : List Variable) : Except EnvironmentFault (List (Key × Value)) :=
  match source.separator with
  | some separator => nestedFrom source start part shape separator [] entries
  | none => .ok []

end Environment

mutual

/-- A dictionary with the members of another laid over it; dictionaries that meet are merged. -/
def Value.overlay (below : Value) : Value → Value
  | .dict above =>
    match below with
    | .dict members => .dict (Value.overlayMembers members above)
    | _ => .dict above
  | v => v

/-- Members with others laid over them. -/
def Value.overlayMembers (below : List (Key × Value)) : List (Key × Value) → List (Key × Value)
  | [] => below
  | (k, v) :: rest =>
    let merged := match Assoc.get? k below with
      | some old => Value.overlay old v
      | none => v
    Value.overlayMembers (Assoc.put k merged below) rest

end

/-- Writes the names of fields as they are declared. -/
def Shape.declare : Shape → Value → Value
  | .record fields, .dict members =>
    .dict (Assoc.ofList (members.map fun member =>
      match member.1 with
      | .text name =>
        match fields.attach.find? fun field => Text.lower field.1.1 == Text.lower name with
        | some ⟨(declared, shape), _⟩ => (.text declared, Shape.declare shape member.2)
        | none => member
      | _ => member))
  | _, v => v
termination_by shape => sizeOf shape
decreasing_by
  rename_i h
  have := List.sizeOf_lt_of_mem h
  simp_all
  omega

namespace Environment

/-- One part of the configuration as the variables give it. A document that is null counts as none;
a word for null does not. -/
def part? (source : Source) (start : Text) (part : String) (shape : Shape)
    (entries : List Variable) : Except EnvironmentFault (Option Value) := do
  match entries.find? fun entry => entry.name == source.variableName start part with
  | none =>
    let nested ← nested source start part shape entries
    return if nested.isEmpty then none else some (.dict nested)
  | some entry =>
    if entry.isNull then return some .null
    match ← readDocument part entry.text with
    | .null => return none
    | .dict members =>
      let nested ← nested source start part shape entries
      return some (.dict (Value.overlayMembers members nested))
    | v => return some v

/-- The parts of the configuration as the variables give them. -/
def settingsOf (source : Source) (start : Text) (entries : List Variable) :
    List (String × Shape) → Except EnvironmentFault (List (Key × Value))
  | [] => .ok []
  | (part, shape) :: rest => do
    let found ← part? source start part shape entries
    let others ← settingsOf source start entries rest
    return match found with
      | none => others
      | some v => (.text part, if source.caseSensitive then v else shape.declare v) :: others

/-- The settings in the environment. What no name can begin with does no harm to the settings if no
name has to begin with it, but it has no spelling either. -/
def settings (env : Environment) (source : Source) :
    Except EnvironmentFault (List (Key × Value)) :=
  match source.start with
  | .text start =>
    settingsOf source (if source.isStarted then start else []) (source.entries env) Shape.config
  | .other kind =>
    if source.isStarted then .error (.noStart "agents")
    else do
      let found ← settingsOf source [] (source.entries env) Shape.config
      if source.caseSensitive then return found else throw (.source (.noAttribute kind "lower"))

end Environment

end Condense
