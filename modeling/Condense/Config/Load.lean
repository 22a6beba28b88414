import Condense.Config.Arguments
import Condense.Config.Disk
import Condense.Config.Environment
import Condense.Config.Validate
import Condense.Json.Writer
import Condense.Notice
import Condense.Text.Encoding

/-!
# Loading and saving

A configuration out of a file and the environment. A file that is no document, or whose settings are
not valid, is reported and left aside, so that the environment alone counts.
-/

namespace Condense

/-- Why there is no configuration. -/
inductive LoadFault where
  | undecodable
  | tooManyDigits (count : Nat)
  | tooDeep (why : TooDeep)
  | disk (why : DiskFault)
  | environment (why : EnvironmentFault)
  | source (why : SourceFault)
  | invalid (issues : List Issue)
  deriving DecidableEq, Repr

namespace Config

def ofChecked (checked : Checked Config) : Except LoadFault Config :=
  match checked with
  | .ok config => .ok config
  | .error issues => .error (.invalid issues)

def ofEnvironment (env : Environment) : Except LoadFault Config :=
  match env.settings {} with
  | .error (.tooDeep why) => .error (.tooDeep why)
  | .error why => .error (.environment why)
  | .ok members => ofChecked (read members)

/-- What is wrong with the sources of settings is an issue of the document, if it is about a value;
anything else is not. -/
def ofSource {α : Type} (found : Except SourceFault α) : Except LoadFault α :=
  found.mapError fun
    | .invalid => .invalid [⟨[], .valueError⟩]
    | why => .source why

/-- The settings in variables. Variables without settings are an issue of the document; if they
cannot be read at all, they are not. -/
def ofVariables {α : Type} (found : Except EnvironmentFault α) : Except LoadFault α :=
  found.mapError fun
    | .tooDeep why => .tooDeep why
    | .source .invalid | .notDocument _ | .noStart _ => .invalid [⟨[], .valueError⟩]
    | .source why => .source why

/-- The members of a document, laid over the environment, under arguments if there are any. -/
def layered (env : Environment) (members : List (Key × Value)) :
    Except LoadFault (List (Key × Value)) := do
  let source ← ofSource (Source.ofMembers members)
  let arguments ← ofSource (Arguments.ofMembers members)
  let above ← ofVariables (arguments.elim (.ok []) Arguments.settings)
  let below ← ofVariables (env.settings source)
  ofSource source.folders
  return Value.overlayMembers below
    (Value.overlayMembers (settle (Source.settings members)) above)

/-- Validates the members of a document, which may also say outright that there are no sources of
settings. -/
def validate (env : Environment) (members : List (Key × Value)) : Except LoadFault Config := do
  ofSource (Source.checkNames members)
  match Source.option? members "_build_sources" with
  | some sources =>
    ofSource (Source.checkSources sources)
    ofChecked (read [])
  | none => ofChecked (read (← layered env members))

def validateDocument (env : Environment) : Value → Except LoadFault Config
  | .dict members => validate env members
  | _ => ofChecked (.issue .modelType)

/-- A file that is left aside, and the configuration in the environment alone. -/
def aside (env : Environment) (path why : Text) : List Notice × Except LoadFault Config :=
  ([.settingsUnreadable path why, .defaultSettings], ofEnvironment env)

/-- The configuration in a file; there may be no file. -/
def load (env : Environment) (path : Text) (file : Option (List UInt8)) :
    List Notice × Except LoadFault Config :=
  match file with
  | none => ([], ofEnvironment env)
  | some bytes =>
    match Text.decodeUtf8? bytes with
    | none => ([], .error .undecodable)
    | some t =>
      match Json.read t with
      | .error (.tooManyDigits count) => ([], .error (.tooManyDigits count))
      | .error (.tooDeep why) => ([], .error (.tooDeep why))
      | .error .malformed => aside env path Json.Fault.malformed.message
      | .ok document =>
        match fromDisk document with
        | .error why => ([], .error (.disk why))
        | .ok members =>
          match validate env members with
          | .error (.invalid issues) =>
            aside env path (integerText issues.length ++ " validation errors")
          | .error why => ([], .error why)
          | .ok config => ([], .ok config)

/-- The text of the file that keeps a configuration. If an integer in it has too many digits there is
no such text, and the file is left broken off in front of that integer. -/
def save (config : Config) : Except Json.Unwritable Text :=
  Json.write (.dict (renameSettings camelCase config.members))

/-- Where a configuration is kept, relative to the home directory. -/
def defaultPath : List String := [".contextguard", "config.json"]

end Config

end Condense
