import Condense.Config.Disk
import Condense.Config.Environment
import Condense.Json.Writer
import Condense.Text.Blank

/-!
# Settings in arguments

A document may hold arguments, which win over its own settings. Every setting has an option that is
named by its path, and so has every part that holds settings. The value of an option follows it, or
stands behind an equality sign.
-/

namespace Condense

/-- How an option takes its value. -/
inductive OptionKind where
  /-- One value, of which the last one counts. -/
  | single
  /-- A document of which the last one counts. Without a value it is empty. -/
  | part
  /-- Values whose entries are collected. -/
  | table
  deriving DecidableEq, Repr

/-- An option is named by a path of settings. -/
structure ArgumentOption where
  path : Text
  kind : OptionKind

mutual

/-- The options of a setting and of all settings in it. -/
def Shape.options (path : Text) : Shape → List ArgumentOption
  | .leaf => [⟨path, .single⟩]
  | .table _ => [⟨path, .table⟩]
  | .record fields => ⟨path, .part⟩ :: Shape.fieldOptions (path ++ Text.ofString ".") fields

def Shape.fieldOptions (start : Text) : List (String × Shape) → List ArgumentOption
  | [] => []
  | (name, shape) :: rest => Shape.options (start ++ name) shape ++ Shape.fieldOptions start rest

end

/-- Arguments, and how they are to be read. -/
structure Arguments where
  given : List Text
  /-- What the paths of all options begin with. -/
  start : Text := []
  caseSensitive : Bool := false
  /-- Arguments that are of no use end the program. -/
  exits : Bool := true
  /-- Arguments that belong to no option are passed over. -/
  passesUnknown : Bool := false
  /-- Only single settings and tables have options. -/
  avoidsDocuments : Bool := false
  /-- The text that stands for null. -/
  nullWord : Value := .text "null"

namespace Arguments

/-- What a single argument is. -/
inductive Token where
  | option (option : ArgumentOption) (value : Option Text)
  | help (isPlain : Bool)
  | unknown
  | plain

/-- A dash, behind which an argument names an option. -/
def dash : CodePoint := .char '-'

def options (arguments : Arguments) : List ArgumentOption :=
  let all := Shape.fieldOptions arguments.start Shape.config
  if arguments.avoidsDocuments then all.filter fun option => option.kind != .part else all

/-- The option that an argument names with two dashes. -/
def named? (options : List ArgumentOption) (t : Text) : Option ArgumentOption :=
  options.find? fun option => dash :: dash :: option.path == t

/-- A negative number looks like the name of an option, but is none. -/
def isNegative : Text → Bool
  | [] => false
  | sign :: body =>
    let (whole, rest) := body.span (·.is Char.isDigit)
    sign == dash && match rest with
      | [] => !whole.isEmpty
      | point :: fraction =>
        point == .char '.' && !fraction.isEmpty && fraction.all (·.is Char.isDigit)

/-- What an argument is. One that holds a space names no option unless there is one. -/
def token (options : List ArgumentOption) (t : Text) : Token :=
  let (name, value) := match t.span (· != .char '=') with
    | (name, _ :: value) => (name, some value)
    | (name, []) => (name, none)
  if t.head? != some dash || t.length == 1 then .plain
  else match named? options t with
    | some option => .option option none
    | none =>
      match value.bind fun value => (named? options name).map fun option => (option, value) with
      | some (option, value) => .option option (some value)
      | none =>
        if name == Text.ofString "--help" || Text.startsWith "-h" t then
          .help (t == Text.ofString "--help" || t == Text.ofString "-h")
        else if isNegative t || t.contains (.char ' ') then .plain
        else .unknown

/-- What was read so far: the values of options, and whether an argument belonged to none. -/
structure Found where
  values : List (Text × List Text) := []
  hasUnknown : Bool := false

def Found.add (found : Found) (option : ArgumentOption) (value : Text) : Found :=
  let before := if option.kind == .table then (Assoc.get? option.path found.values).getD [] else []
  { found with values := Assoc.put option.path (before ++ [value]) found.values }

def useless (arguments : Arguments) : SourceFault := if arguments.exits then .exit 2 else .invalid

/-- Reads argument after argument. What follows two dashes that stand alone belongs to no option. -/
def readAll (arguments : Arguments) (options : List ArgumentOption) (found : Found) :
    List Text → Except SourceFault Found
  | [] => .ok found
  | t :: rest =>
    if t == [dash, dash] then .ok { found with hasUnknown := true }
    else match token options t with
      | .plain | .unknown => readAll arguments options { found with hasUnknown := true } rest
      | .help isPlain => .error (if isPlain then .exit 0 else arguments.useless)
      | .option option (some value) => readAll arguments options (found.add option value) rest
      | .option option none =>
        match rest with
        | value :: others =>
          match token options value with
          | .plain => readAll arguments options (found.add option value) others
          | _ =>
            if option.kind == .part then
              readAll arguments options (found.add option "\x7b\x7d") (value :: others)
            else .error arguments.useless
        | [] =>
          if option.kind == .part then .ok (found.add option "\x7b\x7d")
          else .error arguments.useless

/-- An argument with the name of its option in small letters. Behind the name it ends with its first
line. -/
def spelled (arguments : Arguments) (t : Text) : Text :=
  match t with
  | sign :: p :: _ =>
    let isName (p : CodePoint) : Bool := !p.is Text.isBlank && p != .char '='
    if !arguments.caseSensitive && sign == dash && isName p then
      let (name, rest) := t.span isName
      Text.lower name ++ rest.takeWhile (· != .char '\n')
    else t
  | t => t

/-- The document at the front of a text, from a bracket to the one that closes it, and what follows
it. `before` is the code point before, `opened` counts the brackets. -/
def takeDocument (close : Char) (before : CodePoint) (isQuoted : Bool) (opened : Int)
    (taken : Text) : Text → Option (Text × Text)
  | [] => none
  | p :: rest =>
    let go (isQuoted : Bool) (opened : Int) : Option (Text × Text) :=
      takeDocument close p isQuoted opened (p :: taken) rest
    if p == .char '"' && before != .char '\\' then go (!isQuoted) opened
    else if isQuoted then go true opened
    else if p == .char '\x7b' || p == .char '[' then go false (opened + 1)
    else if p == .char '\x7d' || p == .char ']' then
      if p == .char close && opened == 1 then some ((p :: taken).reverse, rest)
      else go false (opened - 1)
    else go false opened

/-- The text in front of the first comma that is not quoted, and what follows it. -/
def takePair (before : CodePoint) (isQuoted : Bool) (taken : Text) : Text → Option (Text × Text)
  | [] => if isQuoted then none else some (taken.reverse, [])
  | p :: rest =>
    let isQuoted := isQuoted != (p == .char '"' && before != .char '\\')
    if !isQuoted && p == .char ',' then some (taken.reverse, p :: rest)
    else takePair p isQuoted (p :: taken) rest

/-- The entries of a document that is written out. -/
def readEntries? (t : Text) : Option (List (Key × Value)) :=
  match Json.read t with
  | .ok v => v.toMembers.toOption
  | .error _ => none

/-- A quotation mark stands at the front of a text. -/
def isOpened (t : Text) : Bool := t.head? == some (.char '"')

/-- A quotation mark stands at the end of a text. -/
def isClosed (t : Text) : Bool := t.getLast? == some (.char '"')

/-- The entry that a name and a value with an equality sign between them stand for. -/
def readPair? (t : Text) : Option (Key × Value) :=
  match (Text.trim t).span (· != .char '=') with
  | (name, _ :: value) =>
    if isOpened name && !isClosed name && !isOpened value && isClosed value then none
    else
      let bare := Text.trimWith (· == '"')
      some (.text (bare name), .text (bare value))
  | _ => none

/-- The entries in the value of an option for a table: documents and pairs with commas between them.
The number bounds them. -/
def readTable? : Nat → List (Key × Value) → Text → Option (List (Key × Value))
  | 0, entries, _ => some entries
  | fuel + 1, entries, t =>
    match Text.trim t with
    | [] => some entries
    | .char ',' :: rest => readTable? fuel entries rest
    | p :: rest => do
      let (more, rest) ←
        if p == .char '\x7b' then do
          let (document, rest) ← takeDocument '\x7d' p false 1 [p] rest
          pure (← readEntries? document, rest)
        else if p == .char '[' then do
          let (document, rest) ← takeDocument ']' p false 1 [p] rest
          pure (← readEntries? document, rest)
        else do
          let (pair, rest) ← takePair (.char ' ') false [] (p :: rest)
          pure ([← readPair? pair], rest)
      readTable? fuel (more.foldl (fun entries entry => Assoc.put entry.1 entry.2 entries) entries)
        rest

/-- A value without brackets around it. -/
def unbracketed (t : Text) : Text :=
  match Text.trim t with
  | .char '[' :: rest =>
    if rest.getLast? == some (.char ']') then Text.trim rest.dropLast else .char '[' :: rest
  | t => t

/-- The entries in the values of an option for a table, as one document. -/
def tableOf? (values : List Text) : Option Text :=
  (values.foldlM (fun entries t => readTable? (t.length + 1) entries (unbracketed t)) []).map
    fun entries => Json.render .line (.dict entries)

def valueOf (options : List ArgumentOption) (path : Text) (values : List Text) :
    Except SourceFault (Text × Text) :=
  if options.any fun option => option.path == path && option.kind == .table then
    match tableOf? values with
    | some document => .ok (path, document)
    | none => .error .invalid
  else .ok (path, (values.getLast?).getD [])

/-- The values of all options that are given. -/
def values (arguments : Arguments) : Except SourceFault Environment := do
  let options := arguments.options
  let found ← readAll arguments options {} (arguments.given.map arguments.spelled)
  if found.hasUnknown && !arguments.passesUnknown then throw arguments.useless
  found.values.mapM fun entry => valueOf options entry.1 entry.2

/-- The source of settings that the options are. -/
def source (arguments : Arguments) : Source where
  start := .text arguments.start
  separator := some ⟨".", .ok none⟩
  nullWord := some arguments.nullWord
  caseSensitive := arguments.caseSensitive

def settings (arguments : Arguments) : Except EnvironmentFault (List (Key × Value)) := do
  (← arguments.values.mapError .source).settings arguments.source

def isNameChar (c : Char) : Bool := c.isAlphanum || c == '_' || 0x80 ≤ c.toNat

/-- What the paths of all options begin with: a name, or names with points between them. -/
def startOf : Option Value → Except SourceFault Text
  | none => .ok []
  | some (.text t) =>
    let name := t.filter (· != .char '.')
    if t.isEmpty then .ok []
    else if t.head? == some (.char '.') || t.getLast? == some (.char '.') ||
        !name.all (·.is isNameChar) || name.head?.any (·.is Char.isDigit) then
      .error .invalid
    else .ok (t ++ Text.ofString ".")
  | some v => if v.isTruthy then .error (.noAttribute v.kind "startswith") else .ok []

/-- A value as an argument. What counts as nothing is an empty one. -/
def argumentOf (v : Value) : Except SourceFault Text :=
  match v with
  | .text t => .ok t
  | v => if v.isTruthy then .error (.notString v.kind) else .ok []

/-- The arguments in the members of a document, if there are any. -/
def ofMembers (members : List (Key × Value)) : Except SourceFault (Option Arguments) := do
  match Source.option? members "_cli_parse_args" with
  | none => return none
  | some value =>
    let start ← startOf (Source.option? members "_cli_prefix")
    let given ← match value with
      | .bool _ => .ok []
      | .list items => items.mapM argumentOf
      | v => if v.isTruthy || v.kind == "str" || v.kind == "dict" then .error .invalid else .ok []
    let avoidsDocuments := Source.isSet members "_cli_avoid_json"
    let nullWord := (Source.option? members "_cli_parse_none_str").filter Value.isTruthy
    return some {
      given, start, avoidsDocuments
      caseSensitive := Source.isSet members "_case_sensitive"
      exits := (Source.option? members "_cli_exit_on_error").all Value.isTruthy
      passesUnknown := Source.isSet members "_cli_ignore_unknown_args"
      nullWord := nullWord.getD (.text (if avoidsDocuments then "None" else "null")) }

end Arguments

end Condense
