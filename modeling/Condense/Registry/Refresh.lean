import Condense.Address.Relative
import Condense.Compressed.Container
import Condense.Json.Reader
import Condense.Registry
import Condense.Text.Encoding

/-!
# Refreshing a registry

The list of models is fetched from its address. What goes wrong on the way leaves the registry as it
was; only an address that cannot be asked for, and a list that cannot be followed to its end, are
faults of their own.
-/

namespace Condense

/-- What a server sends. -/
structure Response where
  status : Int := 200
  headers : List (Text × Text) := []
  body : List UInt8 := []

/-- How a fetch ends: with a response, without one, or with something that is no response. -/
inductive Fetched where
  | response (response : Response)
  | failed (why : Text)
  | unreadable (why : Text)

namespace Response

/-- The value of a header, whatever the case of its name; several values stand one after the other.
-/
def header? (response : Response) (name : String) : Option Text :=
  match response.headers.filter fun header => Text.lower header.1 == Text.ofString name with
  | [] => none
  | found => some (Text.join ", " (found.map (·.2)))

def isPlain (response : Response) : Bool :=
  response.headers.all fun header => header.1.all (·.code < 0x80) && header.2.all (·.code < 0x80)

/-- The compressions that a header names, in the order in which they were applied. -/
def compressions (response : Response) : List Compressed.Compression :=
  (Text.splitOn ',' ((response.header? "content-encoding").getD [])).filterMap fun name =>
    Compressed.Compression.ofName? (Text.lower (Text.trim name))

/-- The body without the compressions that were applied to it. -/
def contents? (response : Response) : Option (List UInt8) :=
  Compressed.Compression.expandAll? response.compressions response.body

def isSuccess (response : Response) : Bool := 200 ≤ response.status && response.status < 300

/-- Where the response sends to another address. -/
def location? (response : Response) : Option Text :=
  if [301, 302, 303, 307, 308].contains response.status then response.header? "location" else none

end Response

/-- Why a refresh ends without an answer. -/
inductive RefreshFault where
  | address (why : AddressFault)
  /-- The list is too deep to be read. -/
  | tooDeep (why : TooDeep)
  /-- The models are no list and hold no items. -/
  | notIterable (kind : String)
  /-- A number of an entry lies beyond the range of its format. -/
  | overflow (why : ConversionFault)
  deriving DecidableEq, Repr

def RefreshFault.message : RefreshFault → Text
  | .address why => why.message
  | .tooDeep why => why.message
  | .notIterable kind => "'" ++ kind ++ "' object is not iterable"
  | .overflow why => why.message

/-- A refresh: its notices, the address that was asked for, and whether the models were replaced,
with the registry afterwards. -/
structure Refresh where
  notices : List Notice := []
  requested : Option Text := none
  outcome : Except RefreshFault (Bool × Registry)

namespace Registry

def sizeLimit : Nat := 2097152

/-- What is reported where a text cannot be turned into bytes or bytes into a text. -/
def codecMessage : Text := "the codec can't convert it"

/-- The entries of a published list. What is no dictionary is no entry; a text and a dictionary hold
nothing but texts. -/
def entries (document : Value) : Except RefreshFault (List Value) :=
  match document with
  | .dict _ =>
    match document.member? "models" with
    | none | some (.text _) | some (.bytes _) | some (.dict _) => .ok []
    | some (.list items) => .ok items
    | some v => .error (.notIterable v.kind)
  | _ => .ok []

/-- The models among the entries; an entry that is no model is left out. -/
def modelsOf : List Value → List Notice × Except RefreshFault (List Model)
  | [] => ([], .ok [])
  | .dict members :: rest =>
    match Model.ofMembers members with
    | .ok model =>
      let (notices, models) := modelsOf rest
      (notices, models.map (model :: ·))
    | .error why =>
      if why.isOverflow then ([], .error (.overflow why))
      else
        let (notices, models) := modelsOf rest
        (.entrySkipped why.message :: notices, models)
  | _ :: rest => modelsOf rest

def adopt (registry : Registry) (document : Value) : Refresh :=
  match entries document with
  | .error why => { outcome := .error why }
  | .ok entries =>
    match modelsOf entries with
    | (notices, .error why) => { notices, outcome := .error why }
    | (notices, .ok models) =>
      let registry := registry.load models
      { notices := notices ++ [.modelsLoaded registry.size], outcome := .ok (true, registry) }

/-- The registry stays as it is. -/
def keep (registry : Registry) (notice : Notice) : Refresh :=
  { notices := [notice], outcome := .ok (false, registry) }

def read (registry : Registry) (contents : List UInt8) : Refresh :=
  if sizeLimit < contents.length then registry.keep (.sourceTooLarge contents.length)
  else match Text.decodeDocument? contents with
    | none => registry.keep (.parseFailed codecMessage)
    | some t =>
      match Json.read t with
      | .ok document => registry.adopt document
      | .error (.tooDeep why) => { outcome := .error (.tooDeep why) }
      | .error why => registry.keep (.parseFailed why.message)

/-- What is reported where a host has a name that stands for no text. -/
def hostMessage : Text := "the host has no readable name"

/-- The registry after a response that sends elsewhere. It is not followed, but where it leads has
to be an address of a host whose name is readable. -/
def redirect (registry : Registry) (address : Address) (location : Text) : Refresh :=
  match Address.ofText location with
  | .error _ => registry.keep (.fetchFailed "the redirection leads to no address")
  | .ok target =>
    if !target.scheme.isEmpty && !target.hasReadableHost then
      registry.keep (.parseFailed hostMessage)
    else match address.follow target with
      | .error why => { outcome := .error (.address why) }
      | .ok target =>
        if target.hasReadableHost then
          registry.keep (.fetchFailed "redirections are not followed")
        else registry.keep (.parseFailed hostMessage)

/-- The registry after a response. A response to an address without a host belongs to nobody and is
not read. -/
def receive (registry : Registry) (address : Address) (response : Response) : Refresh :=
  if !response.isPlain then registry.keep (.parseFailed codecMessage)
  else match response.contents? with
    | none => registry.keep (.fetchFailed "the compressed contents are damaged")
    | some contents =>
      if !address.isAbsolute then registry.keep (.parseFailed "the address has no host")
      else match response.location? with
        | some location => registry.redirect address location
        | none =>
          if response.isSuccess then registry.read contents
          else registry.keep (.fetchFailed ("status " ++ integerText response.status))

def refresh (registry : Registry) (fetched : Fetched) : Refresh :=
  match Address.ofText registry.sourceUrl with
  | .error .unencodable => registry.keep (.parseFailed codecMessage)
  | .error why => { outcome := .error (.address why) }
  | .ok address =>
    match address.requested with
    | .error .unencodable => registry.keep (.parseFailed codecMessage)
    | .error why => { outcome := .error (.address why) }
    | .ok asked =>
      if asked.hasReadableHost then
        let refresh := match fetched with
          | .failed why => registry.keep (.fetchFailed why)
          | .unreadable why => registry.keep (.parseFailed why)
          | .response response => registry.receive address response
        { refresh with requested := some asked.text }
      else registry.keep (.parseFailed hostMessage)

end Registry

end Condense
