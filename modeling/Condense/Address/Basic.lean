import Condense.Address.Escape
import Condense.Address.Numeric
import Condense.Address.Parts
import Condense.Domain.Name
import Condense.Number.Reading
import Condense.Text.Case

/-!
# Addresses

An address in its normal form: scheme and host in lower case, a host name in ASCII, no port that the
scheme implies, no steps that go nowhere, and whatever may not stand in a part escaped. An address
that names a scheme and a host leads somewhere on its own; any other is asked for as a path from the
root.

The normal form is the syntax-based normalization of the generic syntax of URIs. What the generic
syntax leaves open is decided as an HTTP client documents it that refuses an address before it sends
anything: the greatest length, controls, ports and the texts of the refusals.
-/

namespace Condense

/-- Why a text is no address that can be asked for. -/
inductive AddressFault where
  | tooLong
  | partTooLong (part : String)
  | control (c : Char) (position : Nat)
  | partControl (part : String) (c : Char) (position : Nat)
  | badQuad (host : Text)
  | badGroups (host : Text)
  | badName (host : Text)
  | badPort (port : Text)
  /-- A path behind an authority that does not begin at the root. -/
  | unrooted
  | startsWithSlashes
  | startsWithColon
  /-- Half of a surrogate pair where bytes are needed, or a host that is not ASCII. -/
  | unencodable
  deriving DecidableEq, Repr

namespace AddressFault

def message : AddressFault → Text
  | .tooLong => "URL too long"
  | .partTooLong part => "URL component '" ++ part ++ "' too long"
  | .control c position =>
    "Invalid non-printable ASCII character in URL, " ++ Text.quoted [.char c] ++ " at position " ++
      integerText position ++ "."
  | .partControl part c position =>
    "Invalid non-printable ASCII character in URL " ++ part ++ " component, " ++
      Text.quoted [.char c] ++ " at position " ++ integerText position ++ "."
  | .badQuad host => "Invalid IPv4 address: " ++ Text.quoted host
  | .badGroups host => "Invalid IPv6 address: " ++ Text.quoted host
  | .badName host => "Invalid IDNA hostname: " ++ Text.quoted host
  | .badPort port => "Invalid port: " ++ Text.quoted port
  | .unrooted => "For absolute URLs, path must be empty or begin with '/'"
  | .startsWithSlashes => "Relative URLs cannot have a path starting with '//'"
  | .startsWithColon => "Relative URLs cannot have a path starting with ':'"
  | .unencodable => "the codec can't encode the address"

end AddressFault

/-- An address in its normal form. A host in brackets is kept without them. -/
structure Address where
  scheme : Text := []
  user : Text := []
  host : Text := []
  port : Option Int := none
  path : Text := []
  query : Option Text := none
  fragment : Option Text := none
  deriving DecidableEq, Repr

namespace Address

/-- The greatest length of an address and of each part of a path that is asked for. -/
def longest : Nat := 65536

def isControl (c : Char) : Bool := c.toNat < 0x20 || c.toNat == 0x7F

def control? (t : Text) : Option (Char × Nat) :=
  t.zipIdx.findSome? fun (p, position) =>
    match p with
    | .char c => if isControl c then some (c, position) else none
    | .half _ => none

/-- Escapes what is not allowed in a part, which has to consist of characters. -/
def escapePart (allowed : Char → Bool) (t : Text) : Except AddressFault Text :=
  if t.hasHalf then .error .unencodable else .ok (escape allowed t)

/-- What stands between the brackets around a host. -/
def unbracketed? (host : Text) : Option Text :=
  match host, host.getLast? with
  | .char '[' :: rest, some (.char ']') => some rest.dropLast
  | _, _ => none

def normalHost (host : Text) : Except AddressFault Text :=
  if host.isEmpty then .ok []
  else if looksLikeQuad host then if isQuad host then .ok host else .error (.badQuad host)
  else match unbracketed? host with
    | some inside => if isGrouped inside then .ok inside else .error (.badGroups host)
    | none =>
      if host.all (·.code < 0x80) then .ok (escape isHostChar (Text.lower host))
      else match Domain.encode? (Text.lower host) with
        | some name => .ok (Text.ofChars name)
        | none => .error (.badName host)

def impliedPort? (scheme : Text) : Option Int :=
  ([("ftp", 21), ("http", 80), ("https", 443), ("ws", 80), ("wss", 443)].find? fun entry =>
    Text.ofString entry.1 == scheme).map (·.2)

/-- The port, unless it is the one that the scheme implies. -/
def normalPort (scheme port : Text) : Except AddressFault (Option Int) :=
  if port.isEmpty then .ok none
  else match readInteger port with
    | .error _ => .error (.badPort port)
    | .ok n => .ok (if impliedPort? scheme = some n then none else some n)

/-- A step that stays. -/
def stay : Text := "."

/-- A step that leads back. -/
def back : Text := ".."

/-- The steps of a path, without those that stay or lead back. -/
def resolve (steps : List Text) : List Text :=
  steps.foldl (fun done step =>
    if step == stay then done
    else if step == back then (if done == [[]] then done else done.dropLast)
    else done ++ [step]) []

/-- A path without steps that stay or lead back. -/
def normalPath (path : Text) : Text :=
  let steps := Text.splitOn '/' path
  if steps.contains stay || steps.contains back then Text.join "/" (resolve steps) else path

/-- What is wrong with a path behind a scheme and an authority. -/
def pathFault? (hasScheme hasAuthority : Bool) (path : Text) : Option AddressFault :=
  if hasAuthority then
    if path.isEmpty || Text.startsWith "/" path then none else some .unrooted
  else if hasScheme then none
  else if Text.startsWith "//" path then some .startsWithSlashes
  else if Text.startsWith ":" path then some .startsWithColon
  else none

def ofParts (parts : Parts) : Except AddressFault Address := do
  let scheme := Text.lower parts.scheme
  let user ← escapePart isUserChar parts.user
  let host ← normalHost parts.host
  let port ← normalPort parts.scheme parts.port
  let hasAuthority := !user.isEmpty || !host.isEmpty || port.isSome
  match pathFault? (!scheme.isEmpty) hasAuthority parts.path with
  | some fault => .error fault
  | none =>
    let path ← escapePart isPathChar <|
      if !scheme.isEmpty || hasAuthority then normalPath parts.path else parts.path
    let query ← parts.query.mapM (escapePart isQueryChar)
    let fragment ← parts.fragment.mapM (escapePart isFragmentChar)
    return { scheme, user, host, port, path, query, fragment }

def ofText (t : Text) : Except AddressFault Address :=
  if longest < t.length then .error .tooLong
  else match control? t with
    | some (c, position) => .error (.control c position)
    | none => ofParts (Parts.ofText t)

/-- A host whose name seems to stand for another text. -/
def seemsEncoded (host : Text) : Bool :=
  Text.startsWith (Text.ofChars Domain.encodedStart) host

/-- The address leads to a host on its own. -/
def isAbsolute (address : Address) : Bool := !address.scheme.isEmpty && !address.host.isEmpty

/-- A host whose name seems to stand for another text can be read. -/
def hasReadableHost (address : Address) : Bool :=
  !seemsEncoded address.host || Domain.isReadable address.host

def readableHost (address : Address) : Text :=
  if seemsEncoded address.host then Domain.decode address.host else address.host

/-- The user, the host and the port of an address. -/
def authority (address : Address) : Text :=
  (if address.user.isEmpty then [] else address.user ++ Text.ofString "@") ++
    (if address.host.contains (.char ':') then
        Text.ofString "[" ++ address.host ++ Text.ofString "]"
      else address.host) ++
    match address.port with
    | some port => Text.ofString ":" ++ integerText port
    | none => []

def marked (mark : Char) : Option Text → Text
  | some part => .char mark :: part
  | none => []

def text (address : Address) : Text :=
  (if address.scheme.isEmpty then [] else address.scheme ++ Text.ofString ":") ++
    (if address.authority.isEmpty then [] else Text.ofString "//" ++ address.authority) ++
    address.path ++ marked '?' address.query ++ marked '#' address.fragment

def checkLength (name : String) (part : Text) : Except AddressFault Unit :=
  if longest < part.length then .error (.partTooLong name) else .ok ()

/-- The address that is asked for in place of one that leads to no host on its own: its path from
the root and its query. -/
def fromRoot (address : Address) : Except AddressFault Address := do
  let path : Text := .char '/' :: address.path.dropWhile (· == .char '/')
  checkLength "path" path
  checkLength "query" (address.query.getD [])
  return { path, query := address.query }

/-- The address as it is asked for. A host that brackets surround may name its zone in any script,
but is asked for in ASCII only. -/
def requested (address : Address) : Except AddressFault Address :=
  if !address.isAbsolute then address.fromRoot
  else if address.host.all (·.code < 0x80) then .ok address
  else .error .unencodable

end Address

end Condense
