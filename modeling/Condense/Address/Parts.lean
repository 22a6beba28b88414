import Condense.Text.Basic

/-!
# Parts of addresses

How an address is taken apart. Every text has parts, of which most may be missing. The parts are
those that the generic syntax of URIs finds with its regular expression, and an authority is taken
apart once more into a user, a host and a port.
-/

namespace Condense.Address

/-- The parts of an address as they are written. -/
structure Parts where
  scheme : Text := []
  user : Text := []
  host : Text := []
  port : Text := []
  path : Text := []
  query : Option Text := none
  fragment : Option Text := none

namespace Parts

/-- The part of a text in front of the first of some characters, and the rest. -/
def upTo (stops : String) (t : Text) : Text × Text :=
  t.span fun p => !p.is stops.toList.contains

/-- What follows a mark up to the first of some characters, and the rest. -/
def behind? (mark : Char) (stops : String) : Text → Option Text × Text
  | [] => (none, [])
  | p :: rest =>
    if p == .char mark then
      let (part, rest) := upTo stops rest
      (some part, rest)
    else (none, p :: rest)

def isSchemeChar (c : Char) : Bool := c.isAlphanum || c == '+' || c == '.' || c == '-'

/-- The scheme in front of a colon, which may be empty, and the rest. -/
def takeScheme (t : Text) : Text × Text :=
  match t.span (·.is isSchemeChar) with
  | (scheme, .char ':' :: rest) =>
    if scheme.head?.all (·.is Char.isAlpha) then (scheme, rest) else ([], t)
  | _ => ([], t)

/-- The user in front of the last at sign, if there is one, and the rest. -/
def takeUser (t : Text) : Text × Text :=
  match t.reverse.span (· != .char '@') with
  | (rest, _ :: user) => (user.reverse, rest.reverse)
  | _ => ([], t)

/-- A host in brackets, which ends with the last bracket. -/
def bracketed? (t : Text) : Option Text :=
  match t with
  | .char '[' :: _ =>
    let host := (t.reverse.dropWhile (· != .char ']')).reverse
    if host.isEmpty then none else some host
  | _ => none

def takeHost (t : Text) : Text × Text :=
  let (host, rest) := match bracketed? t with
    | some host => (host, t.drop host.length)
    | none => upTo ":@" t
  match rest with
  | .char ':' :: port => (host, port)
  | port => (host, port)

/-- The user, the host and the port of an authority. -/
def withAuthority (parts : Parts) (authority : Text) : Parts :=
  let (user, rest) := takeUser authority
  let (host, port) := takeHost rest
  { parts with user, host, port }

/-- The authority behind two slashes, if there is one, and the rest. -/
def takeAuthority : Text → Text × Text
  | .char '/' :: .char '/' :: rest => upTo "/?#" rest
  | rest => ([], rest)

def ofText (t : Text) : Parts :=
  let (scheme, rest) := takeScheme t
  let (authority, rest) := takeAuthority rest
  let (path, rest) := upTo "?#" rest
  let (query, rest) := behind? '?' "#" rest
  let (fragment, _) := behind? '#' "" rest
  withAuthority { scheme, path, query, fragment } authority

end Parts

end Condense.Address
