import Condense.Address.Basic

/-!
# Relative addresses

Where an address leads that stands in a response from another one. What it leaves out is taken from
the other address: the host, or the host and the folder of the path, and the fragment. The result is
checked like any address. This is the reference resolution of the generic syntax of URIs, for the
schemes that are known to be hierarchical; a fragment is handed on as HTTP asks for it.
-/

namespace Condense.Address

/-- The parts of an address as they would be written. -/
def parts (address : Address) : Parts :=
  let { scheme, path, query, fragment, .. } := address
  Parts.withAuthority { scheme, path, query, fragment } address.authority

/-- No part of an address is too long. -/
def checkLengths (address : Address) : Except AddressFault Unit := do
  checkLength "scheme" address.scheme
  checkLength "authority" address.authority
  checkLength "path" address.path
  checkLength "query" (address.query.getD [])
  checkLength "fragment" (address.fragment.getD [])

def withHost (address : Address) (host : Text) : Except AddressFault Address := do
  checkLengths address
  checkLength "host" host
  ofParts { address.parts with
    host := if host.contains (.char ':') then
        Text.ofString "[" ++ host ++ Text.ofString "]"
      else host }

def withFragment (address : Address) (fragment : Text) : Except AddressFault Address := do
  checkLengths { address with fragment := none }
  checkLength "fragment" fragment
  match control? fragment with
  | some (c, position) => throw (.partControl "fragment" c position)
  | none => ofParts { address.parts with fragment := some fragment }

/-- The schemes whose addresses may be relative. -/
def relativeSchemes : List String := [
  "", "ftp", "http", "gopher", "nntp", "imap", "wais", "file", "https", "shttp", "mms", "prospero",
  "rtsp", "rtspu", "sftp", "svn", "svn+ssh", "ws", "wss"]

def joinedSteps (base path : Text) : List Text :=
  if Text.startsWith "/" path then Text.splitOn '/' path
  else
    let before := Text.splitOn '/' base
    let folder := if before.getLast? == some [] then before else before.dropLast
    match folder ++ Text.splitOn '/' path with
    | first :: rest =>
      first :: (rest.dropLast.filter fun step => !step.isEmpty) ++ rest.getLast?.toList
    | [] => []

def joinedPath (base path : Text) : Text :=
  let steps := joinedSteps base path
  let done := steps.foldl (fun done step =>
    if step == back then done.dropLast else if step == stay then done else done ++ [step]) []
  let isOpen := steps.getLast?.any fun step => step == stay || step == back
  let joined := Text.join "/" (if isOpen then done ++ [[]] else done)
  if joined.isEmpty then "/" else joined

/-- A part that is not empty, behind its mark. -/
def markedIfGiven (mark : Char) (part : Option Text) : Text :=
  marked mark (part.filter fun part => !part.isEmpty)

/-- The text of an address relative to another one that leads to a host. -/
def joinedText (base : Address) (target : Text) : Text :=
  let parts := Parts.ofText target
  let scheme := if parts.scheme.isEmpty then base.scheme else Text.lower parts.scheme
  let isOwn := scheme == base.scheme &&
    relativeSchemes.any fun known => Text.ofString known == scheme
  let (authority, _) := Parts.takeAuthority (Parts.takeScheme target).2
  if target.isEmpty then base.text
  else if !isOwn then target
  else
    let authorityOr := if authority.isEmpty then base.authority else authority
    let (path, query) :=
      if !authority.isEmpty then (parts.path, parts.query)
      else if parts.path.isEmpty then
        (base.path, if (parts.query.getD []).isEmpty then base.query else parts.query)
      else (joinedPath base.path parts.path, parts.query)
    let slash := if path.isEmpty || Text.startsWith "/" path then [] else Text.ofString "/"
    scheme ++ Text.ofString "://" ++ authorityOr ++ slash ++ path ++ markedIfGiven '?' query ++
      markedIfGiven '#' parts.fragment

/-- The address relative to another one that leads to a host. -/
def join (base target : Address) : Except AddressFault Address :=
  ofText (joinedText base target.text)

/-- Where an address leads that stands in a response from another one. -/
def follow (base target : Address) : Except AddressFault Address := do
  let target ←
    if !target.scheme.isEmpty && target.host.isEmpty then target.withHost base.readableHost
    else pure target
  let target ← if target.isAbsolute then pure target else join base target
  let fragment := unescape (base.fragment.getD [])
  if fragment.isEmpty || !(target.fragment.getD []).isEmpty then return target
  else target.withFragment fragment

end Condense.Address
