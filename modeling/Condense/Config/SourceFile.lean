import Condense.Config.SourceFault
import Condense.Text.Encoding
import Condense.Text.Search
import Condense.Value.Sequence

/-!
# Files of settings

A document may name files and folders with further settings. None of them is there, but the names
have to be names of files, and how far to look for them has to be a number.

A path, a list of paths, the home of an account and the depth of a search are read as the source of
the settings documents its options; the lengths of paths and of their steps, and the accounts, are
those of a POSIX system.
-/

namespace Condense

namespace SourceFile

/-- The greatest number by which steps and pieces can be counted. -/
def countLimit : Int := 0x8000000000000000

/-- The accounts that every machine has. -/
def accounts : List String := [
  "root", "daemon", "bin", "sys", "sync", "games", "man", "lp", "mail", "news", "uucp", "proxy",
  "www-data", "backup", "list", "irc", "nobody"]

/-- The name of an account can be looked up. -/
def isAccountName (name : Text) : Bool :=
  name.all fun
    | .char c => c.toNat != 0
    | .half unit => 0x480 ≤ unit.val && unit.val < 0x500

/-- The steps of a path that lead anywhere. -/
def steps (path : Text) : List Text :=
  (Text.splitOn '/' path).filter fun step => !step.isEmpty && step != Text.ofString "."

/-- A path may begin in the home of an account. -/
def checkHome (path : Text) : Except SourceFault Unit :=
  if Text.startsWith "/" path then .ok ()
  else match steps path with
    | (.char '~' :: name) :: _ =>
      if name.isEmpty || accounts.any fun account => Text.ofString account == name then .ok ()
      else .error (if isAccountName name then .noHome else .invalid)
    | _ => .ok ()

def longestStep : Nat := 255

def longestPath : Nat := 4095

/-- The lengths of a path and of its steps are those of the names of files. -/
def checkLength (path : Text) : Except SourceFault Unit :=
  if longestPath < (Text.encodeUtf8 path).length ||
      (steps path).any fun step => longestStep < (Text.encodeUtf8 step).length then
    .error .nameTooLong
  else .ok ()

def pathOf : Value → Except SourceFault Text
  | .text t => do
    checkHome t
    return t
  | v => .error (.notPath v.kind)

/-- The paths that a value names: one, or a sequence of them. -/
def pathsOf : Value → Except SourceFault (List Value)
  | .text t => .ok [.text t]
  | v =>
    match v.sequence? with
    | some items => .ok items
    | none => .error (.notIterable v.kind)

/-- In how many folders above its own a file is looked for. -/
def checkDepth : Option Value → Except SourceFault Unit
  | none | some (.bool _) => .ok ()
  | some (.int n) => if n < countLimit then .ok () else .error .invalid
  | some (.real x) => if x.le (Binary64.zero false) then .ok () else .error .invalid
  | some v => .error (.notOrdered v.kind)

/-- Files with further variables have names under which they can be looked for. None of them is
there. -/
def check (depth : Option Value) : Option Value → Except SourceFault Unit
  | none => .ok ()
  | some v => do
    (← pathsOf v).forM fun file => do
      let path ← pathOf file
      checkDepth depth
      checkLength path

/-- Folders with further settings have names that can be read. None of them is there. -/
def checkFolders : Option Value → Except SourceFault Unit
  | none => .ok ()
  | some v => do
    let paths ← (← pathsOf v).mapM pathOf
    paths.forM checkLength

end SourceFile

end Condense
