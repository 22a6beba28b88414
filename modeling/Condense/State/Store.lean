import Condense.Json.Reader
import Condense.Json.Writer
import Condense.Notice
import Condense.Text.Encoding

/-!
# Conversation stores

Where a conversation keeps small values for its agents: a table in memory that the host may share,
or a file that holds one document. Every value has a key of its own for each agent.
-/

namespace Condense

/-- The key under which an agent's value is kept. -/
def stateKey (agent key : Text) : Key := .text ("__context_guard_" ++ key ++ "_" ++ agent)

/-- Why a value could not be read or written. -/
inductive StoreFault where
  | readRefused
  | writeRefused
  | undecodable
  | tooManyDigits (count : Nat)
  | tooDeep (why : TooDeep)
  | directory (path : Text)
  | unwritable (why : Json.Unwritable)
  deriving DecidableEq, Repr

def StoreFault.message : StoreFault → Text
  | .readRefused => "read refused"
  | .writeRefused => "write refused"
  | .undecodable => "'utf-8' codec can't decode the contents"
  | .tooManyDigits count => (NumberFault.tooManyDigits count).message
  | .tooDeep why => why.message
  | .directory path => "Is a directory: " ++ path
  | .unwritable why => why.message

/-- One use of a store. -/
inductive Access where
  | read (agent key : Text)
  | write (agent key : Text)
  deriving DecidableEq, Repr

/-- A table in memory. Its host may refuse single accesses, which are counted. -/
structure MemoryStore where
  entries : List (Key × Value) := []
  accesses : Nat := 0
  refuses : Nat → Access → Bool := fun _ _ => false

namespace MemoryStore

def count (store : MemoryStore) : MemoryStore := { store with accesses := store.accesses + 1 }

def get (store : MemoryStore) (agent key : Text) :
    MemoryStore × Except StoreFault (Option Value) :=
  (store.count,
    if store.refuses store.accesses (.read agent key) then .error .readRefused
    else .ok (Assoc.get? (stateKey agent key) store.entries))

def set (store : MemoryStore) (agent key : Text) (value : Value) :
    MemoryStore × Except StoreFault Unit :=
  if store.refuses store.accesses (.write agent key) then (store.count, .error .writeRefused)
  else
    ({ store.count with entries := Assoc.put (stateKey agent key) value store.entries }, .ok ())

end MemoryStore

/-- What is found under the path of a file. -/
inductive Contents where
  | absent
  | octets (bytes : List UInt8)
  | directory
  deriving DecidableEq, Repr

/-- A file that holds the values of a conversation as one document. The file is replaced as a whole:
what is to be written goes into a draft beside it, under a name with a random ending. -/
structure FileStore where
  path : Text
  contents : Contents := .absent
  /-- The drafts beside the file, by the endings of their names. -/
  drafts : List (Text × List UInt8) := []
  /-- The endings in the order in which the host draws them. -/
  endings : Nat → Text := fun drawn => Text.ofChars (Text.hex 8 drawn)
  drawn : Nat := 0

namespace FileStore

/-- The part of a path behind its last slash. -/
def fileName (path : Text) : Text := (path.reverse.takeWhile (· != .char '/')).reverse

/-- While the store is used it holds a lock, which is a file of the same name that ends in `.lock`.
A store whose own name ends so is its own lock. -/
def isOwnLock (store : FileStore) : Bool :=
  let name := fileName store.path
  let ending : Text := ".lock"
  ending.isSuffixOf name && ending.length < name.length

/-- The store once its lock is held. Taking a lock empties the lock's file. -/
def locked (store : FileStore) : Except StoreFault FileStore :=
  if store.isOwnLock then
    match store.contents with
    | .directory => .error (.directory store.path)
    | _ => .ok { store with contents := .octets [] }
  else .ok store

/-- The members of the document in the file. A file that is missing or holds something else has
none; one that holds no text, a number beyond all bounds, or too many brackets inside one another
cannot be read. -/
def members (store : FileStore) : List Notice × Except StoreFault (List (Key × Value)) :=
  match store.contents with
  | .absent => ([], .ok [])
  | .directory =>
    ([.stateUnreadable store.path (StoreFault.directory store.path).message], .ok [])
  | .octets bytes =>
    match Text.decodeUtf8? bytes with
    | none => ([], .error .undecodable)
    | some t =>
      match Json.read t with
      | .ok (.dict members) => ([], .ok members)
      | .ok _ => ([], .ok [])
      | .error (.tooManyDigits count) => ([], .error (.tooManyDigits count))
      | .error (.tooDeep why) => ([], .error (.tooDeep why))
      | .error .malformed =>
        ([.stateUnreadable store.path Json.Fault.malformed.message], .ok [])

def discard (store : FileStore) (ending : Text) : FileStore :=
  { store with drafts := Assoc.erase ending store.drafts }

/-- Moves a draft into the place of the file. -/
def adopt (store : FileStore) (ending : Text) (bytes : List UInt8) :
    FileStore × Except StoreFault Unit :=
  match store.contents with
  | .directory => (store, .error (.directory store.path))
  | _ => ({ store.discard ending with contents := .octets bytes }, .ok ())

/-- The file with new members. If they cannot be written, the file stays as it is, and the draft is
removed. -/
def write (store : FileStore) (members : List (Key × Value)) :
    FileStore × Except StoreFault Unit :=
  let ending := store.endings store.drawn
  let store := { store with drawn := store.drawn + 1 }
  match Json.write (.dict members) with
  | .error why => (store.discard ending, .error (.unwritable why))
  | .ok t =>
    let bytes := Text.encodeUtf8 (t ++ [.char '\n'])
    let store := { store with drafts := Assoc.put ending bytes store.drafts }
    match store.adopt ending bytes with
    | (store, .ok ()) => (store, .ok ())
    | (store, .error why) => (store.discard ending, .error why)

def get (store : FileStore) (agent key : Text) :
    List Notice × FileStore × Except StoreFault (Option Value) :=
  match store.locked with
  | .error why => ([], store, .error why)
  | .ok store =>
    let (notices, members) := store.members
    (notices, store, members.map (Assoc.get? (stateKey agent key)))

def set (store : FileStore) (agent key : Text) (value : Value) :
    List Notice × FileStore × Except StoreFault Unit :=
  match store.locked with
  | .error why => ([], store, .error why)
  | .ok store =>
    match store.members with
    | (notices, .error why) => (notices, store, .error why)
    | (notices, .ok members) =>
      (notices, store.write (Assoc.put (stateKey agent key) value members))

end FileStore

/-- A place for the values of a conversation. -/
inductive Store where
  | memory (store : MemoryStore)
  | file (store : FileStore)

namespace Store

/-- An empty table. -/
def empty : Store := .memory {}

instance : Inhabited Store := ⟨empty⟩

def get (agent key : Text) : Store → List Notice × Store × Except StoreFault (Option Value)
  | .memory store =>
    let (store, result) := store.get agent key
    ([], .memory store, result)
  | .file store =>
    let (notices, store, result) := store.get agent key
    (notices, .file store, result)

def set (agent key : Text) (value : Value) :
    Store → List Notice × Store × Except StoreFault Unit
  | .memory store =>
    let (store, result) := store.set agent key value
    ([], .memory store, result)
  | .file store =>
    let (notices, store, result) := store.set agent key value
    (notices, .file store, result)

end Store

end Condense
