import Condense.Number.Reading
import Condense.State.Store

/-!
# Records

What a conversation remembers of an agent's last compaction. Loading a record never fails: what is
missing, unreadable or of the wrong kind counts as nothing. A write that fails is reported and given
up, so that the next call finds the old record and compacts again.
-/

namespace Condense

/-- The last compaction: the summary, the tokens that it answered, and the turns at that time. -/
structure Record where
  summary : Text := []
  summarizedAt : Nat := 0
  turnsAt : Nat := 0
  deriving DecidableEq, Repr

namespace Record

def summaryKey : Text := "summary"

/-- The key of the tokens at the last summary. -/
def summarizedAtKey : Text := "summarized_at"

/-- The key of the turns at the last compaction. -/
def turnsAtKey : Text := "turns_at_compaction"

/-- The integer part of a number, zero if it has none or is negative. -/
def wholePart (x : Binary64) : Nat :=
  match x.truncate with
  | .ok n => n.toNat
  | .error _ => 0

/-- A counter that may have been stored as a number of another kind or as a text. -/
def counter : Value → Nat
  | .int n => n.toNat
  | .real x => wholePart x
  | .text t =>
    match readReal t with
    | .ok x => wholePart x
    | .error _ => 0
  | _ => 0

/-- A summary; anything but a text counts as none. -/
def summaryOf : Value → Text
  | .text t => t
  | _ => []

/-- Looks up a value of an agent; null if there is none or it cannot be read. -/
def fetch (agent key : Text) (store : Store) : List Notice × Store × Value :=
  match store.get agent key with
  | (notices, store, .ok value) => (notices, store, value.getD .null)
  | (notices, store, .error why) =>
    (notices ++ [.readFailed key agent why.message], store, .null)

/-- Keeps a value of an agent if that is possible. -/
def keep (agent key label : Text) (value : Value) (store : Store) : List Notice × Store :=
  match store.set agent key value with
  | (notices, store, .ok ()) => (notices, store)
  | (notices, store, .error why) =>
    (notices ++ [.persistFailed label agent why.message], store)

def load (agent : Text) (store : Store) : List Notice × Store × Record :=
  let (notices, store, summary) := fetch agent summaryKey store
  let (notices', store, summarizedAt) := fetch agent summarizedAtKey store
  let (notices'', store, turnsAt) := fetch agent turnsAtKey store
  (notices ++ notices' ++ notices'', store,
    ⟨summaryOf summary, counter summarizedAt, counter turnsAt⟩)

def saveSummary (agent : Text) (summary tokens : Value) (store : Store) : List Notice × Store :=
  let (notices, store) := keep agent summaryKey "summary" summary store
  let (notices', store) := keep agent summarizedAtKey "token count" tokens store
  (notices ++ notices', store)

/-- Keeps the number of turns at a compaction. -/
def saveTurns (agent : Text) (turns : Value) (store : Store) : List Notice × Store :=
  keep agent turnsAtKey "turn count watermark" turns store

end Record

end Condense
