import Condense.Proofs.JsonDocuments
import Condense.State.Store

/-!
# A file in the place of a table

A store that keeps its values in a file gives back what a table in memory would, over runs of any
length: every write reads the whole document, changes one member and puts the new document in the
place of the old one. What cannot be written leaves no trace. A store that is its own lock is the
exception, because whoever takes the lock empties the file.
-/

namespace Condense.Proofs
open Json

/-- One use of a conversation's values. -/
inductive Usage where
  | get (agent key : Text)
  | set (agent key : Text) (value : Value)

namespace Usage

/-- Nothing in the usage keeps a file from serving it. -/
def isWritable : Usage → Bool
  | .get _ _ => true
  | .set _ _ value => (obstacle? (depthLimit - 1) value).isNone

/-- Anything may be looked up. What is kept has a document, or holds bytes. -/
inductive Fair : Usage → Prop where
  | get (agent key : Text) : Fair (.get agent key)
  | kept {agent key : Text} {value : Value} (hagent : isSpellable agent = true)
      (hkey : isSpellable key = true) (hvalue : Documentable (depthLimit - 1) value) :
      Fair (.set agent key value)
  | unwritable (agent key : Text) {value : Value} (hvalue : HoldsBytes value) :
      Fair (.set agent key value)

def onFile (store : FileStore) : Usage → FileStore
  | .get agent key => (store.get agent key).2.1
  | .set agent key value => (store.set agent key value).2.1

def onTable (store : MemoryStore) : Usage → MemoryStore
  | .get agent key => (store.get agent key).1
  | .set agent key value => (store.set agent key value).1

end Usage

lemma Documentable.put {room : Nat} {name : Text} {v : Value} {table : List (Key × Value)}
    (h : Documentable room (.dict table)) (hname : isSpellable name = true)
    (hv : Documentable (room - 1) v) :
    Documentable room (.dict (Assoc.put (.text name) v table)) := by
  cases h with
  | dict hroom hdistinct hnames hvalues =>
    refine .dict hroom (nodup_put hdistinct) (fun entry hentry => ?_) fun entry hentry => ?_
    · rcases mem_put hentry with rfl | hold
      · exact ⟨name, rfl, hname⟩
      · exact hnames entry hold
    · rcases mem_put hentry with rfl | hold
      · exact hv
      · exact hvalues entry hold

lemma isSpellable_entryName {agent key : Text} (hagent : isSpellable agent = true)
    (hkey : isSpellable key = true) :
    isSpellable ("__context_guard_" ++ key ++ "_" ++ agent) = true := by
  have hmark : isHighSurrogate (CodePoint.char '_').code = false ∧
      isLowSurrogate (CodePoint.char '_').code = false := by decide
  have hbehind : isSpellable ("_" ++ agent) = true :=
    isSpellable_append rfl hagent fun p hp _ _ => Or.inl (Option.some.inj hp ▸ hmark.1)
  have hname : isSpellable (key ++ ("_" ++ agent)) = true :=
    isSpellable_append hkey hbehind fun _ _ q hq => Or.inr (Option.some.inj hq ▸ hmark.2)
  rw [List.append_assoc, List.append_assoc]
  exact isSpellable_append (by decide) hname fun p hp _ _ => Or.inl (Option.some.inj hp ▸ hmark.1)

/-- The octets of a file that holds some members. -/
def documentOf (members : List (Key × Value)) : List UInt8 :=
  Text.encodeUtf8 (render .file (.dict members) ++ [.char '\n'])

section Files

variable {file other : FileStore}

lemma isOwnLock_congr (h : other.path = file.path) :
    other.isOwnLock = file.isOwnLock := by
  unfold FileStore.isOwnLock
  rw [h]

lemma locked_apart (h : file.isOwnLock = false) : file.locked = .ok file := by
  unfold FileStore.locked
  rw [h]
  rfl

lemma locked_own (hown : file.isOwnLock = true) (hplace : file.contents ≠ .directory) :
    file.locked = .ok { file with contents := .octets [] } := by
  unfold FileStore.locked
  rw [if_pos hown]
  split
  case h_1 hdirectory => exact absurd hdirectory hplace
  case h_2 => rfl

lemma members_congr (h : other.contents = file.contents) :
    other.members.2 = file.members.2 := by
  unfold FileStore.members
  rw [h]
  cases file.contents with
  | absent => rfl
  | directory => rfl
  | octets bytes =>
    dsimp only
    cases Text.decodeUtf8? bytes with
    | none => rfl
    | some t =>
      dsimp only
      split <;> rfl

end Files

section Write

variable {file : FileStore} {members : List (Key × Value)}

lemma write_of_ok {t : Text} (hplace : file.contents ≠ .directory)
    (hwrite : Json.write (.dict members) = .ok t) :
    file.write members =
      ({ file with
        contents := .octets (Text.encodeUtf8 (t ++ [.char '\n']))
        drafts := Assoc.erase (file.endings file.drawn) (Assoc.put (file.endings file.drawn)
          (Text.encodeUtf8 (t ++ [.char '\n'])) file.drafts)
        drawn := file.drawn + 1 }, .ok ()) := by
  unfold FileStore.write
  rw [hwrite]
  unfold FileStore.adopt FileStore.discard
  dsimp only
  cases hcontents : file.contents with
  | directory => exact absurd hcontents hplace
  | absent => rfl
  | octets bytes => rfl

lemma write_of_error {why : Unwritable} (hwrite : Json.write (.dict members) = .error why) :
    file.write members =
      ({ file with
        drafts := Assoc.erase (file.endings file.drawn) file.drafts
        drawn := file.drawn + 1 }, .error (.unwritable why)) := by
  unfold FileStore.write
  rw [hwrite]
  rfl

end Write

lemma members_of_document {file : FileStore} {members : List (Key × Value)}
    (h : Documentable depthLimit (.dict members))
    (hcontents : file.contents = .octets (documentOf members)) :
    file.members = ([], .ok members) := by
  have hascii : Ascii (render .file (.dict members) ++ [.char '\n']) :=
    ascii_append (ascii_render _ 0 nofun) (ascii_cons (by decide) nofun)
  unfold FileStore.members
  rw [hcontents]
  dsimp only
  rw [documentOf, decodeUtf8?_encodeUtf8 hascii]
  dsimp only
  rw [read_render h]

/-- A file holds what a table holds, and nothing lies beside it. -/
structure Mirrors (file : FileStore) (table : MemoryStore) : Prop where
  apart : file.isOwnLock = false
  clean : file.drafts = []
  unrefused : ∀ count access, table.refuses count access = false
  documentable : Documentable depthLimit (.dict table.entries)
  contents : file.contents = .absent ∧ table.entries = [] ∨
    file.contents = .octets (documentOf table.entries)

namespace Mirrors

variable {file : FileStore} {table : MemoryStore}

lemma locked (h : Mirrors file table) : file.locked = .ok file := locked_apart h.apart

/-- A document says what was written. -/
lemma members (h : Mirrors file table) : file.members = ([], .ok table.entries) := by
  rcases h.contents with ⟨habsent, hempty⟩ | hoctets
  · unfold FileStore.members
    rw [habsent, hempty]
  · exact members_of_document h.documentable hoctets

/-- Looking up finds in the file what it finds in the table, and changes neither. -/
lemma get (h : Mirrors file table) (agent key : Text) :
    (file.get agent key).2.2 = (table.get agent key).2 ∧
      Mirrors (file.get agent key).2.1 (table.get agent key).1 := by
  have hfile : file.get agent key =
      ([], file, .ok (Assoc.get? (stateKey agent key) table.entries)) := by
    unfold FileStore.get
    rw [h.locked]
    dsimp only
    rw [h.members]
    rfl
  have htable : (table.get agent key).2 = .ok (Assoc.get? (stateKey agent key) table.entries) := by
    unfold MemoryStore.get
    rw [h.unrefused, if_neg Bool.false_ne_true]
  rw [hfile, htable]
  exact ⟨rfl, h.apart, h.clean, h.unrefused, h.documentable, h.contents⟩

/-- What can be written takes the place of the file, and its draft is gone. -/
lemma write_ok (h : Mirrors file table) {members : List (Key × Value)} {t : Text}
    (hwrite : Json.write (.dict members) = .ok t) :
    file.write members =
      ({ file with
        contents := .octets (Text.encodeUtf8 (t ++ [.char '\n']))
        drawn := file.drawn + 1 }, .ok ()) := by
  have hplace : file.contents ≠ .directory := by
    rcases h.contents with ⟨habsent, -⟩ | hoctets
    · simp [habsent]
    · simp [hoctets]
  rw [write_of_ok hplace hwrite, h.clean]
  simp [Assoc.put, Assoc.erase]

/-- What cannot be written leaves the file as it was, and no draft. -/
lemma write_error (h : Mirrors file table) {members : List (Key × Value)} {why : Unwritable}
    (hwrite : Json.write (.dict members) = .error why) :
    file.write members = ({ file with drawn := file.drawn + 1 }, .error (.unwritable why)) := by
  rw [write_of_error hwrite, h.clean, Assoc.erase, List.filter_nil]

lemma set_eq (h : Mirrors file table) (agent key : Text) (value : Value) :
    (file.set agent key value).2 =
      file.write (Assoc.put (stateKey agent key) value table.entries) := by
  unfold FileStore.set
  rw [h.locked]
  dsimp only
  rw [h.members]

/-- A value that has a document is kept in the file as it is in the table. -/
lemma set_documentable (h : Mirrors file table) {agent key : Text} {value : Value}
    (hagent : isSpellable agent = true) (hkey : isSpellable key = true)
    (hvalue : Documentable (depthLimit - 1) value) :
    (file.set agent key value).2.2 = .ok () ∧
      Mirrors (file.set agent key value).2.1 (table.set agent key value).1 := by
  have hdocumentable : Documentable depthLimit
      (.dict (Assoc.put (stateKey agent key) value table.entries)) :=
    h.documentable.put (isSpellable_entryName hagent hkey) hvalue
  have hwrite : Json.write (.dict (Assoc.put (stateKey agent key) value table.entries)) =
      .ok (render .file (.dict (Assoc.put (stateKey agent key) value table.entries))) := by
    unfold Json.write
    rw [hdocumentable.writable]
  have hfile := h.write_ok hwrite
  have htable : (table.set agent key value).1 =
      { table.count with entries := Assoc.put (stateKey agent key) value table.entries } := by
    unfold MemoryStore.set
    rw [h.unrefused, if_neg Bool.false_ne_true]
  rw [h.set_eq, hfile, htable]
  exact ⟨rfl, h.apart, h.clean, h.unrefused, hdocumentable, Or.inr rfl⟩

/-- A value that has no document leaves the file as it was. -/
lemma set_unwritable (h : Mirrors file table) (agent key : Text) {value : Value}
    (hvalue : obstacle? (depthLimit - 1) value ≠ none) :
    (∃ why, (file.set agent key value).2.2 = .error (.unwritable why)) ∧
      (file.set agent key value).2.1.contents = file.contents ∧
      Mirrors (file.set agent key value).2.1 table := by
  have hobstacle : obstacle? depthLimit
      (.dict (Assoc.put (stateKey agent key) value table.entries)) ≠ none := by
    intro hnone
    have hmembers := membersObstacle?_eq_none.mp hnone
    exact hvalue (hmembers _ mem_put_self).2
  obtain ⟨why, hwhy⟩ := Option.ne_none_iff_exists'.mp hobstacle
  have hwrite : Json.write (.dict (Assoc.put (stateKey agent key) value table.entries)) =
      .error why := by
    unfold Json.write
    rw [hwhy]
  rw [h.set_eq, h.write_error hwrite]
  exact ⟨⟨why, rfl⟩, rfl, h.apart, h.clean, h.unrefused, h.documentable, h.contents⟩

end Mirrors

/-- One more usage keeps file and table alike, if the table is spared what has no document. -/
lemma mirrors_step {file : FileStore} {table : MemoryStore} (h : Mirrors file table) {usage : Usage}
    (hfair : usage.Fair) :
    Mirrors (usage.onFile file) (if usage.isWritable then usage.onTable table else table) := by
  cases hfair with
  | get agent key => exact (h.get agent key).2
  | @kept agent key value hagent hkey hvalue =>
    have hwritable : (Usage.set agent key value).isWritable = true := by
      change (obstacle? (depthLimit - 1) value).isNone = true
      rw [hvalue.writable]
      rfl
    rw [if_pos hwritable]
    exact (h.set_documentable hagent hkey hvalue).2
  | @unwritable agent key value hvalue =>
    have hunwritable : (Usage.set agent key value).isWritable = false := by
      change (obstacle? (depthLimit - 1) value).isNone = false
      rw [← Bool.not_eq_true, Option.isNone_iff_eq_none]
      exact hvalue.unwritable
    rw [hunwritable, if_neg Bool.false_ne_true]
    exact (h.set_unwritable agent key hvalue.unwritable).2.2

lemma mirrors_run {file : FileStore} {table : MemoryStore} (h : Mirrors file table)
    {usages : List Usage} (hfair : ∀ usage ∈ usages, usage.Fair) :
    Mirrors (usages.foldl Usage.onFile file)
      ((usages.filter Usage.isWritable).foldl Usage.onTable table) := by
  induction usages generalizing file table with
  | nil => exact h
  | cons usage rest ih =>
    have hstep := mirrors_step h (hfair usage List.mem_cons_self)
    have hrest := ih hstep fun other hother => hfair other (List.mem_cons_of_mem usage hother)
    -- The table sees the usage only if it is writable; the file sees it in any case.
    rw [List.foldl_cons, List.filter_cons]
    by_cases hwritable : usage.isWritable = true
    · rw [if_pos hwritable] at hrest
      rw [if_pos hwritable, List.foldl_cons]
      exact hrest
    · rw [if_neg hwritable] at hrest
      rw [if_neg hwritable]
      exact hrest

lemma mirrors_start {path : Text} {endings : Nat → Text}
    (hpath : FileStore.isOwnLock { path, endings } = false) : Mirrors { path, endings } {} := by
  have hlimit : depthLimit ≠ 0 := by decide
  have hempty : Documentable depthLimit (.dict []) :=
    .dict hlimit List.nodup_nil (fun _ hentry => absurd hentry List.not_mem_nil)
      fun _ hentry => absurd hentry List.not_mem_nil
  exact ⟨hpath, rfl, fun _ _ => rfl, hempty, Or.inl ⟨rfl, rfl⟩⟩

/-- After any usages, a file that is not its own lock gives back what a table gives back that was
spared what has no document. It keeps every value that has a document; a value with bytes in it is
refused and leaves the file as it was. No draft is left behind. -/
theorem file_refines_table (path : Text) (endings : Nat → Text) (usages : List Usage)
    (hpath : FileStore.isOwnLock { path, endings } = false)
    (hfair : ∀ usage ∈ usages, usage.Fair) :
    let file := usages.foldl Usage.onFile { path, endings }
    let table := (usages.filter Usage.isWritable).foldl Usage.onTable {}
    file.drafts = [] ∧
      (∀ agent key, (file.get agent key).2.2 = (table.get agent key).2) ∧
      (∀ agent key value, isSpellable agent = true → isSpellable key = true →
        Documentable (depthLimit - 1) value → (file.set agent key value).2.2 = .ok ()) ∧
      ∀ agent key value, HoldsBytes value →
        (∃ why, (file.set agent key value).2.2 = .error (.unwritable why)) ∧
          (file.set agent key value).2.1.contents = file.contents := by
  intro file table
  have hmirrors : Mirrors file table := mirrors_run (mirrors_start hpath) hfair
  refine ⟨hmirrors.clean, fun agent key => (hmirrors.get agent key).1,
    fun agent key value hagent hkey hvalue => (hmirrors.set_documentable hagent hkey hvalue).1,
    fun agent key value hbytes => ?_⟩
  obtain ⟨hrefused, hsame, -⟩ := hmirrors.set_unwritable agent key hbytes.unwritable
  exact ⟨hrefused, hsame⟩

/-- Values of two agents are found again although a later one could not be written. -/
theorem summary_survives_bytes :
    let file := ([.set "a" "summary" (.text "café 😀\n"),
      .set "b" "turns" (.list [.null, .int (-7), .dict [(.text "", .bool true)]]),
      .set "a" "summary" (.list [.bytes [0]])] : List Usage).foldl
        Usage.onFile { path := "chats/conv.json" }
    file.drafts = [] ∧
      (file.get "a" "summary").2.2 = .ok (some (.text "café 😀\n")) ∧
      (file.get "b" "turns").2.2 =
        .ok (some (.list [.null, .int (-7), .dict [(.text "", .bool true)]])) := by
  have hmembers : Documentable (depthLimit - 1 - 1) (.dict [(.text "", .bool true)]) := by
    refine .dict (by decide) (by simp) (fun entry hentry => ?_) fun entry hentry => ?_
    · obtain rfl := List.mem_singleton.mp hentry
      exact ⟨"", rfl, rfl⟩
    · obtain rfl := List.mem_singleton.mp hentry
      exact .bool _ true
  have hitems : Documentable (depthLimit - 1)
      (.list [.null, .int (-7), .dict [(.text "", .bool true)]]) := by
    refine .list (by decide) fun v hv => ?_
    simp only [List.mem_cons, List.not_mem_nil, or_false] at hv
    rcases hv with rfl | rfl | rfl
    · exact .null _
    · exact .int _ rfl
    · exact hmembers
  have hrefines := file_refines_table "chats/conv.json"
    (fun drawn => Text.ofChars (Text.hex 8 drawn))
    [.set "a" "summary" (.text "café 😀\n"),
      .set "b" "turns" (.list [.null, .int (-7), .dict [(.text "", .bool true)]]),
      .set "a" "summary" (.list [.bytes [0]])] rfl (by
      intro usage husage
      simp only [List.mem_cons, List.not_mem_nil, or_false] at husage
      rcases husage with rfl | rfl | rfl
      · exact .kept rfl rfl (.text _ (by decide))
      · exact .kept rfl rfl hitems
      · exact .unwritable _ _ (.item List.mem_cons_self (.bytes [0])))
  refine ⟨hrefines.1, (hrefines.2.1 _ _).trans ?_, (hrefines.2.1 _ _).trans ?_⟩ <;> rfl

/-- Whoever looks into a store that is its own lock finds nothing, whatever was kept there. -/
theorem ownLock_finds_nothing {file : FileStore} (hown : file.isOwnLock = true)
    (hcontents : file.contents ≠ .directory) (agent key : Text) :
    (file.get agent key).2.2 = .ok none ∧ (file.get agent key).2.1.contents = .octets [] := by
  unfold FileStore.get
  rw [locked_own hown hcontents]
  exact ⟨rfl, rfl⟩

end Condense.Proofs
