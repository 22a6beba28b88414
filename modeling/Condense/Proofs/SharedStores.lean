import Condense.Proofs.DependableStores
import Condense.Proofs.FileRefinement
import Condense.Proofs.JsonReadings
import Condense.Proofs.MechanicalSummaries

/-!
# Stores that agents share

A table that refuses nothing, or a file that is missing or holds the document of a dictionary. A
look finds what is held and changes nothing, and a write changes what is held under its own key
only. What a file then holds is the value that its document gives back; a value that has no document
is refused and leaves everything as it was.
-/

namespace Condense.Proofs
open Json Summary

/-- A table that refuses nothing, or a file whose members can be read: one that is missing, or holds
a document. The file is not its own lock. -/
inductive Shareable : Store → Prop where
  | table {table : MemoryStore} (h : Granting table) : Shareable (.memory table)
  | file {file : FileStore} {members : List (Key × Value)} (happart : file.isOwnLock = false)
      (hplace : file.contents ≠ .directory) (hread : file.members = ([], .ok members)) :
      Shareable (.file file)

def onDisk : Store → Bool
  | .memory _ => false
  | .file _ => true

/-- The values that a record is made of. -/
inductive Leaf : Value → Prop where
  | text (t : Text) : Leaf (.text t)
  | bytes (octets : List UInt8) : Leaf (.bytes octets)
  | int (n : Int) : Leaf (.int n)

section Leaves

variable {room : Nat} {v : Value}

lemma Leaf.legible (h : Leaf v) (hnone : obstacle? room v = none) : Legible room v := by
  cases h with
  | text t => exact .text room t
  | bytes octets => cases hnone
  | int n => exact .int room hnone

/-- A summary is a leaf. -/
lemma leaf_of_receive {request : Request} {limit : Option Quantity} {reply : Reply}
    (h : (request.receive limit reply).2 = .ok v) : Leaf v := by
  obtain ⟨answer, -, -, ⟨-, -, -, t, -, rfl⟩ | ⟨hcontent, -⟩⟩ := receive_eq_ok h
  · exact .text t
  · rcases content_eq_ok hcontent with ⟨t, rfl⟩ | ⟨octets, -, rfl⟩
    · exact .text t
    · exact .bytes _

end Leaves

section Tables

variable {name : Text} {key : Key} {table : List (Key × Value)}

/-- Members that have a document stand in the way of no further one. -/
lemma obstacle?_put {room : Nat} (h : obstacle? room (.dict table) = none) (v : Value) :
    obstacle? room (.dict (Assoc.put (.text name) v table)) = obstacle? (room - 1) v := by
  have hroom : room ≠ 0 := by
    rintro rfl
    cases h
  rw [obstacle?, if_neg hroom] at h
  rw [obstacle?, if_neg hroom]
  have hname : keyObstacle? (.text name) = none := rfl
  induction table with
  | nil => simp [Assoc.put, membersObstacle?, hname]
  | cons entry rest ih =>
    rw [membersObstacle?, Option.or_eq_none_iff] at h
    obtain ⟨hfirst, hrest⟩ := h
    rw [Assoc.put, Key.beq_text]
    split
    case isTrue hsame =>
      rw [membersObstacle?, of_decide_eq_true hsame, hname, hrest, Option.none_or, Option.or_none]
    case isFalse => rw [membersObstacle?, hfirst, Option.none_or, ih hrest]

end Tables

/-- A file from which members are read, and into which they can be written again. -/
structure Catalogued (file : FileStore) (members : List (Key × Value)) : Prop where
  apart : file.isOwnLock = false
  place : file.contents ≠ .directory
  read : file.members = ([], .ok members)
  stable : Stable depthLimit (.dict members)

/-- Whatever members are read from a file, their own document gives them back. -/
lemma stable_members {file : FileStore} {members : List (Key × Value)} {notices : List Notice}
    (h : file.members = (notices, .ok members)) : Stable depthLimit (.dict members) := by
  unfold FileStore.members at h
  split at h
  case h_1 | h_2 =>
    cases h
    exact .empty_dict _
  case h_3 bytes _ =>
    cases hdecode : Text.decodeUtf8? bytes with
    | none =>
      rw [hdecode] at h
      cases h
    | some t =>
      rw [hdecode] at h
      dsimp only at h
      split at h
      case h_1 hread =>
        cases h
        exact stable_of_read (whole_of_decodeUtf8? hdecode) hread
      all_goals
        cases h
        try exact .empty_dict _

/-- Members that were read come back as they were, and one that is entered behind them comes back
under the name that a document has for it. -/
lemma heldMembers_put {members : List (Key × Value)} (h : Stable depthLimit (.dict members))
    (name : Text) {v : Value} (hv : held v = respelled v) :
    heldMembers [] (Assoc.put (.text name) v members) =
      Assoc.put (.text (respell name)) (respelled v) members := by
  have hmembers : respelledMembers members = members := Value.dict.inj h.respelled
  cases h.legible with
  | dict hroom hdistinct hnames hvalues =>
    have hheld : ∀ entry ∈ members, held entry.2 = respelled entry.2 := fun entry hentry =>
      (hvalues entry hentry).held_eq
    cases hname : isSpellable name with
    | true =>
      have hput : ∀ entry ∈ Assoc.put (.text name) v members,
          ∃ s, entry.1 = .text s ∧ isSpellable s = true := by
        intro entry hentry
        rcases mem_put hentry with rfl | hold
        · exact ⟨name, rfl, hname⟩
        · exact hnames entry hold
      have hall : ∀ entry ∈ Assoc.put (.text name) v members,
          held entry.2 = respelled entry.2 := by
        intro entry hentry
        rcases mem_put hentry with rfl | hold
        · exact hv
        · exact hheld entry hold
      rw [heldMembers_of_distinct [] (nodup_put hdistinct) hput, List.nil_append, map_held hall,
        respelledMembers_put, hmembers, respell_of_isSpellable hname]
    | false =>
      -- A name that no document has is not among those that were read.
      have hnew : Key.text name ∉ members.map (·.1) := by
        intro hmem
        obtain ⟨entry, hentry, hkey⟩ := List.mem_map.mp hmem
        obtain ⟨s, hs, hspell⟩ := hnames entry hentry
        obtain rfl : s = name := Key.text.inj (hs.symm.trans hkey)
        rw [hname] at hspell
        contradiction
      have hold : heldMembers [] members = members := by
        rw [heldMembers_of_distinct [] hdistinct hnames, map_held hheld, hmembers, List.nil_append]
      rw [put_of_not_mem v hnew, heldMembers_append, hold, heldMembers, heldMembers, hv]
      rfl

/-- Where members have been read from a file, one more value can be written among them, and it comes
back under the name that a document has for its own. -/
lemma write_members {file : FileStore} {members : List (Key × Value)} {v : Value}
    (hplace : file.contents ≠ .directory) (hstable : Stable depthLimit (.dict members))
    (name : Text) (hvalue : Legible (depthLimit - 1) v) :
    ∃ after, file.write (Assoc.put (.text name) v members) = (after, .ok ()) ∧
      after.path = file.path ∧ after.contents ≠ .directory ∧
      after.members = ([], .ok (Assoc.put (.text (respell name)) (respelled v) members)) := by
  have hwritable : obstacle? depthLimit (.dict (Assoc.put (.text name) v members)) = none := by
    rw [obstacle?_put hstable.legible.writable, hvalue.writable]
  have hwrite : Json.write (.dict (Assoc.put (.text name) v members)) =
      .ok (render .file (.dict (Assoc.put (.text name) v members))) := by
    unfold Json.write
    rw [hwritable]
  have hread := read_line hwritable
  rw [held, heldMembers_put hstable name hvalue.held_eq] at hread
  have hascii : Ascii (render .file (.dict (Assoc.put (.text name) v members)) ++
      [.char '\n']) :=
    ascii_append (ascii_render _ 0 ascii_nil) (ascii_cons (by decide) ascii_nil)
  refine ⟨_, write_of_ok hplace hwrite, rfl, by simp, ?_⟩
  unfold FileStore.members
  dsimp only
  simp only [decodeUtf8?_encodeUtf8 hascii, hread]

lemma catalogued_write {file : FileStore} {members : List (Key × Value)} {agent key : Text}
    {v : Value} (happart : file.isOwnLock = false) (hplace : file.contents ≠ .directory)
    (hstable : Stable depthLimit (.dict members)) (hname : isSpellable (entryName agent key) = true)
    (hvalue : Legible (depthLimit - 1) v) :
    ∃ after, file.write (Assoc.put (stateKey agent key) v members) = (after, .ok ()) ∧
      Catalogued after (Assoc.put (stateKey agent key) (respelled v) members) := by
  obtain ⟨after, hwrite, hpath, hafter, hread⟩ :=
    write_members hplace hstable (entryName agent key) hvalue
  rw [respell_of_isSpellable hname] at hread
  exact ⟨after, hwrite, (isOwnLock_congr hpath).trans happart, hafter, hread, stable_members hread⟩

/-- A value that has no document is not written. -/
lemma write_refused {file : FileStore} {members : List (Key × Value)}
    (hstable : Stable depthLimit (.dict members)) (agent key : Text) {v : Value} {why : Unwritable}
    (hwhy : obstacle? (depthLimit - 1) v = some why) :
    ∃ after, file.write (Assoc.put (stateKey agent key) v members) =
        (after, .error (.unwritable why)) ∧
      after.path = file.path ∧ after.contents = file.contents := by
  have hwrite : Json.write (.dict (Assoc.put (stateKey agent key) v members)) = .error why := by
    unfold Json.write
    rw [stateKey, obstacle?_put hstable.legible.writable, hwhy]
  exact ⟨_, write_of_error hwrite, rfl, rfl⟩

lemma found?_apart {file : FileStore} (happart : file.isOwnLock = false) (place : Key) :
    found? place (.file file) = file.members.2.toOption.bind (Assoc.get? place) := by
  unfold found?
  dsimp only
  rw [locked_apart happart]
  dsimp only
  cases file.members.2 <;> rfl

lemma write_directory {file : FileStore} (h : file.contents = .directory)
    (members : List (Key × Value)) :
    ∃ after result, file.write members = (after, result) ∧
      after.path = file.path ∧ after.contents = file.contents := by
  unfold FileStore.write FileStore.adopt FileStore.discard
  cases Json.write (.dict members) with
  | error why => exact ⟨_, _, rfl, rfl, rfl⟩
  | ok t =>
    simp only [h]
    exact ⟨_, _, rfl, rfl, rfl⟩

/-- Whatever a file holds that is not its own lock, a write puts the value in the place that a
document has for it, or it changes nothing. -/
lemma set_apart {file : FileStore} (happart : file.isOwnLock = false) (agent key : Text) {v : Value}
    (hleaf : Leaf v) :
    ∃ notices after result, file.set agent key v = (notices, after, result) ∧
      after.path = file.path ∧
      ((∀ place, found? place (.file after) = found? place (.file file)) ∨
        ∀ place, found? place (.file after) =
          if place = .text (respell (entryName agent key)) then some (respelled v)
          else found? place (.file file)) := by
  have hunchanged : ∀ other : FileStore, other.path = file.path → other.contents = file.contents →
      ∀ place, found? place (.file other) = found? place (.file file) := by
    intro other hpath hcontents place
    rw [found?_apart ((isOwnLock_congr hpath).trans happart), found?_apart happart,
      members_congr hcontents]
  unfold FileStore.set
  rw [locked_apart happart]
  dsimp only
  cases hread : file.members with
  | mk notices result =>
    cases result with
    | error why => exact ⟨_, _, _, rfl, rfl, Or.inl (hunchanged file rfl rfl)⟩
    | ok members =>
      have hstable := stable_members hread
      dsimp only
      by_cases hplace : file.contents = .directory
      · obtain ⟨after, result, hwrite, hpath, hcontents⟩ := write_directory hplace
          (Assoc.put (stateKey agent key) v members)
        rw [hwrite]
        exact ⟨_, _, _, rfl, hpath, Or.inl (hunchanged after hpath hcontents)⟩
      · cases hobstacle : obstacle? (depthLimit - 1) v with
        | some why =>
          obtain ⟨after, hwrite, hpath, hcontents⟩ := write_refused hstable agent key hobstacle
          rw [hwrite]
          exact ⟨_, _, _, rfl, hpath, Or.inl (hunchanged after hpath hcontents)⟩
        | none =>
          obtain ⟨after, hwrite, hpath, -, hafter⟩ :=
            write_members hplace hstable (entryName agent key) (hleaf.legible hobstacle)
          have hwrite : file.write (Assoc.put (stateKey agent key) v members) = (after, .ok ()) :=
            hwrite
          rw [hwrite]
          refine ⟨_, _, _, rfl, hpath, Or.inr fun place => ?_⟩
          rw [found?_apart ((isOwnLock_congr hpath).trans happart), found?_apart happart, hafter, hread]
          exact get?_put_text _ place _ members

lemma Shareable.catalogued {file : FileStore} (h : Shareable (.file file)) :
    ∃ members, Catalogued file members := by
  cases h with
  | file happart hplace hread => exact ⟨_, happart, hplace, hread, stable_members hread⟩

namespace Catalogued

variable {file : FileStore} {members : List (Key × Value)} (h : Catalogued file members)

include h

lemma shareable : Shareable (.file file) := .file h.apart h.place h.read

lemma congr {other : FileStore} (hpath : other.path = file.path)
    (hcontents : other.contents = file.contents) : Catalogued other members := by
  refine ⟨(isOwnLock_congr hpath).trans h.apart, by rw [hcontents]; exact h.place, ?_, h.stable⟩
  · rw [← h.read]
    unfold FileStore.members
    rw [hpath, hcontents]

lemma locked : file.locked = .ok file := locked_apart h.apart

lemma held (key : Key) : found? key (.file file) = Assoc.get? key members := by
  unfold found?
  simp only [h.locked, h.read]

lemma get (agent key : Text) :
    file.get agent key = ([], file, .ok (Assoc.get? (stateKey agent key) members)) := by
  unfold FileStore.get
  simp only [h.locked, h.read]
  rfl

lemma set_eq (agent key : Text) (v : Value) :
    file.set agent key v =
      ([], file.write (Assoc.put (stateKey agent key) v members)) := by
  unfold FileStore.set
  simp only [h.locked, h.read]

variable {v : Value}

/-- A value that has a document is kept, and the file stays one that can be read. -/
lemma set_written {agent key : Text} (hname : isSpellable (entryName agent key) = true)
    (hvalue : Legible (depthLimit - 1) v) :
    ∃ after, file.set agent key v = ([], after, .ok ()) ∧
      Catalogued after (Assoc.put (stateKey agent key) (respelled v) members) := by
  obtain ⟨after, hwrite, hafter⟩ := catalogued_write h.apart h.place h.stable hname hvalue
  exact ⟨after, (h.set_eq agent key v).trans (congrArg _ hwrite), hafter⟩

/-- A value that has no document leaves the file as it was. -/
lemma set_refused (agent key : Text) {why : Unwritable}
    (hwhy : obstacle? (depthLimit - 1) v = some why) :
    ∃ after, file.set agent key v = ([], after, .error (.unwritable why)) ∧
      Catalogued after members := by
  obtain ⟨after, hwrite, hpath, hcontents⟩ := write_refused h.stable agent key hwhy
  exact ⟨after, (h.set_eq agent key v).trans (congrArg _ hwrite), h.congr hpath hcontents⟩

end Catalogued

/-- What comes of a value that a store is given to keep. -/
def kept (disk : Bool) (v : Value) : Except StoreFault Value :=
  if disk then
    match obstacle? (depthLimit - 1) v with
    | some why => .error (.unwritable why)
    | none => .ok (respelled v)
  else .ok v

/-- A store after a value was given to it: the value stands in its place if it was kept. -/
structure Given (store after : Store) (place : Key) (v : Value) : Prop where
  shareable : Shareable after
  disk : onDisk after = onDisk store
  held : ∀ key, found? key after =
    if key = place then (kept (onDisk store) v).toOption.or (found? place store)
    else found? key store

section Shareable

variable {store after : Store}

lemma Consulted.disk (h : Consulted store after) : onDisk after = onDisk store := by
  cases h <;> rfl

lemma Shareable.read (h : Shareable store) (hread : Consulted store after) : Shareable after := by
  cases h with
  | table hgranting =>
    cases hread with
    | memory _ _ => exact .table hgranting
  | file hown hplace hmembers =>
    cases hread with
    | file _ => exact .file hown hplace hmembers
    | emptied _ hlock _ => cases hown.symm.trans hlock

/-- A look finds what is held. -/
lemma Shareable.get (h : Shareable store) (agent key : Text) :
    ∃ after, store.get agent key = ([], after, .ok (found? (stateKey agent key) store)) := by
  cases store with
  | memory table =>
    cases h with
    | table hgranting =>
      have hgranted : table.refuses table.accesses (.read agent key) = false := hgranting _ _
      unfold Store.get MemoryStore.get
      simp only [hgranted, Bool.false_eq_true, if_false]
      exact ⟨_, rfl⟩
  | file file =>
    obtain ⟨members, hfile⟩ := h.catalogued
    unfold Store.get
    simp only [hfile.get, hfile.held]
    exact ⟨_, rfl⟩

/-- A write changes what is held in its place, and nothing else. -/
theorem Shareable.set (h : Shareable store) {agent key : Text} {v : Value}
    (hspell : onDisk store = true → isSpellable agent = true ∧ isSpellable key = true)
    (hleaf : Leaf v) :
    ∃ after, store.set agent key v = ([], after, (kept (onDisk store) v).map fun _ => ()) ∧
      Given store after (stateKey agent key) v := by
  cases store with
  | memory table =>
    cases h with
    | table hgranting =>
      have hgranted : table.refuses table.accesses (.write agent key) = false := hgranting _ _
      unfold Store.set MemoryStore.set
      simp only [hgranted, Bool.false_eq_true, if_false]
      refine ⟨_, rfl, .table hgranting, rfl, fun place => ?_⟩
      exact get?_put_text (entryName agent key) place v table.entries
  | file file =>
    obtain ⟨members, hfile⟩ := h.catalogued
    obtain ⟨hagent, hkey⟩ := hspell rfl
    cases hobstacle : obstacle? (depthLimit - 1) v with
    | none =>
      have hkept : kept (onDisk (.file file)) v = .ok (respelled v) := by
        simp only [kept, onDisk, if_true, hobstacle]
      obtain ⟨after, hset, hafter⟩ :=
        hfile.set_written (isSpellable_entryName hagent hkey) (hleaf.legible hobstacle)
      refine ⟨.file after, ?_, hafter.shareable, rfl, fun place => ?_⟩
      · unfold Store.set
        simp only [hset, hkept]
        rfl
      · simp only [hafter.held, hfile.held, hkept]
        exact get?_put_text (entryName agent key) place (respelled v) members
    | some why =>
      have hkept : kept (onDisk (.file file)) v = .error (.unwritable why) := by
        simp only [kept, onDisk, if_true, hobstacle]
      obtain ⟨after, hset, hafter⟩ := hfile.set_refused agent key hobstacle
      refine ⟨.file after, ?_, hafter.shareable, rfl, fun place => ?_⟩
      · unfold Store.set
        simp only [hset, hkept]
        rfl
      · simp only [hafter.held, hfile.held, hkept]
        split
        case isTrue hplace =>
          rw [hplace]
          rfl
        case isFalse => rfl

end Shareable

end Condense.Proofs
