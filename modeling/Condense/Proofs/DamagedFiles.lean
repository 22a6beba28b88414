import Condense.Proofs.SharedStores

/-!
# Damaged files

A file that holds something else than the document of a dictionary counts as one without members, and
the next write puts it right. Some contents are worse than that: where they are no text, hold a number
beyond all bounds, or too many brackets inside one another, no value can be read any more and none can
be written, so that the file stays as it is for good.
-/

namespace Condense.Proofs
open Json

/-- Why the octets of a file keep everyone from reading it. -/
inductive Blocks (bytes : List UInt8) : StoreFault → Prop where
  | undecodable (h : Text.decodeUtf8? bytes = none) : Blocks bytes .undecodable
  | tooManyDigits {t : Text} {count : Nat} (h : Text.decodeUtf8? bytes = some t)
      (hread : Json.read t = .error (.tooManyDigits count)) : Blocks bytes (.tooManyDigits count)
  | tooDeep {t : Text} {why : TooDeep} (h : Text.decodeUtf8? bytes = some t)
      (hread : Json.read t = .error (.tooDeep why)) : Blocks bytes (.tooDeep why)

section Blocks

variable {file : FileStore} {bytes : List UInt8} {why : StoreFault}

lemma members_eq_error (hcontents : file.contents = .octets bytes) :
    file.members.2 = .error why ↔ Blocks bytes why := by
  unfold FileStore.members
  rw [hcontents]
  dsimp only
  constructor
  · intro h
    cases hdecode : Text.decodeUtf8? bytes with
    | none =>
      rw [hdecode] at h
      cases h
      exact .undecodable hdecode
    | some t =>
      rw [hdecode] at h
      dsimp only at h
      split at h
      case h_3 count hread =>
        cases h
        exact .tooManyDigits hdecode hread
      case h_4 deep hread =>
        cases h
        exact .tooDeep hdecode hread
      all_goals contradiction
  · intro h
    cases h with
    | undecodable hdecode => rw [hdecode]
    | tooManyDigits hdecode hread => simp only [hdecode, hread]
    | tooDeep hdecode hread => simp only [hdecode, hread]

/-- A file that is not its own lock, next to why it cannot be read. -/
structure Blocked (file : FileStore) (bytes : List UInt8) (why : StoreFault) : Prop where
  apart : file.isOwnLock = false
  contents : file.contents = .octets bytes
  blocks : Blocks bytes why

namespace Blocked

lemma get (h : Blocked file bytes why) (agent key : Text) :
    ∃ notices, file.get agent key = (notices, file, .error why) := by
  have hmembers := (members_eq_error h.contents).mpr h.blocks
  unfold FileStore.get
  rw [locked_apart h.apart]
  dsimp only
  rw [hmembers]
  exact ⟨_, rfl⟩

lemma set (h : Blocked file bytes why) (agent key : Text) (v : Value) :
    ∃ notices, file.set agent key v = (notices, file, .error why) := by
  have hmembers := (members_eq_error h.contents).mpr h.blocks
  unfold FileStore.set
  rw [locked_apart h.apart]
  dsimp only
  rcases hread : file.members with ⟨notices, result⟩
  rw [hread] at hmembers
  obtain rfl : result = .error why := hmembers
  exact ⟨notices, rfl⟩

lemma step (h : Blocked file bytes why) (usage : Usage) : usage.onFile file = file := by
  cases usage with
  | get agent key =>
    obtain ⟨notices, hget⟩ := h.get agent key
    exact congrArg (fun found => found.2.1) hget
  | set agent key v =>
    obtain ⟨notices, hset⟩ := h.set agent key v
    exact congrArg (fun found => found.2.1) hset

/-- Whatever is tried, nothing changes. -/
lemma run (h : Blocked file bytes why) (usages : List Usage) :
    usages.foldl Usage.onFile file = file := by
  induction usages with
  | nil => rfl
  | cons usage rest ih =>
    rw [List.foldl_cons, h.step usage]
    exact ih

end Blocked

end Blocks

/-- A file in which members are found, if only none. -/
structure Usable (file : FileStore) : Prop where
  apart : file.isOwnLock = false
  place : file.contents ≠ .directory
  read : ∃ members, file.members.2 = .ok members

/-- A file answers for a key, keeps a value under it, and finds the value again. -/
structure Serves (file : FileStore) (agent key : Text) (v : Value) : Prop where
  answers : ∃ found, (file.get agent key).2.2 = .ok found
  keeps : (file.set agent key v).2.2 = .ok ()
  finds : ((file.set agent key v).2.1.get agent key).2.2 = .ok (some v)

lemma Catalogued.usable {file : FileStore} {members : List (Key × Value)}
    (h : Catalogued file members) : Usable file :=
  ⟨h.apart, h.place, members, congrArg Prod.snd h.read⟩

namespace Usable

variable {file : FileStore} {agent key : Text} {v : Value} (h : Usable file)

include h

lemma get (agent key : Text) :
    ∃ notices found, file.get agent key = (notices, file, .ok found) := by
  obtain ⟨members, hmembers⟩ := h.read
  unfold FileStore.get
  rw [locked_apart h.apart]
  dsimp only
  rw [hmembers]
  exact ⟨_, _, rfl⟩

lemma set_eq (agent key : Text) (v : Value) :
    ∃ members, Stable depthLimit (.dict members) ∧
      (file.set agent key v).2 = file.write (Assoc.put (stateKey agent key) v members) := by
  obtain ⟨members, hmembers⟩ := h.read
  rcases hread : file.members with ⟨notices, result⟩
  rw [hread] at hmembers
  obtain rfl : result = .ok members := hmembers
  refine ⟨members, stable_members hread, ?_⟩
  unfold FileStore.set
  rw [locked_apart h.apart]
  dsimp only
  rw [hread]

lemma set_legible (hname : isSpellable (entryName agent key) = true)
    (hvalue : Legible (depthLimit - 1) v) :
    ∃ after members, (file.set agent key v).2 = (after, .ok ()) ∧
      Catalogued after (Assoc.put (stateKey agent key) (respelled v) members) := by
  obtain ⟨members, hstable, hset⟩ := h.set_eq agent key v
  obtain ⟨after, hwrite, hafter⟩ := catalogued_write h.apart h.place hstable hname hvalue
  exact ⟨after, members, hset.trans hwrite, hafter⟩

lemma set_obstructed {why : Unwritable} (hwhy : obstacle? (depthLimit - 1) v = some why) :
    Usable (file.set agent key v).2.1 := by
  obtain ⟨members, hstable, hset⟩ := h.set_eq agent key v
  obtain ⟨after, hwrite, hpath, hcontents⟩ := write_refused hstable agent key hwhy
  obtain ⟨found, hfound⟩ := h.read
  rw [hset, hwrite]
  refine ⟨(isOwnLock_congr hpath).trans h.apart, ?_, found, (members_congr hcontents).trans hfound⟩
  rw [hcontents]
  exact h.place

lemma serves (hname : isSpellable (entryName agent key) = true)
    (hvalue : Legible (depthLimit - 1) v) (hsame : respelled v = v) : Serves file agent key v := by
  obtain ⟨notices, found, hget⟩ := h.get agent key
  obtain ⟨after, members, hset, hafter⟩ := h.set_legible hname hvalue
  have hfound : Assoc.get? (stateKey agent key)
      (Assoc.put (stateKey agent key) (respelled v) members) = some v := by
    rw [hsame, stateKey, get?_put_text, if_pos rfl]
  refine ⟨⟨found, by rw [hget]⟩, congrArg Prod.snd hset, ?_⟩
  rw [hset, hafter.get, hfound]

end Usable

/-- Anything may be looked up. What is to be kept has a document, and a place that a document can
name, or it has none and is refused. -/
inductive Usage.Handled : Usage → Prop where
  | get (agent key : Text) : Handled (.get agent key)
  | kept {agent key : Text} {v : Value} (hname : isSpellable (entryName agent key) = true)
      (hvalue : Legible (depthLimit - 1) v) : Handled (.set agent key v)
  | refused (agent key : Text) {v : Value} {why : Unwritable}
      (hwhy : obstacle? (depthLimit - 1) v = some why) : Handled (.set agent key v)

lemma Usable.step {file : FileStore} (h : Usable file) {usage : Usage} (husage : usage.Handled) :
    Usable (usage.onFile file) := by
  cases husage with
  | get agent key =>
    obtain ⟨notices, found, hget⟩ := h.get agent key
    have hsame : (Usage.get agent key).onFile file = file :=
      congrArg (fun found => found.2.1) hget
    rw [hsame]
    exact h
  | @kept agent key v hname hvalue =>
    obtain ⟨after, members, hset, hafter⟩ := h.set_legible hname hvalue
    have hsame : (Usage.set agent key v).onFile file = after := congrArg Prod.fst hset
    rw [hsame]
    exact hafter.usable
  | refused agent key hwhy => exact h.set_obstructed hwhy

lemma Usable.run {file : FileStore} (h : Usable file) {usages : List Usage}
    (husages : ∀ usage ∈ usages, usage.Handled) : Usable (usages.foldl Usage.onFile file) := by
  induction usages generalizing file with
  | nil => exact h
  | cons usage rest ih =>
    exact ih (h.step (husages usage List.mem_cons_self)) fun other hother =>
      husages other (List.mem_cons_of_mem usage hother)

section Found

variable {file : FileStore} {agent key : Text} {v : Value}

/-- Nothing is ever found under a name that no document can hold. -/
lemma isSpellable_of_found (h : (file.get agent key).2.2 = .ok (some v)) :
    isSpellable (entryName agent key) = true := by
  unfold FileStore.get at h
  cases hlocked : file.locked with
  | error why =>
    rw [hlocked] at h
    contradiction
  | ok locked =>
    rw [hlocked] at h
    dsimp only at h
    rcases hread : locked.members with ⟨notices, why | members⟩
    · rw [hread] at h
      contradiction
    · rw [hread] at h
      have hmem := mem_of_get? (Except.ok.inj h)
      cases (stable_members hread).legible with
      | dict hroom hdistinct hnames hvalues =>
        obtain ⟨name, hname, hspell⟩ := hnames _ hmem
        cases hname
        exact hspell

lemma write_place (hplace : file.contents ≠ .directory) (members : List (Key × Value)) :
    (file.write members).1.path = file.path ∧ (file.write members).1.contents ≠ .directory := by
  cases hwrite : Json.write (.dict members) with
  | error why =>
    rw [write_of_error hwrite]
    exact ⟨rfl, hplace⟩
  | ok t =>
    rw [write_of_ok hplace hwrite]
    exact ⟨rfl, nofun⟩

lemma set_ownLock (hown : file.isOwnLock = true) (hplace : file.contents ≠ .directory)
    (agent key : Text) (v : Value) :
    (file.set agent key v).2.1.isOwnLock = true ∧
      (file.set agent key v).2.1.contents ≠ .directory := by
  unfold FileStore.set
  rw [locked_own hown hplace]
  dsimp only
  rcases FileStore.members { file with contents := .octets [] } with ⟨notices, why | members⟩
  · exact ⟨hown, nofun⟩
  · have hemptied : ({ file with contents := .octets [] } : FileStore).contents ≠ .directory := nofun
    obtain ⟨hpath, hcontents⟩ := write_place hemptied (Assoc.put (stateKey agent key) v members)
    exact ⟨(isOwnLock_congr hpath).trans hown, hcontents⟩

lemma Serves.apart (h : Serves file agent key v) (hplace : file.contents ≠ .directory) :
    file.isOwnLock = false := by
  cases hown : file.isOwnLock with
  | false => rfl
  | true =>
    obtain ⟨hafter, hcontents⟩ := set_ownLock hown hplace agent key v
    -- Looking for the value takes the lock, and that empties the file.
    have hnothing := (ownLock_finds_nothing hafter hcontents agent key).1
    cases h.finds.symm.trans hnothing

end Found

/-- An existing file answers for a key, keeps a value and finds it again if and only if it is not its
own lock, its contents do not keep everyone from reading it, the name of the place has a document,
and the document of the value gives back that value. Contents that do keep everyone from reading stay
for good. All others, damaged or not, serve every such value from then on. -/
theorem damaged_file_serves_iff {file : FileStore} {bytes : List UInt8}
    (hcontents : file.contents = .octets bytes) :
    (∀ agent key v, Legible (depthLimit - 1) v →
      (Serves file agent key v ↔
        file.isOwnLock = false ∧ (∀ why, ¬Blocks bytes why) ∧
          isSpellable (entryName agent key) = true ∧ respelled v = v)) ∧
    (file.isOwnLock = false →
      (∀ why, Blocks bytes why → ∀ usages : List Usage,
        let late := usages.foldl Usage.onFile file
        late.contents = .octets bytes ∧ ∀ agent key v,
          (late.get agent key).2.2 = .error why ∧ (late.set agent key v).2.2 = .error why) ∧
      ((∀ why, ¬Blocks bytes why) → ∀ usages : List Usage, (∀ usage ∈ usages, usage.Handled) →
        let late := usages.foldl Usage.onFile file
        ∀ agent key v, Legible (depthLimit - 1) v → isSpellable (entryName agent key) = true →
          respelled v = v → Serves late agent key v)) := by
  have hplace : file.contents ≠ .directory := by
    rw [hcontents]
    exact nofun
  have husable : file.isOwnLock = false → (∀ why, ¬Blocks bytes why) → Usable file := by
    intro hapart hfree
    refine ⟨hapart, hplace, ?_⟩
    cases hmembers : file.members.2 with
    | ok members => exact ⟨members, rfl⟩
    | error why => exact absurd ((members_eq_error hcontents).mp hmembers) (hfree why)
  refine ⟨fun agent key v hvalue => ⟨fun hserves => ?_, ?_⟩, fun hapart => ⟨?_, ?_⟩⟩
  · have hapart := hserves.apart hplace
    have hname := isSpellable_of_found hserves.finds
    have hfree : ∀ why, ¬Blocks bytes why := by
      intro why hblocks
      obtain ⟨notices, hget⟩ := (Blocked.mk hapart hcontents hblocks).get agent key
      obtain ⟨found, hfound⟩ := hserves.answers
      rw [hget] at hfound
      contradiction
    obtain ⟨after, members, hset, hafter⟩ := (husable hapart hfree).set_legible hname hvalue
    have hfinds := hserves.finds
    rw [hset, hafter.get, stateKey, get?_put_text, if_pos rfl] at hfinds
    exact ⟨hapart, hfree, hname, Option.some.inj (Except.ok.inj hfinds)⟩
  · rintro ⟨hapart, hfree, hname, hsame⟩
    exact (husable hapart hfree).serves hname hvalue hsame
  · intro why hblocks usages late
    have hblocked : Blocked file bytes why := ⟨hapart, hcontents, hblocks⟩
    rw [show late = file from hblocked.run usages]
    refine ⟨hcontents, fun agent key v => ?_⟩
    obtain ⟨notices, hget⟩ := hblocked.get agent key
    obtain ⟨notices', hset⟩ := hblocked.set agent key v
    rw [hget, hset]
    exact ⟨rfl, rfl⟩
  · intro hfree usages husages late agent key v hvalue hname hsame
    exact ((husable hapart hfree).run husages).serves hname hvalue hsame

/-- A file of one octet that begins no character refuses a summary, and holds the octet afterwards. A
file that ends in the middle of a document takes it. -/
theorem strayOctet_stays :
    let stray : FileStore := { path := "chat.json", contents := .octets [0xFF] }
    let late := [Usage.set "a" "summary" (.text "x")].foldl Usage.onFile stray
    ¬Serves stray "a" "summary" (.text "x") ∧ late.contents = .octets [0xFF] ∧
      (late.get "a" "summary").2.2 = .error .undecodable ∧
      Serves { path := "chat.json", contents := .octets [0x7B] } "a" "summary" (.text "x") := by
  intro stray late
  have hblocks : Blocks [0xFF] .undecodable := .undecodable (by decide +kernel)
  have htext : Legible (depthLimit - 1) (.text "x") := .text _ _
  obtain ⟨hserves, happart⟩ := @damaged_file_serves_iff stray [0xFF] rfl
  obtain ⟨hcontents, hfails⟩ := (happart (by decide +kernel)).1 _ hblocks
    [.set "a" "summary" (.text "x")]
  refine ⟨fun h => ?_, hcontents, (hfails "a" "summary" .null).1, ?_⟩
  · exact ((hserves "a" "summary" (.text "x") htext).mp h).2.1 _ hblocks
  · let torn : FileStore := { path := "chat.json", contents := .octets [0x7B] }
    have hfree : ∀ why, ¬Blocks [0x7B] why := by
      intro why hwhy
      have hread : torn.members.2.isOk = true := by decide +kernel
      have hmembers : torn.members.2 = .error why := (members_eq_error rfl).mpr hwhy
      rw [hmembers] at hread
      contradiction
    exact ((@damaged_file_serves_iff torn [0x7B] rfl).1 "a" "summary" (.text "x") htext).mpr
      ⟨by decide +kernel, hfree, by decide +kernel, congrArg Value.text (by decide +kernel)⟩

end Condense.Proofs
