import Condense.Config.Disk
import Condense.Config.Schema
import Condense.Proofs.JsonReadings

/-!
# Names of settings in a file

What is a name in a dictionary of settings is written in camel case and read in snake case. Records
of settings have names that come back from that, and that stay different from one another; their
values are numbers, words and texts, or records again. Such a dictionary comes back out of a file as
it went in, but for texts in which halves of a surrogate pair find together.
-/

namespace Condense.Proofs
open Json

/-- Names that come back from their camel case and differ in it. -/
structure Neat (names : List Text) : Prop where
  distinct : (names.map camelCase).Nodup
  back : ∀ name ∈ names, snakeCase (camelCase name) = name
  spellable : ∀ name ∈ names, isSpellable name = true ∧ isSpellable (camelCase name) = true

instance (names : List Text) : Decidable (Neat names) :=
  decidable_of_iff ((names.map camelCase).Nodup ∧
    (∀ name ∈ names, snakeCase (camelCase name) = name) ∧
      ∀ name ∈ names, isSpellable name = true ∧ isSpellable (camelCase name) = true)
    ⟨fun h => ⟨h.1, h.2.1, h.2.2⟩, fun h => ⟨h.distinct, h.back, h.spellable⟩⟩

/-- A dictionary with texts for keys. -/
def recordOf (fields : List (Text × Value)) : Value :=
  .dict (fields.map fun field => (.text field.1, field.2))

/-- Records of settings, and what stands in them. -/
inductive Settings : Nat → Value → Prop where
  | null (room : Nat) : Settings room .null
  | bool (room : Nat) (b : Bool) : Settings room (.bool b)
  | int (room : Nat) (n : Int) : Settings room (.int n)
  | real (room : Nat) (x : Binary64) : Settings room (.real x)
  | text (room : Nat) (t : Text) : Settings room (.text t)
  | record {room : Nat} {fields : List (Text × Value)} (hnames : Neat (fields.map (·.1)))
      (hvalues : ∀ field ∈ fields, Settings room field.2) : Settings (room + 1) (recordOf fields)

lemma ofFields_eq (fields : List (String × Value)) :
    Value.ofFields fields =
      recordOf (fields.map fun field => (Text.ofString field.1, field.2)) := by
  unfold Value.ofFields recordOf
  rw [List.map_map]
  rfl

lemma holds_recordOf {key : Key → Bool} {single : Value → Bool} {fields : List (Text × Value)} :
    holds key single (recordOf fields) = false ↔
      ∀ field ∈ fields, key (.text field.1) = false ∧ holds key single field.2 = false := by
  unfold recordOf
  rw [holds_dict_eq_false, List.forall_mem_map]

section Depth

variable {room : Nat}

lemma itemsExceed_eq_any (room : Nat) (items : List Value) :
    Value.itemsExceed room items = items.any (Value.exceeds room) := by
  induction items with
  | nil => rfl
  | cons v vs ih => rw [Value.itemsExceed, ih, List.any_cons]

lemma membersExceed_eq_any (room : Nat) (members : List (Key × Value)) :
    Value.membersExceed room members = members.any fun member => member.2.exceeds room := by
  induction members with
  | nil => rfl
  | cons member rest ih => rw [Value.membersExceed, ih, List.any_cons]

lemma exceeds_list_eq_false {items : List Value} :
    Value.exceeds room (.list items) = false ↔
      room ≠ 0 ∧ ∀ v ∈ items, v.exceeds (room - 1) = false := by
  rw [Value.exceeds, itemsExceed_eq_any, Bool.or_eq_false_iff, List.any_eq_false,
    beq_eq_false_iff_ne]
  exact and_congr_right fun _ => forall₂_congr fun _ _ => Bool.not_eq_true _ ▸ Iff.rfl

lemma exceeds_dict_eq_false {members : List (Key × Value)} :
    Value.exceeds room (.dict members) = false ↔
      room ≠ 0 ∧ ∀ member ∈ members, member.2.exceeds (room - 1) = false := by
  rw [Value.exceeds, membersExceed_eq_any, Bool.or_eq_false_iff, List.any_eq_false,
    beq_eq_false_iff_ne]
  exact and_congr_right fun _ => forall₂_congr fun _ _ => Bool.not_eq_true _ ▸ Iff.rfl

end Depth

section Rename

lemma renameMembers_eq_map (f : Text → Text) (members : List (Key × Value)) :
    Value.renameMembers f members =
      members.map fun member => (member.1.rename f, member.2.rename f) := by
  induction members with
  | nil => rfl
  | cons member rest ih => rw [Value.renameMembers, ih, List.map_cons]

lemma renameItems_eq_map (f : Text → Text) (items : List Value) :
    Value.renameItems f items = items.map (Value.rename f) := by
  induction items with
  | nil => rfl
  | cons v vs ih => rw [Value.renameItems, ih, List.map_cons]

/-- Entering members one after the other keeps them as they are if their names differ. -/
lemma foldl_put_of_distinct {pairs : List (Key × Value)} (done : List (Key × Value))
    (htexts : ∀ pair ∈ pairs, ∃ name, pair.1 = .text name)
    (hdistinct : ((done ++ pairs).map (·.1)).Nodup) :
    pairs.foldl (fun table pair => Assoc.put pair.1 pair.2 table) done = done ++ pairs := by
  induction pairs generalizing done with
  | nil => rw [List.foldl_nil, List.append_nil]
  | cons pair rest ih =>
    obtain ⟨key, v⟩ := pair
    obtain ⟨name, rfl⟩ : ∃ name, key = .text name := htexts _ List.mem_cons_self
    have hnew : Key.text name ∉ done.map (·.1) := by
      rw [List.map_append, List.map_cons] at hdistinct
      exact not_mem_of_distinct hdistinct
    have happend : (done ++ [(Key.text name, v)]) ++ rest = done ++ (.text name, v) :: rest := by
      rw [List.append_assoc, List.singleton_append]
    rw [List.foldl_cons, put_of_not_mem v hnew, ih _ (fun other hother =>
      htexts other (List.mem_cons_of_mem _ hother)) (happend ▸ hdistinct), happend]

lemma ofList_of_distinct {pairs : List (Key × Value)}
    (htexts : ∀ pair ∈ pairs, ∃ name, pair.1 = .text name) (hdistinct : (pairs.map (·.1)).Nodup) :
    Assoc.ofList pairs = pairs :=
  foldl_put_of_distinct [] htexts hdistinct

lemma keys_recordOf {fields : List (Text × Value)} (h : (fields.map (·.1)).Nodup) :
    ((fields.map fun field => (Key.text field.1, field.2)).map (·.1)).Nodup := by
  have hkeys := h.map fun s t hst => Key.text.inj hst
  rw [List.map_map] at hkeys ⊢
  exact hkeys

/-- Names that stay different are exchanged one by one. -/
lemma rename_recordOf {f : Text → Text} {fields : List (Text × Value)}
    (h : ((fields.map (·.1)).map f).Nodup) :
    (recordOf fields).rename f =
      recordOf (fields.map fun field => (f field.1, field.2.rename f)) := by
  have hpairs : (fields.map fun field => (Key.text field.1, field.2)).map
      (fun member => (member.1.rename f, member.2.rename f)) =
      (fields.map fun field => (f field.1, field.2.rename f)).map
        fun field => (Key.text field.1, field.2) := by
    rw [List.map_map, List.map_map]
    rfl
  have hdistinct : ((fields.map fun field => (f field.1, field.2.rename f)).map (·.1)).Nodup := by
    rw [List.map_map] at h ⊢
    exact h
  unfold recordOf
  rw [Value.rename, renameMembers_eq_map, hpairs, ofList_of_distinct _ (keys_recordOf hdistinct)]
  intro pair hpair
  obtain ⟨field, -, rfl⟩ := List.mem_map.mp hpair
  exact ⟨field.1, rfl⟩

end Rename

namespace Settings

variable {room : Nat} {v : Value}

/-- The names come back. -/
theorem rename_back (h : Settings room v) : (v.rename camelCase).rename snakeCase = v := by
  induction h with
  | null | bool | int | real | text => rfl
  | @record room fields hnames hvalues ih =>
    have hback : (fields.map fun field =>
        (camelCase field.1, field.2.rename camelCase)).map
          (fun field => (snakeCase field.1, field.2.rename snakeCase)) = fields := by
      rw [List.map_map]
      refine (List.map_congr_left fun field hfield => ?_).trans (List.map_id fields)
      change (snakeCase (camelCase field.1), _) = field
      rw [hnames.back _ (List.mem_map_of_mem hfield), ih field hfield]
    have hdistinct : ((fields.map fun field =>
        (camelCase field.1, field.2.rename camelCase)).map (·.1)).map snakeCase =
          fields.map (·.1) := by
      rw [List.map_map, List.map_map]
      exact List.map_congr_left fun field hfield => hnames.back _ (List.mem_map_of_mem hfield)
    rw [rename_recordOf hnames.distinct,
      rename_recordOf (hdistinct ▸ hnames.distinct.of_map), hback]

/-- The names of a record in camel case differ, and a document can hold them. -/
lemma record_names {fields : List (Text × Value)} (h : Neat (fields.map (·.1)))
    (f : Value → Value) :
    let renamed := fields.map fun field => (Key.text (camelCase field.1), f field.2)
    (renamed.map (·.1)).Nodup ∧
      ∀ entry ∈ renamed, ∃ name, entry.1 = .text name ∧ isSpellable name = true := by
  refine ⟨?_, fun entry hentry => ?_⟩
  · have hdistinct := h.distinct.map fun s t hst => Key.text.inj hst
    rw [List.map_map, List.map_map] at hdistinct
    rw [List.map_map]
    exact hdistinct
  · obtain ⟨field, hfield, rfl⟩ := List.mem_map.mp hentry
    exact ⟨_, rfl, (h.spellable _ (List.mem_map_of_mem hfield)).2⟩

lemma respelled_recordOf (fields : List (Text × Value)) :
    Proofs.respelled (recordOf fields) =
      recordOf (fields.map fun field => (field.1, Proofs.respelled field.2)) := by
  unfold recordOf
  rw [Proofs.respelled, respelledMembers_eq_map, List.map_map, List.map_map]
  rfl

/-- What a document holds of a record with its names in camel case. -/
theorem held_rename (h : Settings room v) :
    held (v.rename camelCase) = (Proofs.respelled v).rename camelCase := by
  induction h with
  | null | bool | int | real | text => rfl
  | @record room fields hnames hvalues ih =>
    have hrespelled : (fields.map fun field => (field.1, Proofs.respelled field.2)).map (·.1) =
        fields.map (·.1) := by
      rw [List.map_map]
      rfl
    rw [respelled_recordOf, rename_recordOf hnames.distinct,
      rename_recordOf (hrespelled ▸ hnames.distinct)]
    have hnamed := record_names hnames (Value.rename camelCase)
    unfold recordOf
    rw [held, List.map_map, List.map_map]
    refine congrArg Value.dict ?_
    refine (heldMembers_of_distinct [] hnamed.1 hnamed.2).trans ?_
    rw [List.nil_append, List.map_map, List.map_map]
    exact List.map_congr_left fun field hfield => congrArg (Prod.mk _) (ih field hfield)

/-- No halves of a surrogate pair are left side by side in what a document holds. -/
theorem holdsSplitPair_respelled (h : Settings room v) :
    holdsSplitPair (Proofs.respelled v) = false := by
  induction h with
  | null | bool | int | real => rfl
  | text room t => exact congrArg Bool.not (isSpellable_respell t)
  | @record room fields hnames hvalues ih =>
    rw [respelled_recordOf]
    refine holds_recordOf.mpr (List.forall_mem_map.mpr fun field hfield => ⟨?_, ih field hfield⟩)
    exact congrArg Bool.not (hnames.spellable _ (List.mem_map_of_mem hfield)).1

/-- Without such halves a record comes back as it was. -/
theorem respelled_eq_self (h : Settings room v) (hpairs : holdsSplitPair v = false) :
    Proofs.respelled v = v := by
  induction h with
  | null | bool | int | real => rfl
  | text room t =>
    exact congrArg Value.text (respell_of_isSpellable (Bool.not_eq_eq_eq_not.mp hpairs))
  | @record room fields hnames hvalues ih =>
    have hfields := holds_recordOf.mp hpairs
    rw [respelled_recordOf]
    refine congrArg recordOf ((List.map_congr_left fun field hfield => ?_).trans (List.map_id _))
    exact congrArg (Prod.mk field.1) (ih field hfield (hfields field hfield).2)

/-- A record can be written unless an integer in it has too many digits. -/
theorem writable_iff (h : Settings room v) :
    obstacle? room (v.rename camelCase) = none ↔ holdsOverlong v = false := by
  induction h with
  | null | bool | real | text => exact iff_of_true rfl rfl
  | int room n =>
    change digitsObstacle? n = none ↔ isOverlong n = false
    unfold digitsObstacle?
    cases isOverlong n <;> simp
  | @record room fields hnames hvalues ih =>
    rw [rename_recordOf hnames.distinct]
    unfold recordOf
    rw [obstacle?, if_neg room.succ_ne_zero, membersObstacle?_eq_none, List.map_map,
      List.forall_mem_map]
    refine Iff.trans (forall₂_congr fun field hfield => ?_) holds_recordOf.symm
    exact and_congr (iff_of_true rfl rfl) (ih field hfield)

theorem exceeds_rename (h : Settings room v) : (v.rename camelCase).exceeds room = false := by
  induction h with
  | null | bool | int | real | text => rfl
  | @record room fields hnames hvalues ih =>
    rw [rename_recordOf hnames.distinct]
    unfold recordOf
    rw [exceeds_dict_eq_false, List.map_map, List.forall_mem_map]
    exact ⟨room.succ_ne_zero, fun field hfield => ih field hfield⟩

lemma ofFields {fields : List (String × Value)}
    (hnames : Neat (fields.map fun field => Text.ofString field.1))
    (hvalues : ∀ field ∈ fields, Settings room field.2) :
    Settings (room + 1) (.ofFields fields) := by
  have hpairs : (fields.map fun field => (Text.ofString field.1, field.2)).map (·.1) =
      fields.map fun field => Text.ofString field.1 := by
    rw [List.map_map]
    rfl
  rw [ofFields_eq]
  refine .record (hpairs ▸ hnames) fun pair hpair => ?_
  obtain ⟨field, hfield, rfl⟩ := List.mem_map.mp hpair
  exact hvalues field hfield

end Settings

section Parts

/-- The parts of a configuration, with the agents last, as they stand in a file. -/
def partsOf (agents : List (Key × Value)) (providers registry compaction : Value) :
    List (Key × Value) :=
  [(.text "providers", providers), (.text "registry", registry), (.text "compaction", compaction),
    (.text "agents", .dict agents)]

def partNames : List Text := ["providers", "registry", "compaction", "agents"]

/-- The names of the parts are the same in both forms. -/
structure KeepsParts (f : Text → Text) : Prop where
  providers : f "providers" = "providers"
  registry : f "registry" = "registry"
  compaction : f "compaction" = "compaction"

lemma keepsParts_camelCase : KeepsParts camelCase :=
  ⟨by decide +kernel, by decide +kernel, by decide +kernel⟩

lemma keepsParts_snakeCase : KeepsParts snakeCase :=
  ⟨by decide +kernel, by decide +kernel, by decide +kernel⟩

variable {f : Text → Text} {members agents : List (Key × Value)}
  {providers registry compaction : Value}

/-- The parts are renamed but for the ids of the agents, wherever the agents stand. -/
lemma renameSettings_eq (h : KeepsParts f)
    (hrest : Assoc.erase (Key.text "agents") members = [(.text "providers", providers),
      (.text "registry", registry), (.text "compaction", compaction)])
    (hagents : Assoc.get? (Key.text "agents") members = some (.dict agents)) :
    renameSettings f members =
      partsOf (agents.map fun agent => (agent.1, agent.2.rename f)) (providers.rename f)
        (registry.rename f) (compaction.rename f) := by
  unfold renameSettings
  rw [hrest, hagents]
  simp only [Value.renameMembers, Key.rename, h.providers, h.registry, h.compaction]
  rfl

end Parts

section Check

variable {fault : String → DiskFault} {members : List (Key × Value)}

lemma checkSettings_ok (hnames : ∀ member ∈ members, ∃ name, member.1 = .text name)
    (hdepth : ∀ member ∈ members, member.2.exceeds (Value.renamingLimit - 1) = false) :
    checkSettings fault members = .ok () := by
  induction members with
  | nil => rfl
  | cons first rest ih =>
    rw [List.forall_mem_cons] at hnames hdepth
    obtain ⟨key, v⟩ := first
    obtain ⟨⟨name, rfl : key = .text name⟩, hnames⟩ := hnames
    rw [checkSettings, if_neg (Bool.eq_false_iff.mp hdepth.1)]
    exact ih hnames hdepth.2

/-- A dictionary whose keys are texts, and that is not too deep, is renamed. -/
theorem renameDocument_dict (f : Text → Text)
    (hnames : ∀ member ∈ members, ∃ name, member.1 = .text name)
    (hdepth : (Value.dict members).exceeds Value.renamingLimit = false) :
    renameDocument f fault (.dict members) = .ok (renameSettings f members) := by
  have hshallow := (exceeds_dict_eq_false.mp hdepth).2
  have hsettings : checkSettings fault (Assoc.erase (Key.text "agents") members) = .ok () :=
    checkSettings_ok (fun member hmember => hnames member (List.mem_filter.mp hmember).1)
      fun member hmember => hshallow member (List.mem_filter.mp hmember).1
  have hagents : checkAgents (Assoc.get? (Key.text "agents") members) = .ok () := by
    unfold checkAgents
    split
    case h_1 agents hget =>
      rw [hshallow _ (mem_of_get? hget)]
      rfl
    case h_2 => rfl
  unfold renameDocument Value.toMembers
  dsimp only [bind, Except.bind]
  rw [hsettings, hagents]
  rfl

end Check

/-- The parts of a configuration with their names in one form or the other. -/
def filed (f : Value → Value) (config : Config) : List (Key × Value) :=
  partsOf (config.agents.map fun agent => (.text agent.1, f agent.2.toValue))
    (f config.providers.toValue) (f config.registry.toValue) (f config.compaction.toValue)

lemma renameSettings_members {f : Text → Text} (h : KeepsParts f) (config : Config) :
    renameSettings f config.members = filed (Value.rename f) config := by
  rw [renameSettings_eq h rfl rfl, List.map_map]
  rfl

lemma renameSettings_filed {f : Text → Text} (h : KeepsParts f) (g : Value → Value)
    (config : Config) :
    renameSettings f (filed g config) = filed (fun v => (g v).rename f) config := by
  unfold filed
  rw [renameSettings_eq h rfl rfl, List.map_map]
  rfl

end Condense.Proofs
