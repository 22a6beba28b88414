import Condense.Proofs.ConfigRoundTrip
import Condense.Proofs.JsonReadings

/-!
# Loading whatever a file holds

A file that is no document, or holds settings that are not valid, is set aside for the defaults. Other
contents do not come that far: what is no text, what cannot be read for its size, what is a document
but no dictionary, and what is said about the sources of settings and makes no sense, ends the loading
with a fault.
-/

namespace Condense.Proofs
open Json

/-- The contents of a file are a document, in which these settings stand under their names. -/
inductive Converts (bytes : List UInt8) : List (Key × Value) → Prop where
  | mk {t : Text} {document : Value} {members : List (Key × Value)}
      (hdecode : Text.decodeUtf8? bytes = some t) (hread : Json.read t = .ok document)
      (hdisk : fromDisk document = .ok members) : Converts bytes members

/-- The contents of a file are left aside, for this reason. -/
inductive SetAside (env : Environment) (bytes : List UInt8) : Text → Prop where
  | malformed {t : Text} (hdecode : Text.decodeUtf8? bytes = some t)
      (hread : Json.read t = .error .malformed) : SetAside env bytes Json.Fault.malformed.message
  | invalid {members : List (Key × Value)} {issues : List Issue} (h : Converts bytes members)
      (hvalidate : Config.validate env members = .error (.invalid issues)) :
      SetAside env bytes (integerText issues.length ++ " validation errors")

/-- A fault that nothing catches while the contents of a file are loaded. -/
inductive Uncaught (env : Environment) (bytes : List UInt8) : LoadFault → Prop where
  | undecodable (hdecode : Text.decodeUtf8? bytes = none) : Uncaught env bytes .undecodable
  | tooManyDigits {t : Text} {count : Nat} (hdecode : Text.decodeUtf8? bytes = some t)
      (hread : Json.read t = .error (.tooManyDigits count)) :
      Uncaught env bytes (.tooManyDigits count)
  | tooDeep {t : Text} {why : TooDeep} (hdecode : Text.decodeUtf8? bytes = some t)
      (hread : Json.read t = .error (.tooDeep why)) : Uncaught env bytes (.tooDeep why)
  | disk {t : Text} {document : Value} {why : DiskFault}
      (hdecode : Text.decodeUtf8? bytes = some t) (hread : Json.read t = .ok document)
      (hdisk : fromDisk document = .error why) : Uncaught env bytes (.disk why)
  | source {members : List (Key × Value)} {why : LoadFault} (h : Converts bytes members)
      (hvalidate : Config.validate env members = .error why)
      (hwhy : ∀ issues, why ≠ .invalid issues) : Uncaught env bytes why

/-- How the loading of a file ends. -/
inductive Loads (env : Environment) (path : Text) (bytes : List UInt8) :
    List Notice × Except LoadFault Config → Prop where
  | settled {members : List (Key × Value)} {config : Config} (h : Converts bytes members)
      (hvalidate : Config.validate env members = .ok config) : Loads env path bytes ([], .ok config)
  | aside {why : Text} (h : SetAside env bytes why) :
      Loads env path bytes ([.settingsUnreadable path why, .defaultSettings], .ok {})
  | uncaught {why : LoadFault} (h : Uncaught env bytes why) : Loads env path bytes ([], .error why)

section Load

variable {env : Environment} {path : Text} {bytes : List UInt8}

lemma ofEnvironment_unrelated (h : Unrelated env) : Config.ofEnvironment env = .ok {} := by
  have hread : Config.read [] = .ok {} := rfl
  unfold Config.ofEnvironment
  rw [settings_unrelated h]
  dsimp only
  rw [hread]
  rfl

lemma load_loads (h : Unrelated env) (path : Text) (bytes : List UInt8) :
    Loads env path bytes (Config.load env path (some bytes)) := by
  unfold Config.load Config.aside
  rw [ofEnvironment_unrelated h]
  dsimp only
  cases hdecode : Text.decodeUtf8? bytes with
  | none => exact .uncaught (.undecodable hdecode)
  | some t =>
    dsimp only
    rcases hread : Json.read t with (_ | count | why) | document
    · exact .aside (.malformed hdecode hread)
    · exact .uncaught (.tooManyDigits hdecode hread)
    · exact .uncaught (.tooDeep hdecode hread)
    · dsimp only
      cases hdisk : fromDisk document with
      | error why => exact .uncaught (.disk hdecode hread hdisk)
      | ok members =>
        have hconverts : Converts bytes members := .mk hdecode hread hdisk
        dsimp only
        cases hvalidate : Config.validate env members with
        | ok config => exact .settled hconverts hvalidate
        | error why =>
          cases why with
          | invalid issues => exact .aside (.invalid hconverts hvalidate)
          | _ => exact .uncaught (.source hconverts hvalidate nofun)

lemma load_converts {members : List (Key × Value)} (h : Converts bytes members)
    (env : Environment) (path : Text) :
    Config.load env path (some bytes) =
      match Config.validate env members with
      | .error (.invalid issues) =>
        Config.aside env path (integerText issues.length ++ " validation errors")
      | .error why => ([], .error why)
      | .ok config => ([], .ok config) := by
  obtain ⟨hdecode, hread, hdisk⟩ := h
  unfold Config.load
  rcases hvalidate : Config.validate env members with why | config
  · cases why <;> simp only [hdecode, hread, hdisk, hvalidate]
  · simp only [hdecode, hread, hdisk, hvalidate]

lemma load_of_valid {members : List (Key × Value)} {config : Config} (h : Converts bytes members)
    (hvalidate : Config.validate env members = .ok config) (path : Text) :
    Config.load env path (some bytes) = ([], .ok config) := by
  rw [load_converts h, hvalidate]

lemma load_of_setAside (henv : Unrelated env) {why : Text} (h : SetAside env bytes why)
    (path : Text) : Config.load env path (some bytes) =
      ([.settingsUnreadable path why, .defaultSettings], .ok {}) := by
  have haside : ∀ why, Config.aside env path why =
      ([.settingsUnreadable path why, .defaultSettings], .ok {}) := by
    intro why
    rw [Config.aside, ofEnvironment_unrelated henv]
  cases h with
  | malformed hdecode hread =>
    unfold Config.load
    dsimp only
    rw [hdecode]
    dsimp only
    rw [hread]
    exact haside _
  | invalid hconverts hvalidate =>
    rw [load_converts hconverts, hvalidate]
    exact haside _

lemma load_of_uncaught {why : LoadFault} (h : Uncaught env bytes why) (path : Text) :
    Config.load env path (some bytes) = ([], .error why) := by
  cases h with
  | source hconverts hvalidate hwhy =>
    rw [load_converts hconverts, hvalidate]
    cases why with
    | invalid issues => exact absurd rfl (hwhy issues)
    | _ => rfl
  | undecodable hdecode =>
    unfold Config.load
    dsimp only
    rw [hdecode]
  | tooManyDigits hdecode hread | tooDeep hdecode hread =>
    unfold Config.load
    dsimp only
    rw [hdecode]
    dsimp only
    rw [hread]
  | disk hdecode hread hdisk =>
    unfold Config.load
    dsimp only
    rw [hdecode]
    dsimp only
    rw [hread]
    dsimp only
    rw [hdisk]

end Load

section Dictionaries

lemma get?_of_absent {α : Type} {name : Text} {members : List (Key × α)}
    (h : ∀ member ∈ members, member.1 ≠ .text name) :
    Assoc.get? (Key.text name) members = none := by
  induction members with
  | nil => rfl
  | cons first rest ih =>
    rw [Assoc.get?, Key.beq_text, if_neg]
    · exact ih fun member hmember => h member (List.mem_cons_of_mem first hmember)
    · simpa using h first List.mem_cons_self

/-- The settings of a document that is a dictionary and not too deep. -/
lemma fromDisk_dict {t : Text} {members : List (Key × Value)} (hwhole : Whole t)
    (hread : Json.read t = .ok (.dict members))
    (hdepth : (Value.dict members).exceeds Value.renamingLimit = false) :
    fromDisk (.dict members) = .ok (renameSettings snakeCase members) := by
  cases (stable_of_read hwhole hread).legible with
  | dict hroom hdistinct hnames hvalues =>
    refine renameDocument_dict snakeCase (fun member hmember => ?_) hdepth
    obtain ⟨name, hname, -⟩ := hnames member hmember
    exact ⟨name, hname⟩

/-- A document that stands for no dictionary: a single value, a text, or a list in which something
stands that is no pair. -/
inductive NoDictionary : Value → Prop where
  | single {v : Value} (h : v.sequence? = none) : NoDictionary v
  | text (p : CodePoint) (rest : Text) : NoDictionary (.text (p :: rest))
  | list {items : List Value} {item : Value} (hmem : item ∈ items)
      (h : ∀ k v, item.sequence? ≠ some [k, v]) : NoDictionary (.list items)

lemma pairsFrom_error {items : List Value} {item : Value} (hmem : item ∈ items)
    (h : ∀ k v, item.sequence? ≠ some [k, v]) (index : Nat) (members : List (Key × Value)) :
    ∃ why, pairsFrom index members items = .error why := by
  induction items generalizing index members with
  | nil => contradiction
  | cons first rest ih =>
    unfold pairsFrom
    cases hpair : pairOf index first with
    | error why => exact ⟨why, rfl⟩
    | ok pair =>
      rcases List.mem_cons.mp hmem with rfl | hlater
      · unfold pairOf at hpair
        split at hpair
        case h_2 k v hsequence => exact absurd hsequence (h k v)
        all_goals contradiction
      · exact ih hlater (index + 1) _

lemma NoDictionary.fromDisk {document : Value} (h : NoDictionary document) :
    ∃ why, fromDisk document = .error why := by
  have herror : ∃ why, document.toMembers = .error why := by
    cases h with
    | single hsingle => cases document <;> first | contradiction | exact ⟨_, rfl⟩
    | text p rest => exact ⟨.badLength 0 1, rfl⟩
    | list hmem hitem => exact pairsFrom_error hmem hitem 0 []
  obtain ⟨why, hwhy⟩ := herror
  refine ⟨why, ?_⟩
  unfold Condense.fromDisk renameDocument
  rw [hwhy]
  rfl

end Dictionaries

section Sources

/-- The members say nothing about where settings come from. -/
structure SettingsOnly (members : List (Key × Value)) : Prop where
  options : ∀ member ∈ members, Source.isOption member = false
  reserved : ∀ member ∈ members, member.1 ≠ .text Source.reservedName

variable {members : List (Key × Value)} (h : SettingsOnly members)

include h

lemma SettingsOnly.option? {name : String} (hname : name ∈ Source.names) :
    Source.option? members name = none := by
  unfold Source.option?
  rw [get?_of_absent]
  · rfl
  · intro member hmember hkey
    have hoption : Source.isOption member = true := by
      unfold Source.isOption
      rw [hkey]
      exact List.any_eq_true.mpr ⟨name, hname, beq_self_eq_true _⟩
    rw [h.options member hmember] at hoption
    contradiction

/-- Such members are validated as they are, and whatever is wrong with them is an issue. -/
lemma SettingsOnly.validate {env : Environment} (henv : Unrelated env) :
    ∃ settled, Config.validate env members = Config.ofChecked (Config.read settled) := by
  have hnames : Source.checkNames members = .ok () := by
    unfold Source.checkNames Assoc.has
    rw [get?_of_absent h.reserved]
    rfl
  have hsource : Source.ofMembers members = .ok {} := by
    unfold Source.ofMembers Source.isSet
    simp only [h.option? (by decide : "_env_nested_max_split" ∈ Source.names),
      h.option? (by decide : "_env_prefix" ∈ Source.names),
      h.option? (by decide : "_env_file_depth" ∈ Source.names),
      h.option? (by decide : "_env_file" ∈ Source.names),
      h.option? (by decide : "_env_prefix_target" ∈ Source.names),
      h.option? (by decide : "_env_nested_delimiter" ∈ Source.names),
      h.option? (by decide : "_env_ignore_empty" ∈ Source.names),
      h.option? (by decide : "_env_parse_none_str" ∈ Source.names),
      h.option? (by decide : "_case_sensitive" ∈ Source.names),
      h.option? (by decide : "_secrets_dir" ∈ Source.names)]
    rfl
  have harguments : Arguments.ofMembers members = .ok none := by
    unfold Arguments.ofMembers
    rw [h.option? (by decide : "_cli_parse_args" ∈ Source.names)]
    rfl
  have hlayered : Config.layered env members =
      .ok (Value.overlayMembers [] (Config.settle (Source.settings members))) := by
    unfold Config.layered
    rw [hsource, harguments]
    change (do
      let below ← Config.ofVariables (env.settings {})
      _) = _
    rw [settings_unrelated henv]
    rfl
  refine ⟨Value.overlayMembers [] (Config.settle (Source.settings members)), ?_⟩
  unfold Config.validate
  rw [hnames, h.option? (by decide : "_build_sources" ∈ Source.names), hlayered]
  rfl

end Sources

/-- What comes of a file where the environment holds no settings. Its contents give the
configuration that is valid for the document as a whole, or the defaults if they are no document or
hold settings that are not valid, or one of the faults that nothing catches, and these arise exactly
as said. None arises from a dictionary that is not too deep and says nothing about sources of
settings; one always arises from a document that stands for no dictionary. -/
theorem load_usable_iff {env : Environment} (henv : Unrelated env) (path : Text)
    (bytes : List UInt8) :
    let loaded := Config.load env path (some bytes)
    (∀ why, loaded.2 = .error why ↔ Uncaught env bytes why) ∧
      (∀ notices config, loaded = (notices, .ok config) ↔
        (∃ members, Converts bytes members ∧ Config.validate env members = .ok config ∧
          notices = []) ∨
        (∃ why, SetAside env bytes why ∧ config = {} ∧
          notices = [.settingsUnreadable path why, .defaultSettings])) ∧
      ∀ t document, Text.decodeUtf8? bytes = some t → Json.read t = .ok document →
        (NoDictionary document → ∃ why, loaded.2 = .error (.disk why)) ∧
          ∀ members, document = .dict members → document.exceeds Value.renamingLimit = false →
            SettingsOnly (renameSettings snakeCase members) →
            ∃ config, loaded.2 = .ok config := by
  intro loaded
  have hloads : Loads env path bytes loaded := load_loads henv path bytes
  refine ⟨fun why => ⟨fun herror => ?_, fun huncaught => ?_⟩,
    fun notices config => ⟨fun hok => ?_, ?_⟩, fun t document hdecode hread => ⟨?_, ?_⟩⟩
  · generalize loaded = result at hloads herror
    cases hloads with
    | settled => contradiction
    | aside => contradiction
    | uncaught huncaught =>
      cases herror
      exact huncaught
  · exact congrArg Prod.snd (load_of_uncaught huncaught path)
  · rw [hok] at hloads
    cases hloads with
    | settled hconverts hvalidate => exact Or.inl ⟨_, hconverts, hvalidate, rfl⟩
    | aside haside => exact Or.inr ⟨_, haside, rfl, rfl⟩
  · rintro (⟨members, hconverts, hvalidate, rfl⟩ | ⟨why, haside, rfl, rfl⟩)
    · exact load_of_valid hconverts hvalidate path
    · exact load_of_setAside henv haside path
  · intro hno
    obtain ⟨why, hdisk⟩ := hno.fromDisk
    exact ⟨why, congrArg Prod.snd (load_of_uncaught (.disk hdecode hread hdisk) path)⟩
  · rintro members rfl hdepth honly
    have hconverts : Converts bytes (renameSettings snakeCase members) :=
      .mk hdecode hread (fromDisk_dict (whole_of_decodeUtf8? hdecode) hread hdepth)
    obtain ⟨settled, hvalidate⟩ := honly.validate henv
    cases hchecked : Config.read settled with
    | ok config =>
      rw [hchecked] at hvalidate
      exact ⟨config, congrArg Prod.snd (load_of_valid hconverts hvalidate path)⟩
    | error issues =>
      rw [hchecked] at hvalidate
      have haside : SetAside env bytes _ := .invalid hconverts hvalidate
      exact ⟨{}, congrArg Prod.snd (load_of_setAside henv haside path)⟩

/-- An octet that begins no character, and a document that is null, end the loading; a document that
is broken off does not. -/
theorem strayOctet_ends_loading :
    let load := fun bytes => Config.load [] "config.json" (some bytes)
    (load [0xFF]).2 = .error .undecodable ∧
      (∃ why, (load (Text.encodeUtf8 "null")).2 = .error (.disk why)) ∧
      ∃ why, load (Text.encodeUtf8 "\x7bbroken") =
        ([.settingsUnreadable "config.json" why, .defaultSettings], .ok {}) := by
  intro load
  have henv : Unrelated [] := nofun
  have hnull : Text.decodeUtf8? (Text.encodeUtf8 "null") = some "null" := by decide +kernel
  have hbroken : Text.decodeUtf8? (Text.encodeUtf8 "\x7bbroken") = some "\x7bbroken" := by
    decide +kernel
  have hread : Json.read "null" = .ok .null := rfl
  have hfault : Json.read "\x7bbroken" = .error .malformed := rfl
  refine ⟨?_, ?_, ?_⟩
  · exact ((load_usable_iff henv _ _).1 _).mpr (.undecodable (by decide +kernel))
  · exact ((load_usable_iff henv _ _).2.2 _ _ hnull hread).1 (.single rfl)
  · exact ⟨_, ((load_usable_iff henv _ _).2.1 _ _).mpr
      (Or.inr ⟨_, .malformed hbroken hfault, rfl, rfl⟩)⟩

end Condense.Proofs
