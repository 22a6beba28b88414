import Condense.Proofs.JoinedSettings

/-!
# A configuration out of the file that keeps it

A configuration is written to a file and comes back from it with the ids of its agents. Along the way
the names of settings are exchanged twice, and the document is read; the environment adds nothing,
because none of its variables is named like a setting.
-/

namespace Condense.Proofs
open Json

section Environment

/-- None of the variables is named like a setting. -/
def Unrelated (env : Environment) : Prop :=
  ∀ entry ∈ env, Text.startsWith "contextguard_" (Text.lower entry.1) = false

def Apart (entries : List Variable) : Prop :=
  ∀ entry ∈ entries, Text.startsWith "contextguard_" entry.name = false

/-- A table has no keys but those that were entered. -/
lemma mem_foldl_put_key {α : Type} {pairs table : List (Text × α)} {entry : Text × α}
    (h : entry ∈ pairs.foldl (fun table pair => Assoc.put pair.1 pair.2 table) table) :
    entry.1 ∈ table.map (·.1) ∨ entry.1 ∈ pairs.map (·.1) := by
  induction pairs generalizing table with
  | nil => exact Or.inl (List.mem_map_of_mem h)
  | cons pair rest ih =>
    rcases ih h with htable | hrest
    · obtain ⟨found, hfound, hkey⟩ := List.mem_map.mp htable
      rw [← hkey]
      rcases Assoc.mem_put (fun _ => eq_of_beq) hfound with rfl | hbefore
      · exact Or.inr List.mem_cons_self
      · exact Or.inl (List.mem_map_of_mem hbefore)
    · exact Or.inr (List.mem_cons_of_mem _ hrest)

lemma Unrelated.apart {env : Environment} (h : Unrelated env) :
    Apart (({} : Source).entries env) := by
  intro entry hentry
  obtain ⟨found, hfound, rfl⟩ := List.mem_map.mp hentry
  rcases mem_foldl_put_key hfound with hnone | hkey
  · exact absurd hnone List.not_mem_nil
  · rw [List.map_map] at hkey
    obtain ⟨pair, hpair, hname⟩ := List.mem_map.mp hkey
    change Text.startsWith "contextguard_" found.1 = false
    rw [← hname]
    exact h pair (List.mem_filter.mp hpair).1

variable {entries : List Variable} (h : Apart entries) {start : Text} {part : String}
  {shape : Shape}
  (hpart : Text.startsWith "contextguard_" (({} : Source).variableName start part) = true)

include h hpart

lemma nestedFrom_apart {separator : Separator} (members : List (Key × Value)) :
    Environment.nestedFrom {} start part shape separator members entries = .ok members := by
  induction entries with
  | nil => rfl
  | cons entry rest ih =>
    have hother : (({} : Source).variableName start part ++ separator.text).isPrefixOf entry.name =
        false := by
      rw [Bool.eq_false_iff]
      intro hprefix
      have hstart := (List.isPrefixOf_iff_prefix.mp hpart).trans
        ((List.prefix_append _ separator.text).trans (List.isPrefixOf_iff_prefix.mp hprefix))
      have hentry := h entry List.mem_cons_self
      unfold Text.startsWith at hentry
      rw [List.isPrefixOf_iff_prefix.mpr hstart] at hentry
      contradiction
    unfold Environment.nestedFrom
    dsimp only
    rw [hother, if_neg Bool.false_ne_true]
    exact ih fun other hmem => h other (List.mem_cons_of_mem entry hmem)

lemma part?_apart : Environment.part? {} start part shape entries = .ok none := by
  have hnone : (entries.find? fun entry => entry.name == ({} : Source).variableName start part) =
      none := by
    rw [List.find?_eq_none]
    intro entry hentry hsame
    have hapart := h entry hentry
    rw [eq_of_beq hsame, hpart] at hapart
    contradiction
  unfold Environment.part? Environment.nested
  rw [hnone]
  dsimp only
  rw [nestedFrom_apart h hpart]
  rfl

omit hpart in
lemma settingsOf_apart {parts : List (String × Shape)}
    (hparts : ∀ part ∈ parts, Text.startsWith "contextguard_"
      (({} : Source).variableName start part.1) = true) :
    Environment.settingsOf {} start entries parts = .ok [] := by
  induction parts with
  | nil => rfl
  | cons part rest ih =>
    unfold Environment.settingsOf
    rw [part?_apart h (hparts part List.mem_cons_self),
      ih fun other hother => hparts other (List.mem_cons_of_mem part hother)]
    rfl

end Environment

/-- Variables that are named otherwise give no settings. -/
lemma settings_unrelated {env : Environment} (h : Unrelated env) : env.settings {} = .ok [] := by
  refine settingsOf_apart h.apart ?_
  simp only [Shape.config, List.forall_mem_cons]
  exact ⟨by decide +kernel, by decide +kernel, by decide +kernel, by decide +kernel,
    List.forall_mem_nil _⟩

/-- Validation takes the parts of a document as they are if the environment adds nothing. -/
lemma validate_partsOf {env : Environment} (h : Unrelated env) (agents : List (Key × Value))
    (providers registry compaction : Value) :
    Config.validate env (partsOf agents providers registry compaction) =
      Config.ofChecked (Config.read [(.text "agents", .dict agents),
        (.text "providers", providers), (.text "registry", registry),
        (.text "compaction", compaction)]) := by
  have hlayered : Config.layered env (partsOf agents providers registry compaction) =
      .ok [(.text "agents", .dict agents), (.text "providers", providers),
        (.text "registry", registry), (.text "compaction", compaction)] := by
    have hsource : Source.ofMembers (partsOf agents providers registry compaction) = .ok {} := rfl
    have harguments : Arguments.ofMembers (partsOf agents providers registry compaction) =
        .ok none := rfl
    unfold Config.layered
    rw [hsource, harguments]
    change (do
      let below ← Config.ofVariables (env.settings {})
      _) = _
    rw [settings_unrelated h]
    rfl
  have hnames : Config.ofSource (Source.checkNames (partsOf agents providers registry compaction)) =
      .ok () := rfl
  have hsources : Source.option? (partsOf agents providers registry compaction) "_build_sources" =
      none := rfl
  unfold Config.validate
  rw [hnames, hsources]
  change (do
    let members ← Config.layered env (partsOf agents providers registry compaction)
    _) = _
  rw [hlayered]
  rfl

/-- A configuration can be saved unless an integer in it has too many digits. -/
theorem save_ok_iff (config : Config) :
    (∃ t, config.save = .ok t) ↔ holdsOverlong (.dict config.members) = false := by
  rw [← writable_filed]
  unfold Config.save Json.write
  rw [renameSettings_members keepsParts_camelCase]
  cases obstacle? depthLimit (.dict (filed (Value.rename camelCase) config)) <;> simp

/-- Whatever was saved comes back with its texts as a document gives them back. -/
theorem load_saved {config : Config} (h : Bounded config) {t : Text} (hsave : config.save = .ok t)
    {env : Environment} (henv : Unrelated env) (path : Text) :
    Config.load env path (some (Text.encodeUtf8 t)) = ([], .ok (joinedConfig config)) := by
  have hwritable := (writable_filed config).mpr ((save_ok_iff config).mp ⟨t, hsave⟩)
  have htext : t = render .file (.dict (filed (Value.rename camelCase) config)) := by
    unfold Config.save Json.write at hsave
    rw [renameSettings_members keepsParts_camelCase, hwritable] at hsave
    exact (Except.ok.inj hsave).symm
  have hdecode : Text.decodeUtf8? (Text.encodeUtf8 t) = some t :=
    decodeUtf8?_encodeUtf8 (htext ▸ ascii_render _ 0 ascii_nil)
  have hread : Json.read t =
      .ok (.dict (filed (Value.rename camelCase) (joinedConfig config))) := by
    rw [htext, ← held_filed]
    exact read_written hwritable rfl rfl
  have hvalid : Config.validate env (filed id (joinedConfig config)) =
      .ok (joinedConfig config) := by
    have hsettings := read_members_ok h.joined
    unfold Config.members at hsettings
    unfold filed
    dsimp only [id]
    rw [validate_partsOf henv, hsettings]
    rfl
  unfold Config.load
  dsimp only
  rw [hdecode]
  dsimp only
  rw [hread]
  dsimp only
  rw [fromDisk_filed]
  dsimp only
  rw [hvalid]

/-- A valid configuration that is saved is loaded as it was, with all settings and the id of every
agent, and saving it once more writes the same text. It is so exactly for the configurations without
an integer of too many digits, which cannot be saved, and without halves of a surrogate pair side by
side in a text or an id, which come back as one character. The environment holds anything but
settings. -/
theorem config_round_trip {config : Config} (h : ValidConfig config) {env : Environment}
    (henv : Unrelated env) (path : Text) :
    (∃ t, config.save = .ok t ∧
      let loaded := Config.load env path (some (Text.encodeUtf8 t))
      loaded = ([], .ok config) ∧ loaded.2.map Config.save = .ok (.ok t)) ↔
      holdsOverlong (.dict config.members) = false ∧
        holdsSplitPair (.dict config.members) = false := by
  constructor
  · rintro ⟨t, hsave, hload, -⟩
    refine ⟨(save_ok_iff config).mp ⟨t, hsave⟩, (joinedConfig_eq_self_iff h).mp ?_⟩
    rw [load_saved h.toBounded hsave henv] at hload
    exact Except.ok.inj (congrArg Prod.snd hload)
  · rintro ⟨hdigits, hpairs⟩
    obtain ⟨t, hsave⟩ := (save_ok_iff config).mpr hdigits
    have hload := load_saved h.toBounded hsave henv path
    rw [(joinedConfig_eq_self_iff h).mpr hpairs] at hload
    refine ⟨t, hsave, hload, ?_⟩
    rw [hload]
    exact congrArg Except.ok hsave

def slidingGuard : GuardSettings where
  strategy := .slidingWindow
  maxTurns := 5
  windowOverride := some 50000
  summaryModel := some "m"
  summaryTimeout := ratio 1 3

/-- Three agents: one with defaults and a name in camel case, one with a sliding window, and one
without a guard, whose id is no name at all. -/
def threeAgents : Config where
  agents := [("mainAgent", {}), ("snake_case_id", { guard := slidingGuard }),
    ("Ünïcode \"😀\"", { model := "", guard := { enabled := false } })]
  providers := { vllm := { apiKey := "k", apiBase := some "http://localhost:8000/v1" } }

lemma validConfig_threeAgents : ValidConfig threeAgents where
  distinct := by decide
  guards := by
    unfold threeAgents
    simp only [List.forall_mem_cons]
    refine ⟨validGuard_default, ⟨by decide, fun n hn => ?_, by decide +kernel⟩,
      ⟨by decide, nofun, by decide +kernel⟩, List.forall_mem_nil _⟩
    cases hn
    decide
  defaultWindow := by decide
  compaction := validCompaction_default

theorem threeAgents_round_trip :
    ∃ t, threeAgents.save = .ok t ∧ Config.load [("PATH", "/bin"), ("CONTEXT", "x")] "config.json"
      (some (Text.encodeUtf8 t)) = ([], .ok threeAgents) := by
  have henv : Unrelated [("PATH", "/bin"), ("CONTEXT", "x")] := by
    unfold Unrelated
    simp only [List.forall_mem_cons]
    exact ⟨by decide +kernel, by decide +kernel, List.forall_mem_nil _⟩
  obtain ⟨t, hsave, hload, -⟩ :=
    (config_round_trip validConfig_threeAgents henv "config.json").mpr
      ⟨by decide +kernel, by decide +kernel⟩
  exact ⟨t, hsave, hload⟩

/-- Two agents, the one named by the halves of a surrogate pair and the other by the character that
the pair stands for. -/
def namesakes : Config where
  agents := [([.half 0x3D, .half 0x600], { model := "m" }), ("😀", {})]

/-- A window that no document can hold. -/
def endlessWindow : Config where
  registry := { defaultWindow := overlong }

/-- Of two agents whose ids a document does not tell apart the first one is lost. With an integer of
too many digits a configuration cannot even be saved. -/
theorem namesakes_become_one :
    ValidConfig namesakes ∧ Unrelated [] ∧
      (∃ t, namesakes.save = .ok t ∧
        Config.load [] "config.json" (some (Text.encodeUtf8 t)) =
          ([], .ok { agents := [("😀", {})] }) ∧
        ({ agents := [("😀", {})] } : Config) ≠ namesakes) ∧
      ValidConfig endlessWindow ∧ ∀ t, endlessWindow.save ≠ .ok t := by
  have hvalid : ValidConfig namesakes :=
    { distinct := by decide
      guards := by
        unfold namesakes
        simp only [List.forall_mem_cons]
        exact ⟨validGuard_default, validGuard_default, List.forall_mem_nil _⟩
      defaultWindow := by decide
      compaction := validCompaction_default }
  have hunrelated : Unrelated [] := List.forall_mem_nil _
  obtain ⟨t, hsave⟩ := (save_ok_iff namesakes).mpr (by decide +kernel)
  have hload := load_saved hvalid.toBounded hsave hunrelated "config.json"
  have hone : joinedConfig namesakes = { agents := [("😀", {})] } := by decide +kernel
  refine ⟨hvalid, hunrelated, ⟨t, hsave, hone ▸ hload, by decide⟩, ?_, fun t hsave => ?_⟩
  · exact { distinct := List.nodup_nil, guards := List.forall_mem_nil _,
            defaultWindow := overlong_pos, compaction := validCompaction_default }
  · have hshort := holds_dict_eq_false.mp ((save_ok_iff endlessWindow).mp ⟨t, hsave⟩)
    have hregistry := (hshort (.text "registry", endlessWindow.registry.toValue)
      (List.mem_cons_of_mem _ (List.mem_cons_of_mem _ List.mem_cons_self))).2
    have hwindow : isOverlong overlong = false :=
      (holds_dict_eq_false.mp hregistry (.text "default_context_window", .int overlong)
        (List.mem_cons_of_mem _ List.mem_cons_self)).2
    exact Bool.false_ne_true (hwindow.symm.trans isOverlong_overlong)

end Condense.Proofs
