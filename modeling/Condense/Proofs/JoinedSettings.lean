import Condense.Proofs.ValidSettings

/-!
# What a file gives back of a configuration

A document gives back the settings that were written, but for texts in which the halves of a surrogate
pair stand side by side: they come back as the character that the pair stands for. Agents whose ids
become the same in this way become one.
-/

namespace Condense.Proofs
open Json

section Joined

/-! The settings with the texts that a document gives back. -/

def joinedGuard (settings : GuardSettings) : GuardSettings :=
  { settings with summaryModel := settings.summaryModel.map respell }

def joinedAgent (settings : AgentSettings) : AgentSettings :=
  ⟨respell settings.model, joinedGuard settings.guard⟩

def joinedProvider (settings : ProviderSettings) : ProviderSettings :=
  ⟨respell settings.apiKey, settings.apiBase.map respell⟩

def joinedProviders (settings : ProvidersSettings) : ProvidersSettings where
  anthropic := joinedProvider settings.anthropic
  openai := joinedProvider settings.openai
  openrouter := joinedProvider settings.openrouter
  gemini := joinedProvider settings.gemini
  zhipu := joinedProvider settings.zhipu
  vllm := joinedProvider settings.vllm

def joinedRegistry (settings : RegistrySettings) : RegistrySettings :=
  { settings with sourceUrl := respell settings.sourceUrl }

/-- Agents behind others. Agents whose ids become the same become one, which has the first place and
the last settings. -/
def joinedAgents (done : List (Text × AgentSettings)) :
    List (Text × AgentSettings) → List (Text × AgentSettings)
  | [] => done
  | (id, agent) :: rest => joinedAgents (Assoc.put (respell id) (joinedAgent agent) done) rest

/-- The configuration that comes back from a file. -/
def joinedConfig (config : Config) : Config where
  agents := joinedAgents [] config.agents
  providers := joinedProviders config.providers
  registry := joinedRegistry config.registry
  compaction := config.compaction

lemma toValue_joinedGuard (guard : GuardSettings) :
    (joinedGuard guard).toValue = respelled guard.toValue := by
  have hname : respelled (.text guard.strategy.name) = .text guard.strategy.name :=
    congrArg Value.text (respell_of_isSpellable (isSpellable_ofChars _))
  obtain ⟨enabled, strategy, maxTurns, windowOverride, summaryModel, summaryTimeout⟩ := guard
  unfold joinedGuard GuardSettings.toValue Value.ofFields
  simp only [List.map_cons, respelled, respelledMembers]
  dsimp only at hname
  rw [← respelled, hname]
  cases windowOverride <;> cases summaryModel <;> rfl

lemma toValue_joinedAgent (agent : AgentSettings) :
    (joinedAgent agent).toValue = respelled agent.toValue := by
  have hguard := toValue_joinedGuard agent.guard
  unfold joinedAgent AgentSettings.toValue
  dsimp only
  rw [hguard]
  rfl

lemma toValue_joinedProvider (provider : ProviderSettings) :
    (joinedProvider provider).toValue = respelled provider.toValue := by
  obtain ⟨apiKey, apiBase⟩ := provider
  cases apiBase <;> rfl

lemma toValue_joinedProviders (providers : ProvidersSettings) :
    (joinedProviders providers).toValue = respelled providers.toValue := by
  unfold joinedProviders ProvidersSettings.toValue
  simp only [toValue_joinedProvider]
  rfl

lemma respelled_compaction (compaction : CompactionSettings) :
    respelled compaction.toValue = compaction.toValue := rfl

section Agents

variable {P : Text × AgentSettings → Prop}

lemma forall_joinedAgents {agents done : List (Text × AgentSettings)}
    (hdone : ∀ entry ∈ done, P entry)
    (hagents : ∀ entry ∈ agents, P (respell entry.1, joinedAgent entry.2)) :
    ∀ entry ∈ joinedAgents done agents, P entry := by
  induction agents generalizing done with
  | nil => exact hdone
  | cons first rest ih =>
    rw [List.forall_mem_cons] at hagents
    refine ih (fun entry hentry => ?_) hagents.2
    rcases Assoc.mem_put (fun _ => eq_of_beq) hentry with rfl | hold
    · exact hagents.1
    · exact hdone entry hold

/-- Agents that do not change stay as they are if their ids differ. -/
lemma joinedAgents_of_distinct {agents : List (Text × AgentSettings)}
    (done : List (Text × AgentSettings)) (hdistinct : ((done ++ agents).map (·.1)).Nodup)
    (hsame : ∀ entry ∈ agents, respell entry.1 = entry.1 ∧ joinedAgent entry.2 = entry.2) :
    joinedAgents done agents = done ++ agents := by
  induction agents generalizing done with
  | nil => exact (List.append_nil done).symm
  | cons first rest ih =>
    rw [List.forall_mem_cons] at hsame
    have hnew : first.1 ∉ done.map (·.1) := by
      rw [List.map_append, List.map_cons] at hdistinct
      exact not_mem_of_distinct hdistinct
    have happend : (done ++ [first]) ++ rest = done ++ first :: rest := by
      rw [List.append_assoc, List.singleton_append]
    have hput : Assoc.put first.1 first.2 done = done ++ [first] :=
      Assoc.put_of_not_mem (fun _ => eq_of_beq) first.2 hnew
    rw [joinedAgents, hsame.1.1, hsame.1.2, hput, ih _ (happend ▸ hdistinct) hsame.2, happend]

end Agents

lemma Bounded.joined {config : Config} (h : Bounded config) : Bounded (joinedConfig config) where
  guards := forall_joinedAgents (List.forall_mem_nil _) fun entry hentry =>
    let hguard := h.guards entry hentry
    ⟨hguard.maxTurns, hguard.windowOverride, hguard.summaryTimeout⟩
  defaultWindow := h.defaultWindow
  compaction := h.compaction

/-- No halves of a surrogate pair are left side by side in what comes back. -/
lemma holdsSplitPair_joined (config : Config) :
    holdsSplitPair (.dict (joinedConfig config).members) = false := by
  have hagents : ∀ entry ∈ joinedAgents [] config.agents,
      isSpellable entry.1 = true ∧ holdsSplitPair entry.2.toValue = false :=
    forall_joinedAgents (List.forall_mem_nil _) fun entry hentry => ⟨isSpellable_respell _, by
      rw [toValue_joinedAgent]
      exact (settings_agent entry.2 : Settings 2 _).holdsSplitPair_respelled⟩
  refine holds_dict_eq_false.mpr ?_
  unfold Config.members
  simp only [List.forall_mem_cons]
  refine ⟨⟨rfl, holds_dict_eq_false.mpr (List.forall_mem_map.mpr fun entry hentry =>
    ⟨congrArg Bool.not (hagents entry hentry).1, (hagents entry hentry).2⟩)⟩, ⟨rfl, ?_⟩,
    ⟨rfl, ?_⟩, ⟨rfl, ?_⟩, List.forall_mem_nil _⟩
  · exact toValue_joinedProviders _ ▸
      (settings_providers config.providers : Settings 2 _).holdsSplitPair_respelled
  · exact (settings_registry config.registry : Settings 1 _).holdsSplitPair_respelled
  · exact respelled_compaction _ ▸
      (settings_compaction config.compaction : Settings 1 _).holdsSplitPair_respelled

/-- Settings are the same if the same is dumped of them, because it is read as both. -/
lemma eq_of_read {α : Type} {read : Value → Condense.Checked α} {v w : Value} {a b : α}
    (hv : read v = .ok a) (hw : read w = .ok b) (h : v = w) : a = b :=
  Except.ok.inj (hv.symm.trans (h ▸ hw))

/-- A valid configuration comes back as it was exactly if no halves of a surrogate pair stand side by
side in its texts. -/
theorem joinedConfig_eq_self_iff {config : Config} (h : ValidConfig config) :
    joinedConfig config = config ↔ holdsSplitPair (.dict config.members) = false := by
  refine ⟨fun hsame => hsame ▸ holdsSplitPair_joined config, fun hpairs => ?_⟩
  have hbounded := h.toBounded.joined
  have hparts := holds_dict_eq_false.mp hpairs
  unfold Config.members at hparts
  simp only [List.forall_mem_cons] at hparts
  obtain ⟨⟨-, hentries⟩, ⟨-, hproviders⟩, ⟨-, hregistry⟩, -⟩ := hparts
  have hagents : joinedAgents [] config.agents = config.agents := by
    refine joinedAgents_of_distinct [] h.distinct fun entry hentry => ?_
    obtain ⟨hid, hagent⟩ := List.forall_mem_map.mp (holds_dict_eq_false.mp hentries) entry hentry
    have hguard := h.guards entry hentry
    refine ⟨respell_of_isSpellable (Bool.not_eq_eq_eq_not.mp hid), eq_of_read
      (readAgent_ok ⟨hguard.maxTurns, hguard.windowOverride, hguard.summaryTimeout⟩)
      (readAgent_ok hguard) ?_⟩
    rw [toValue_joinedAgent, (settings_agent entry.2 : Settings 2 _).respelled_eq_self hagent]
  have hjoined : joinedProviders config.providers = config.providers := by
    refine eq_of_read (readProviders_ok _) (readProviders_ok _) ?_
    rw [toValue_joinedProviders,
      (settings_providers config.providers : Settings 2 _).respelled_eq_self hproviders]
  have hsource : joinedRegistry config.registry = config.registry := by
    refine eq_of_read (readRegistry_ok hbounded.defaultWindow) (readRegistry_ok h.defaultWindow) ?_
    exact (settings_registry config.registry : Settings 1 _).respelled_eq_self hregistry
  unfold joinedConfig
  rw [hagents, hjoined, hsource]

end Joined

section Filed

/-- The member of a file for an agent. -/
def filedAgent (f : Value → Value) (entry : Text × AgentSettings) : Key × Value :=
  (.text entry.1, f entry.2.toValue)

lemma put_filedAgent (f : Value → Value) (id : Text) (agent : AgentSettings)
    (table : List (Text × AgentSettings)) :
    Assoc.put (Key.text id) (f agent.toValue) (table.map (filedAgent f)) =
      (Assoc.put id agent table).map (filedAgent f) := by
  induction table with
  | nil => rfl
  | cons first rest ih =>
    have hkey : (filedAgent f first).1 = .text first.1 := rfl
    rw [List.map_cons, Assoc.put, Assoc.put, Key.beq_text, hkey]
    by_cases hsame : first.1 = id
    · simp [hsame, filedAgent]
    · simp only [hsame, ih, decide_false, beq_iff_eq, Key.text.injEq, if_false, List.map_cons]
      rfl

lemma heldMembers_agents (done agents : List (Text × AgentSettings)) :
    heldMembers (done.map (filedAgent (Value.rename camelCase)))
        (agents.map (filedAgent (Value.rename camelCase))) =
      (joinedAgents done agents).map (filedAgent (Value.rename camelCase)) := by
  induction agents generalizing done with
  | nil => rfl
  | cons first rest ih =>
    have hagent : held (first.2.toValue.rename camelCase) =
        (joinedAgent first.2).toValue.rename camelCase := by
      rw [(settings_agent first.2 : Settings 2 _).held_rename, toValue_joinedAgent]
    rw [List.map_cons, filedAgent, heldMembers, keyText, hagent, put_filedAgent, ih]
    rfl

lemma heldMembers_partsOf (agents : List (Key × Value)) (providers registry compaction : Value) :
    heldMembers [] (partsOf agents providers registry compaction) =
      partsOf (heldMembers [] agents) (held providers) (held registry) (held compaction) := by
  have hnames : partNames.Nodup ∧ ∀ name ∈ partNames, isSpellable name = true := by decide
  have hkeys : (partNames.map Key.text).Nodup := hnames.1.map fun s t hst => Key.text.inj hst
  refine heldMembers_of_distinct [] hkeys fun entry hentry => ?_
  have hkey : entry.1 ∈ partNames.map Key.text := List.mem_map_of_mem hentry
  obtain ⟨name, hname, hkey⟩ := List.mem_map.mp hkey
  exact ⟨name, hkey.symm, hnames.2 name hname⟩

/-- The document of a configuration holds the configuration that comes back. -/
theorem held_filed (config : Config) :
    held (.dict (filed (Value.rename camelCase) config)) =
      .dict (filed (Value.rename camelCase) (joinedConfig config)) := by
  have hagents := heldMembers_agents [] config.agents
  have hproviders := (settings_providers config.providers : Settings 2 _).held_rename
  have hregistry := (settings_registry config.registry : Settings 1 _).held_rename
  have hcompaction := (settings_compaction config.compaction : Settings 1 _).held_rename
  rw [← toValue_joinedProviders] at hproviders
  unfold filed
  rw [held, heldMembers_partsOf, hproviders, hregistry, hcompaction]
  exact congrArg (fun agents => Value.dict (partsOf agents _ _ _)) hagents

/-- A configuration can be written unless an integer in it has too many digits. -/
theorem writable_filed (config : Config) :
    obstacle? depthLimit (.dict (filed (Value.rename camelCase) config)) = none ↔
      holdsOverlong (.dict config.members) = false := by
  have hproviders := (settings_providers config.providers : Settings (977 + 2) _).writable_iff
  have hregistry := (settings_registry config.registry : Settings (978 + 1) _).writable_iff
  have hcompaction := (settings_compaction config.compaction : Settings (978 + 1) _).writable_iff
  have hagents : obstacle? (depthLimit - 1) (.dict (config.agents.map
      (filedAgent (Value.rename camelCase)))) = none ↔
        holdsOverlong (.dict (config.agents.map (filedAgent id))) = false := by
    rw [obstacle?, if_neg (by decide), membersObstacle?_eq_none, List.forall_mem_map]
    refine Iff.trans (forall₂_congr fun entry _ => ?_)
      (List.forall_mem_map.symm.trans holds_dict_eq_false.symm)
    exact and_congr (iff_of_true rfl rfl)
      (settings_agent entry.2 : Settings (976 + 2) _).writable_iff
  rw [obstacle?, if_neg (by decide), membersObstacle?_eq_none]
  refine Iff.trans ?_ holds_dict_eq_false.symm
  unfold filed partsOf Config.members
  simp only [List.forall_mem_cons]
  constructor
  · rintro ⟨⟨-, hp⟩, ⟨-, hr⟩, ⟨-, hc⟩, ⟨-, ha⟩, -⟩
    exact ⟨⟨rfl, hagents.mp ha⟩, ⟨rfl, hproviders.mp hp⟩, ⟨rfl, hregistry.mp hr⟩,
      ⟨rfl, hcompaction.mp hc⟩, List.forall_mem_nil _⟩
  · rintro ⟨⟨-, ha⟩, ⟨-, hp⟩, ⟨-, hr⟩, ⟨-, hc⟩, -⟩
    exact ⟨⟨rfl, hproviders.mpr hp⟩, ⟨rfl, hregistry.mpr hr⟩, ⟨rfl, hcompaction.mpr hc⟩,
      ⟨rfl, hagents.mpr ha⟩, List.forall_mem_nil _⟩

/-- The settings in the document are those that were dumped. -/
theorem fromDisk_filed (config : Config) :
    fromDisk (.dict (filed (Value.rename camelCase) config)) = .ok (filed id config) := by
  have hproviders : Settings (Value.renamingLimit - 3 + 2) config.providers.toValue :=
    settings_providers _
  have hregistry : Settings (Value.renamingLimit - 2 + 1) config.registry.toValue :=
    settings_registry _
  have hcompaction : Settings (Value.renamingLimit - 2 + 1) config.compaction.toValue :=
    settings_compaction _
  have hagent (agent : AgentSettings) : Settings (Value.renamingLimit - 4 + 2) agent.toValue :=
    settings_agent _
  have hnames : ∀ member ∈ filed (Value.rename camelCase) config,
      ∃ name, member.1 = .text name := by
    unfold filed partsOf
    simp only [List.forall_mem_cons]
    exact ⟨⟨_, rfl⟩, ⟨_, rfl⟩, ⟨_, rfl⟩, ⟨_, rfl⟩, List.forall_mem_nil _⟩
  have hdepth : (Value.dict (filed (Value.rename camelCase) config)).exceeds Value.renamingLimit =
      false := by
    refine exceeds_dict_eq_false.mpr ⟨by decide, ?_⟩
    unfold filed partsOf
    simp only [List.forall_mem_cons]
    refine ⟨hproviders.exceeds_rename, hregistry.exceeds_rename, hcompaction.exceeds_rename, ?_,
      List.forall_mem_nil _⟩
    exact exceeds_dict_eq_false.mpr ⟨by decide, List.forall_mem_map.mpr fun entry _ =>
      (hagent entry.2).exceeds_rename⟩
  have hback : filed (fun v => (v.rename camelCase).rename snakeCase) config = filed id config := by
    unfold filed
    dsimp only [id]
    simp only [(hagent _).rename_back, hproviders.rename_back, hregistry.rename_back,
      hcompaction.rename_back]
  unfold fromDisk
  rw [renameDocument_dict snakeCase hnames hdepth, renameSettings_filed keepsParts_snakeCase, hback]

end Filed

end Condense.Proofs
