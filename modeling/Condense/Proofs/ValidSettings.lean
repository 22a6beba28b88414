import Condense.Config.Load
import Condense.Proofs.SettingNames

/-!
# Valid settings

What is dumped of settings is a record of names and values. If they are within the bounds that
validation asks for, the record is read as the settings that were dumped: every field finds its own
member, and every reader takes its own kind of value as it is.
-/

namespace Condense.Proofs
open Json Lenient

section Valid

abbrev Positive (x : Binary64) : Prop := (Binary64.zero false).lt x = true

structure ValidGuard (settings : GuardSettings) : Prop where
  maxTurns : 0 < settings.maxTurns
  windowOverride : ∀ n ∈ settings.windowOverride, 0 < n
  summaryTimeout : Positive settings.summaryTimeout

structure ValidCompaction (settings : CompactionSettings) : Prop where
  largeWindowThreshold : 0 < settings.largeWindowThreshold
  largeWindowBuffer : 0 < settings.largeWindowBuffer
  smallWindowRatio : Positive settings.smallWindowRatio ∧ settings.smallWindowRatio.lt one = true
  recentRatio : Positive settings.recentRatio ∧ settings.recentRatio.lt one = true
  summaryRatio : Positive settings.summaryRatio ∧ settings.summaryRatio.le one = true
  wordsPerToken : Positive settings.wordsPerToken
  excerptChars : 0 < settings.excerptChars
  slidingRatio : Positive settings.slidingRatio ∧ settings.slidingRatio.lt one = true
  slidingLeast : 0 < settings.slidingLeast

/-- Every setting is within the bounds that validation asks for. -/
structure Bounded (config : Config) : Prop where
  guards : ∀ agent ∈ config.agents, ValidGuard agent.2.guard
  defaultWindow : 0 < config.registry.defaultWindow
  compaction : ValidCompaction config.compaction

/-- A configuration that validation lets through. The ids of the agents differ, because they are the
keys of a dictionary. Texts and ids may be any texts, and integers may be of any size. -/
structure ValidConfig (config : Config) : Prop extends Bounded config where
  distinct : (config.agents.map (·.1)).Nodup

lemma validGuard_default : ValidGuard {} := ⟨by decide, nofun, by decide +kernel⟩

lemma validCompaction_default : ValidCompaction {} where
  largeWindowThreshold := by decide
  largeWindowBuffer := by decide
  smallWindowRatio := by decide +kernel
  recentRatio := by decide +kernel
  summaryRatio := by decide +kernel
  wordsPerToken := by decide +kernel
  excerptChars := by decide
  slidingRatio := by decide +kernel
  slidingLeast := by decide

end Valid

section Documents

variable {room : Nat}

lemma settings_option (t : Option Text) : Settings room (.ofOption t) := by
  cases t with
  | none => exact .null room
  | some t => exact .text room t

lemma settings_guard (guard : GuardSettings) : Settings (room + 1) guard.toValue := by
  have hneat : Neat (["enabled", "strategy", "max_turns", "context_window_override",
    "summary_model", "summary_timeout_seconds"] : List Text) := by decide +kernel
  refine .ofFields hneat ?_
  simp only [List.forall_mem_cons]
  refine ⟨.bool _ _, .text _ _, .int _ _, ?_, settings_option _, .real _ _,
    List.forall_mem_nil _⟩
  split
  case h_1 n _ => exact .int room n
  case h_2 => exact .null room

lemma settings_agent (agent : AgentSettings) : Settings (room + 2) agent.toValue := by
  have hneat : Neat (["model", "context_guard"] : List Text) := by decide +kernel
  refine .ofFields hneat ?_
  simp only [List.forall_mem_cons]
  exact ⟨.text _ _, settings_guard _, nofun⟩

lemma settings_provider (provider : ProviderSettings) : Settings (room + 1) provider.toValue := by
  have hneat : Neat (["api_key", "api_base"] : List Text) := by decide +kernel
  refine .ofFields hneat ?_
  simp only [List.forall_mem_cons]
  exact ⟨.text _ _, settings_option _, nofun⟩

lemma settings_providers (providers : ProvidersSettings) :
    Settings (room + 2) providers.toValue := by
  have hneat : Neat (["anthropic", "openai", "openrouter", "gemini", "zhipu", "vllm"] :
    List Text) := by decide +kernel
  refine .ofFields hneat ?_
  simp only [List.forall_mem_cons]
  exact ⟨settings_provider _, settings_provider _, settings_provider _, settings_provider _,
    settings_provider _, settings_provider _, nofun⟩

lemma settings_registry (registry : RegistrySettings) : Settings (room + 1) registry.toValue := by
  have hneat : Neat (["source_url", "default_context_window", "fetch_timeout_seconds"] :
    List Text) := by decide +kernel
  refine .ofFields hneat ?_
  simp only [List.forall_mem_cons]
  exact ⟨.text _ _, .int _ _, .real _ _, nofun⟩

lemma settings_compaction (compaction : CompactionSettings) :
    Settings (room + 1) compaction.toValue := by
  have hneat : Neat (["large_context_window_threshold", "large_context_window_buffer",
    "small_context_window_ratio", "recent_window_ratio", "summary_output_ratio",
    "words_per_token", "fallback_excerpt_chars", "sliding_window_recent_ratio",
    "sliding_window_min_recent"] : List Text) := by decide +kernel
  refine .ofFields hneat ?_
  simp only [List.forall_mem_cons]
  exact ⟨.int _ _, .int _ _, .real _ _, .real _ _, .real _ _, .real _ _, .int _ _, .real _ _,
    .int _ _, nofun⟩

end Documents

section Read

lemma part_ok {α β : Type} {whole : Condense.Checked (α → β)} {next : Condense.Checked α}
    {f : α → β} {a : α} (hwhole : whole = .ok f) (hnext : next = .ok a) :
    whole.part next = .ok (f a) := by
  rw [hwhole, hnext]
  rfl

lemma setting_ok {α : Type} {members : List (Key × Value)} {name : String} {default a : α}
    {read : Value → Condense.Checked α} {v : Value}
    (hmember : Assoc.get? (Key.text name) members = some v) (hread : read v = .ok a) :
    setting members name default read = .ok a := by
  unfold setting
  rw [hmember]
  dsimp only
  rw [hread]
  rfl

lemma boolean_ok (b : Bool) : boolean (.bool b) = .ok b := rfl

lemma text_ok (t : Text) : text (.text t) = .ok t := rfl

lemma real_ok (x : Binary64) : real (.real x) = .ok x := rfl

lemma above_ok {n : Int} (h : 0 < n) : above 0 (.int n) = .ok n := if_pos h

lemma atLeast_ok {n : Int} (h : 0 < n) : atLeast 1 (.int n) = .ok n := if_pos h

lemma positive_ok {x : Binary64} (h : Positive x) : positiveReal (.real x) = .ok x := if_pos h

lemma properShare_ok {x : Binary64} (h : Positive x ∧ x.lt one = true) :
    properShare (.real x) = .ok x :=
  (if_pos h.2).trans (if_pos h.1)

lemma wholeShare_ok {x : Binary64} (h : Positive x ∧ x.le one = true) :
    wholeShare (.real x) = .ok x :=
  (if_pos h.2).trans (if_pos h.1)

lemma text_option_ok (t : Option Text) : optional text (.ofOption t) = .ok t := by
  cases t <;> rfl

lemma strategy_ok (kind : StrategyKind) : word strategyWords (.text kind.name) = .ok kind := by
  cases kind <;> rfl

lemma readGuard_ok {guard : GuardSettings} (h : ValidGuard guard) :
    Lenient.members GuardSettings.read guard.toValue = .ok guard := by
  obtain ⟨enabled, strategy, maxTurns, windowOverride, summaryModel, summaryTimeout⟩ := guard
  unfold GuardSettings.toValue Value.ofFields
  simp only [List.map_cons, List.map_nil]
  refine part_ok (part_ok (part_ok (part_ok (part_ok (part_ok rfl ?_) ?_) ?_) ?_) ?_) ?_
  · exact setting_ok rfl (boolean_ok enabled)
  · exact setting_ok rfl (strategy_ok strategy)
  · exact setting_ok rfl (atLeast_ok h.maxTurns)
  · refine setting_ok rfl ?_
    cases windowOverride with
    | none => rfl
    | some n => exact congrArg (Checked.map some) (above_ok (h.windowOverride n rfl))
  · exact setting_ok rfl (text_option_ok summaryModel)
  · exact setting_ok rfl (positive_ok h.summaryTimeout)

lemma readAgent_ok {agent : AgentSettings} (h : ValidGuard agent.guard) :
    Lenient.members AgentSettings.read agent.toValue = .ok agent := by
  obtain ⟨model, guard⟩ := agent
  unfold AgentSettings.toValue Value.ofFields
  simp only [List.map_cons, List.map_nil]
  refine part_ok (part_ok rfl ?_) ?_
  · exact setting_ok rfl (text_ok model)
  · exact setting_ok rfl (readGuard_ok h)

lemma readProvider_ok (provider : ProviderSettings) :
    Lenient.members ProviderSettings.read provider.toValue = .ok provider := by
  obtain ⟨apiKey, apiBase⟩ := provider
  unfold ProviderSettings.toValue Value.ofFields
  simp only [List.map_cons, List.map_nil]
  refine part_ok (part_ok rfl ?_) ?_
  · exact setting_ok rfl (text_ok apiKey)
  · exact setting_ok rfl (text_option_ok apiBase)

lemma readProviders_ok (providers : ProvidersSettings) :
    Lenient.members ProvidersSettings.read providers.toValue = .ok providers := by
  obtain ⟨anthropic, openai, openrouter, gemini, zhipu, vllm⟩ := providers
  unfold ProvidersSettings.toValue Value.ofFields
  simp only [List.map_cons, List.map_nil]
  refine part_ok (part_ok (part_ok (part_ok (part_ok (part_ok rfl ?_) ?_) ?_) ?_) ?_) ?_
  all_goals exact setting_ok rfl (readProvider_ok _)

lemma readRegistry_ok {registry : RegistrySettings} (h : 0 < registry.defaultWindow) :
    Lenient.members RegistrySettings.read registry.toValue = .ok registry := by
  obtain ⟨sourceUrl, defaultWindow, fetchTimeout⟩ := registry
  unfold RegistrySettings.toValue Value.ofFields
  simp only [List.map_cons, List.map_nil]
  refine part_ok (part_ok (part_ok rfl ?_) ?_) ?_
  · exact setting_ok rfl (text_ok sourceUrl)
  · exact setting_ok rfl (above_ok h)
  · exact setting_ok rfl (real_ok fetchTimeout)

lemma readCompaction_ok {compaction : CompactionSettings} (h : ValidCompaction compaction) :
    Lenient.members CompactionSettings.read compaction.toValue = .ok compaction := by
  obtain ⟨largeWindowThreshold, largeWindowBuffer, smallWindowRatio, recentRatio, summaryRatio,
    wordsPerToken, excerptChars, slidingRatio, slidingLeast⟩ := compaction
  unfold CompactionSettings.toValue Value.ofFields
  simp only [List.map_cons, List.map_nil]
  refine part_ok (part_ok (part_ok (part_ok (part_ok (part_ok (part_ok (part_ok (part_ok rfl
    ?_) ?_) ?_) ?_) ?_) ?_) ?_) ?_) ?_
  · exact setting_ok rfl (above_ok h.largeWindowThreshold)
  · exact setting_ok rfl (above_ok h.largeWindowBuffer)
  · exact setting_ok rfl (properShare_ok h.smallWindowRatio)
  · exact setting_ok rfl (properShare_ok h.recentRatio)
  · exact setting_ok rfl (wholeShare_ok h.summaryRatio)
  · exact setting_ok rfl (positive_ok h.wordsPerToken)
  · exact setting_ok rfl (above_ok h.excerptChars)
  · exact setting_ok rfl (properShare_ok h.slidingRatio)
  · exact setting_ok rfl (atLeast_ok h.slidingLeast)

lemma readAgents_ok {agents : List (Text × AgentSettings)}
    (h : ∀ agent ∈ agents, ValidGuard agent.2.guard) :
    readAgents (.dict (agents.map fun agent => (.text agent.1, agent.2.toValue))) =
      .ok agents := by
  unfold readAgents
  dsimp only
  rw [List.map_map]
  induction agents with
  | nil => rfl
  | cons agent rest ih =>
    have hfirst := readAgent_ok (h agent List.mem_cons_self)
    have hrest := ih fun other hother => h other (List.mem_cons_of_mem agent hother)
    rw [List.map_cons, Checked.all]
    refine part_ok ?_ hrest
    change Checked.map _ (Checked.under _ (Lenient.members AgentSettings.read agent.2.toValue)) = _
    rw [hfirst]
    rfl

/-- What is dumped of a configuration within the bounds is read as that configuration. -/
theorem read_members_ok {config : Config} (h : Bounded config) :
    Config.read config.members = .ok config := by
  have hunknown : Config.unknown config.members = [] := rfl
  obtain ⟨agents, providers, registry, compaction⟩ := config
  unfold Config.read Config.extras
  rw [hunknown]
  refine part_ok (part_ok (part_ok (part_ok rfl ?_) ?_) ?_) ?_
  · exact setting_ok rfl (readAgents_ok h.guards)
  · exact setting_ok rfl (readProviders_ok providers)
  · exact setting_ok rfl (readRegistry_ok h.defaultWindow)
  · exact setting_ok rfl (readCompaction_ok h.compaction)

end Read

end Condense.Proofs
