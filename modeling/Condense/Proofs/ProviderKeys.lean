import Condense.Provider.Chat
import Condense.Setup
import Mathlib.Tactic.Lemma

/-!
# Keys and addresses

A deployment may hold the keys of several companies, of which it uses the first in a fixed order. The
address that the key is sent to is chosen in an order of its own, which looks at the keys of two
companies and at the address of a third, whoever's key is used.
-/

namespace Condense.Proofs

/-- The companies whose keys a deployment may hold. -/
inductive Vendor where
  | openRouter
  | anthropic
  | openAI
  | gemini
  | zhipu
  | vllm
  deriving DecidableEq

namespace Vendor

/-- The companies in the order in which their keys are taken. -/
def ranking : List Vendor := [openRouter, anthropic, openAI, gemini, zhipu, vllm]

/-- The key of a company, and the address that is set for it. -/
def settings (config : Config) : Vendor → ProviderSettings
  | openRouter => config.providers.openrouter
  | anthropic => config.providers.anthropic
  | openAI => config.providers.openai
  | gemini => config.providers.gemini
  | zhipu => config.providers.zhipu
  | vllm => config.providers.vllm

/-- The address that a company's key belongs to, if it is not the usual one. -/
def base? (config : Config) (company : Vendor) : Option Text :=
  let base := (company.settings config).apiBase
  match company with
  | openRouter => some ((base.bind Config.given).getD Config.openRouterBase)
  | _ => base

/-- The choice of an address looks at this company. -/
def isAddressed : Vendor → Bool
  | openRouter | zhipu | vllm => true
  | anthropic | openAI | gemini => false

/-- A company's key is set. -/
def isSet (config : Config) (company : Vendor) : Bool := !(company.settings config).apiKey.isEmpty

/-- The company whose key is used: the first one whose key is set. -/
def holder? (config : Config) : Option Vendor := ranking.find? (isSet config)

/-- The address that goes with the key of a company that has none of its own: Zhipu's if Zhipu's key
is set too, or else that of vLLM. -/
def stray? (config : Config) : Option Text :=
  if isSet config zhipu then (zhipu.settings config).apiBase
  else (vllm.settings config).apiBase.bind Config.given

end Vendor

open Vendor

section Holder

variable {config : Config} {company : Vendor}

lemma findSome?_given (config : Config) (companies : List Vendor) :
    (companies.findSome? fun company => Config.given (company.settings config).apiKey) =
      (companies.find? (isSet config)).map fun company => (company.settings config).apiKey := by
  induction companies with
  | nil => rfl
  | cons company rest ih =>
    rw [List.findSome?_cons, List.find?_cons, ih]
    unfold Config.given isSet
    cases hkey : (company.settings config).apiKey <;> simp [hkey]

lemma apiKey?_eq (config : Config) :
    config.apiKey? = (holder? config).map fun company => (company.settings config).apiKey :=
  findSome?_given config ranking

/-- Nothing in front of what a search finds would do. -/
lemma find?_before {α : Type} [BEq α] [LawfulBEq α] {p : α → Bool} {items : List α} {found : α}
    (h : items.find? p = some found) : ∀ item ∈ items.takeWhile (· != found), p item = false := by
  induction items with
  | nil => nofun
  | cons first rest ih =>
    rw [List.find?_cons] at h
    intro item hitem
    rw [List.takeWhile_cons] at hitem
    split at h
    case h_1 hfirst =>
      obtain rfl : first = found := Option.some.inj h
      simp at hitem
    case h_2 hfirst =>
      split at hitem
      · rcases List.mem_cons.mp hitem with rfl | hlater
        · exact hfirst
        · exact ih h item hlater
      · contradiction

lemma apiKey?_ne_nil {key : Text} (h : config.apiKey? = some key) : key ≠ [] := by
  obtain ⟨provider, -, hgiven⟩ := List.exists_of_findSome?_eq_some h
  unfold Config.given at hgiven
  split at hgiven
  case isTrue => contradiction
  case isFalse hsome =>
    rw [← Option.some.inj hgiven]
    simpa using hsome

/-- A provider is made of the key and the address that are chosen. -/
lemma provider_eq_ok {timeout : Option Text} {provider : Provider}
    (h : config.provider timeout = .ok provider) :
    provider.apiKey = config.apiKey? ∧ provider.apiBase = config.apiBase? := by
  unfold Config.provider Provider.make at h
  cases hkey : config.apiKey? with
  | none =>
    rw [hkey] at h
    contradiction
  | some key =>
    rw [hkey] at h
    cases htimeout : readReal (timeout.getD "120") with
    | error why =>
      rw [htimeout] at h
      contradiction
    | ok seconds =>
      rw [htimeout] at h
      cases h
      exact ⟨rfl, rfl⟩

lemma apiBase?_of_openRouter (h : isSet config openRouter = true) :
    config.apiBase? = openRouter.base? config := by
  unfold Config.apiBase?
  exact if_pos h

lemma apiBase?_of_not_openRouter (h : isSet config openRouter = false) :
    config.apiBase? = stray? config := by
  unfold Config.apiBase?
  exact if_neg (Bool.not_eq_true _ ▸ h)

/-- The key of a company that the choice of an address does not look at goes to an address of Zhipu's
or vLLM's, if one is set. -/
lemma apiBase?_of_unaddressed (h : holder? config = some company)
    (hnone : company.isAddressed = false) : config.apiBase? = stray? config := by
  apply apiBase?_of_not_openRouter
  apply find?_before h
  cases company <;> first | contradiction | decide

/-- The key of any other company goes to its own address. -/
lemma apiBase?_of_addressed (h : holder? config = some company) (hsome : company.isAddressed = true)
    {base : Text} (hbase : config.apiBase? = some base) : company.base? config = some base := by
  have hset : isSet config company = true := List.find?_some h
  cases company with
  | openRouter => rw [← apiBase?_of_openRouter hset, hbase]
  | zhipu =>
    have hfirst : isSet config openRouter = false := find?_before h _ (by decide)
    rw [apiBase?_of_not_openRouter hfirst, stray?, if_pos hset] at hbase
    exact hbase
  | vllm =>
    have hfirst : isSet config openRouter = false := find?_before h _ (by decide)
    have hzhipu : isSet config zhipu = false := find?_before h _ (by decide)
    rw [apiBase?_of_not_openRouter hfirst, stray?, hzhipu, if_neg Bool.false_ne_true] at hbase
    obtain ⟨t, ht, hgiven⟩ := Option.bind_eq_some_iff.mp hbase
    unfold Config.given at hgiven
    split at hgiven
    · contradiction
    · rw [← Option.some.inj hgiven]
      exact ht
  | _ => contradiction

end Holder

/-- Where the key of a company goes. If it is OpenRouter's, Zhipu's or vLLM's, no address but its own
goes with it. If it is another company's, the address of Zhipu or of vLLM goes with it whenever that
is set, so that the key stays with its company exactly if no such address is set, or the same one is
set for the company itself. What is chosen is what every request is sent with. -/
theorem key_keeps_to_company_iff {config : Config} {key : Text} (h : config.apiKey? = some key) :
    ∃ company, holder? config = some company ∧ (company.settings config).apiKey = key ∧
      (company.isAddressed = false → config.apiBase? = stray? config) ∧
      ((∀ base, config.apiBase? = some base → company.base? config = some base) ↔
        company.isAddressed = true ∨
          ∀ base, stray? config = some base → (company.settings config).apiBase = some base) ∧
      ∀ timeout provider, config.provider timeout = .ok provider → ∀ request,
        (provider.send request).apiKey = some key ∧
          (provider.send request).apiBase = Provider.given config.apiBase? := by
  have hholds := h
  rw [apiKey?_eq] at hholds
  obtain ⟨company, hholder, hkey⟩ := Option.map_eq_some_iff.mp hholds
  have hown : company.isAddressed = false →
      company.base? config = (company.settings config).apiBase := by
    intro hnone
    cases company <;> first | rfl | contradiction
  refine ⟨company, hholder, hkey, apiBase?_of_unaddressed hholder, ⟨fun hall => ?_, ?_⟩, ?_⟩
  · cases haddressed : company.isAddressed with
    | true => exact Or.inl rfl
    | false =>
      refine Or.inr fun base hbase => ?_
      rw [← hown haddressed]
      exact hall base ((apiBase?_of_unaddressed hholder haddressed).trans hbase)
  · intro hcases base hbase
    cases haddressed : company.isAddressed with
    | true => exact apiBase?_of_addressed hholder haddressed hbase
    | false =>
      rw [hown haddressed]
      rw [apiBase?_of_unaddressed hholder haddressed] at hbase
      exact (hcases.resolve_left (by simp [haddressed])) base hbase
  · intro timeout provider hprovider request
    obtain ⟨hsent, hbase⟩ := provider_eq_ok hprovider
    rw [h] at hsent
    have hkey : key.isEmpty = false := by simp [apiKey?_ne_nil h]
    constructor
    · change Provider.given provider.apiKey = some key
      rw [hsent, Provider.given, Option.filter_some, hkey]
      rfl
    · change Provider.given provider.apiBase = Provider.given config.apiBase?
      rw [hbase]

/-- The key of one company and the address of another. -/
def mixedConfig : Config where
  providers := {
    anthropic := { apiKey := "sk-ant-key" }
    vllm := { apiBase := some "http://localhost:8000/v1" } }

theorem mixedConfig_gives_key_away :
    mixedConfig.apiKey? = some mixedConfig.providers.anthropic.apiKey ∧
      ∃ provider, mixedConfig.provider none = .ok provider ∧ ∀ request,
        (provider.send request).apiKey = some mixedConfig.providers.anthropic.apiKey ∧
          (provider.send request).apiBase = mixedConfig.providers.vllm.apiBase ∧
          ¬∀ base, mixedConfig.apiBase? = some base → anthropic.base? mixedConfig = some base := by
  have hkey : mixedConfig.apiKey? = some mixedConfig.providers.anthropic.apiKey := by decide
  obtain ⟨company, hholder, -, -, hiff, hsent⟩ := key_keeps_to_company_iff hkey
  obtain rfl : anthropic = company := by
    have hfirst : holder? mixedConfig = some anthropic := by decide
    exact Option.some.inj (hfirst.symm.trans hholder)
  obtain ⟨provider, hprovider⟩ : ∃ provider, mixedConfig.provider none = .ok provider := by
    cases hmade : mixedConfig.provider none with
    | ok provider => exact ⟨provider, rfl⟩
    | error why =>
      have hok : (mixedConfig.provider none).isOk = true := by decide +kernel
      rw [hmade] at hok
      contradiction
  refine ⟨hkey, provider, hprovider, fun request => ?_⟩
  obtain ⟨hsentKey, hsentBase⟩ := hsent none provider hprovider request
  have hbase : mixedConfig.apiBase? = mixedConfig.providers.vllm.apiBase := by decide
  refine ⟨hsentKey, by rw [hsentBase, hbase]; decide, fun hall => ?_⟩
  rcases hiff.mp hall with haddressed | hsame
  · contradiction
  · have hstray : stray? mixedConfig = mixedConfig.providers.vllm.apiBase := by decide
    exact absurd (hsame _ hstray) (by decide)

end Condense.Proofs
