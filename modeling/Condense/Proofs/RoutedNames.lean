import Condense.Provider.Routing
import Condense.Proofs.Redaction
import Mathlib.Data.List.Infix
import Mathlib.Tactic.Lemma

/-!
# Names on their routes

The rules that put a route in front of a model's name look for words in the name and for routes in
front of it. A slash keeps the words of a route apart from those of the name, so that it can be said
for which names a rule acts again on what the rules have made of them.
-/

namespace Condense.Proofs
open Provider

section Slashes

lemma meetsCased_slash (s t : Text) :
    Text.meetsCased (s ++ .char '/' :: t) = Text.meetsCased s := by
  have hignorable : Text.isCaseIgnorable '/' = false := by decide +kernel
  have hcased : Text.isCased '/' = false := by decide +kernel
  unfold Text.meetsCased
  induction s with
  | nil => simp [CodePoint.is, hignorable, hcased]
  | cons p rest ih =>
    rw [List.cons_append, List.dropWhile_cons, List.dropWhile_cons]
    split
    · exact ih
    · rfl

lemma lowerAt_slash (before : Text) (c : Char) (after t : Text) :
    Text.lowerAt before c (after ++ .char '/' :: t) = Text.lowerAt before c after := by
  unfold Text.lowerAt
  rw [meetsCased_slash]

lemma lowerAt_behind_slash (before s : Text) (c : Char) (after : Text) :
    Text.lowerAt (before ++ .char '/' :: s) c after = Text.lowerAt before c after := by
  unfold Text.lowerAt
  rw [meetsCased_slash]

/-- What stands in front of a slash has no part in the case of what stands behind it. -/
lemma lowerFrom_behind_slash (before s t : Text) :
    Text.lowerFrom (before ++ .char '/' :: s) t = Text.lowerFrom before t := by
  induction t generalizing before with
  | nil => rfl
  | cons p rest ih =>
    have hrest := ih (p :: before)
    rw [List.cons_append] at hrest
    cases p with
    | char c => simp only [Text.lowerFrom, lowerAt_behind_slash, hrest]
    | half unit => simp only [Text.lowerFrom, hrest]

lemma lowerFrom_slash (before s t : Text) :
    Text.lowerFrom before (s ++ .char '/' :: t) =
      Text.lowerFrom before s ++ .char '/' :: Text.lower t := by
  induction s generalizing before with
  | nil =>
    have hrest : Text.lowerFrom (.char '/' :: before) t = Text.lower t :=
      lowerFrom_behind_slash [] before t
    simp only [List.nil_append, Text.lowerFrom, hrest]
    rfl
  | cons p rest ih =>
    cases p with
    | char c =>
      rw [List.cons_append, Text.lowerFrom, Text.lowerFrom, ih, lowerAt_slash, List.append_assoc]
    | half unit => simp only [List.cons_append, Text.lowerFrom, ih]

lemma lower_slash (s t : Text) :
    Text.lower (s ++ .char '/' :: t) = Text.lower s ++ .char '/' :: Text.lower t :=
  lowerFrom_slash [] s t

end Slashes

section Words

variable {word : Text}

lemma holds_iff_infix {part t : Text} : Text.holds part t = true ↔ part <:+: t := by
  induction t with
  | nil => simp [Text.holds]
  | cons p rest ih => simp [Text.holds, ih, List.infix_cons_iff]

/-- A word without a slash is found in a name behind a route if and only if it is found in one of
the two. -/
lemma mentions_slash (hslash : CodePoint.char '/' ∉ word) (route model : Text) :
    mentions word (route ++ .char '/' :: model) = (mentions word route || mentions word model) := by
  unfold mentions
  rw [lower_slash, Bool.eq_iff_iff, Bool.or_eq_true, holds_iff_infix, holds_iff_infix,
    holds_iff_infix]
  constructor
  · intro h
    have hapart : ∀ p ∈ [CodePoint.char '/'], p ∉ word := by simpa using hslash
    exact infix_beside (List.cons_ne_nil _ _) hapart h
  · rintro (h | h)
    · exact h.trans (List.prefix_append _ _).isInfix
    · exact h.trans ((List.suffix_cons _ _).trans (List.suffix_append _ _)).isInfix

lemma mentions_behind (route : Text) (hslash : CodePoint.char '/' ∉ word)
    (hroute : mentions word route = false) (model : Text) :
    mentions word (route ++ .char '/' :: model) = mentions word model := by
  rw [mentions_slash hslash, hroute, Bool.false_or]

lemma gemini_openRouter (model : Text) :
    mentions "gemini" ("openrouter/" ++ model) = mentions "gemini" model :=
  mentions_behind "openrouter" (by decide) (by decide) model

lemma gemini_zhipu (model : Text) :
    mentions "gemini" ("zhipu/" ++ model) = mentions "gemini" model :=
  mentions_behind "zhipu" (by decide) (by decide) model

lemma glm_gemini (model : Text) : mentions "glm" ("gemini/" ++ model) = mentions "glm" model :=
  mentions_behind "gemini" (by decide) (by decide) model

lemma zhipu_gemini (model : Text) :
    mentions "zhipu" ("gemini/" ++ model) = mentions "zhipu" model :=
  mentions_behind "gemini" (by decide) (by decide) model

lemma zhipu_zhipu (model : Text) : mentions "zhipu" ("zhipu/" ++ model) = true := by
  have hword : CodePoint.char '/' ∉ Text.ofString "zhipu" := by decide
  have h := mentions_slash hword "zhipu" model
  rw [show mentions "zhipu" "zhipu" = true by decide, Bool.true_or] at h
  exact h

lemma exists_of_startsWith {start t : Text} (h : Text.startsWith start t = true) :
    ∃ rest, t = start ++ rest := by
  obtain ⟨rest, hrest⟩ := List.isPrefixOf_iff_prefix.mp h
  exact ⟨rest, hrest.symm⟩

end Words

section Rules

/-- The name with Zhipu's route in front, if it needs it. -/
def zhipuRouted (model : Text) : Text := if needsZhipu model then "zhipu/" ++ model else model

/-- The name with Gemini's route in front, if it needs it. -/
def geminiRouted (model : Text) : Text := if needsGemini model then "gemini/" ++ model else model

variable {provider : Provider} {model : Text}

lemma resolve_eq (hmodel : model ≠ []) : provider.resolve model =
    if provider.isOpenRouter && !Text.startsWith "openrouter/" model then "openrouter/" ++ model
    else if provider.isCustom then "hosted_vllm/" ++ zhipuRouted model
    else geminiRouted (zhipuRouted model) := by
  unfold resolve zhipuRouted geminiRouted
  rw [List.isEmpty_eq_false_iff.mpr hmodel, if_neg Bool.false_ne_true]

lemma isCustom_of_isOpenRouter (h : provider.isOpenRouter = true) : provider.isCustom = false := by
  unfold isCustom
  rw [h, Bool.not_true, Bool.and_false]

lemma behind_ne (route model : Text) (hroute : route ≠ []) : route ++ model ≠ model := by
  intro h
  have hlength := congrArg List.length h
  have hpos := List.length_pos_of_ne_nil hroute
  rw [List.length_append] at hlength
  omega

lemma length_le_zhipuRouted (model : Text) : model.length ≤ (zhipuRouted model).length := by
  unfold zhipuRouted
  split <;> simp

lemma length_le_geminiRouted (model : Text) : model.length ≤ (geminiRouted model).length := by
  unfold geminiRouted
  split <;> simp

lemma zhipuRouted_eq_self_iff : zhipuRouted model = model ↔ needsZhipu model = false := by
  unfold zhipuRouted
  cases needsZhipu model with
  | true => simpa using behind_ne "zhipu/" model (by decide)
  | false => simp

lemma geminiRouted_eq_self_iff : geminiRouted model = model ↔ needsGemini model = false := by
  unfold geminiRouted
  cases needsGemini model with
  | true => simpa using behind_ne "gemini/" model (by decide)
  | false => simp

/-- A name on a route needs no route of Zhipu's. -/
lemma needsZhipu_zhipuRouted (model : Text) : needsZhipu (zhipuRouted model) = false := by
  unfold zhipuRouted
  split
  case isTrue => simp [needsZhipu]
  case isFalse hroutes => simpa using hroutes

lemma needsZhipu_of_openRouter (h : Text.startsWith "openrouter/" model = true) :
    needsZhipu model = false := by
  unfold needsZhipu
  rw [h, Bool.or_true, Bool.not_true, Bool.and_false]

lemma needsGemini_of_openRouter (h : Text.startsWith "openrouter/" model = true) :
    needsGemini model = mentions "gemini" model := by
  obtain ⟨rest, rfl⟩ := exists_of_startsWith h
  unfold needsGemini
  rw [show Text.startsWith "gemini/" ("openrouter/" ++ rest) = false from rfl, Bool.not_false,
    Bool.and_true]

/-- The rule for Zhipu looks at the word alone where Gemini's route stands in front. -/
lemma needsZhipu_gemini (model : Text) :
    needsZhipu ("gemini/" ++ model) = (mentions "glm" model || mentions "zhipu" model) := by
  have hroutes : (Text.startsWith "zhipu/" ("gemini/" ++ model) ||
      Text.startsWith "zai/" ("gemini/" ++ model) ||
      Text.startsWith "openrouter/" ("gemini/" ++ model)) = false := rfl
  unfold needsZhipu
  rw [hroutes, glm_gemini, zhipu_gemini, Bool.not_false, Bool.and_true]

lemma needsGemini_gemini (model : Text) : needsGemini ("gemini/" ++ model) = false := by
  unfold needsGemini
  rw [Text.startsWith_append, Bool.not_true, Bool.and_false]

lemma gemini_zhipuRouted (model : Text) :
    mentions "gemini" (zhipuRouted model) = mentions "gemini" model := by
  unfold zhipuRouted
  split
  · exact gemini_zhipu model
  · rfl

/-- On Zhipu's route or not, a name says as much about the company as before. -/
lemma company_zhipuRouted (model : Text) :
    (mentions "glm" (zhipuRouted model) || mentions "zhipu" (zhipuRouted model)) =
      (mentions "glm" model || mentions "zhipu" model) := by
  unfold zhipuRouted
  split
  case isTrue hneeds =>
    rw [zhipu_zhipu, Bool.or_true]
    unfold needsZhipu at hneeds
    exact (Bool.and_eq_true_iff.mp hneeds).1.symm
  case isFalse => rfl

/-- A name that stands on Gemini's route when Zhipu's rule has been applied is no company's but
Gemini's. -/
lemma company_of_gemini (h : Text.startsWith "gemini/" (zhipuRouted model) = true) :
    (mentions "glm" model || mentions "zhipu" model) = false := by
  have hrest := needsZhipu_zhipuRouted model
  rw [← company_zhipuRouted model]
  obtain ⟨rest, hrouted⟩ := exists_of_startsWith h
  rw [hrouted] at hrest ⊢
  rw [needsZhipu_gemini] at hrest
  rw [glm_gemini, zhipu_gemini, hrest]

end Rules

section Modes

variable {provider : Provider} {model : Text}

lemma resolve_openRouter (h : provider.isOpenRouter = true) (hmodel : model ≠ []) :
    provider.resolve model = if Text.startsWith "openrouter/" model then geminiRouted model
      else "openrouter/" ++ model := by
  rw [resolve_eq hmodel, h, isCustom_of_isOpenRouter h, Bool.true_and]
  cases hroute : Text.startsWith "openrouter/" model with
  | true =>
    rw [zhipuRouted_eq_self_iff.mpr (needsZhipu_of_openRouter hroute)]
    rfl
  | false => rfl

lemma resolve_custom (h : provider.isCustom = true) (hmodel : model ≠ []) :
    provider.resolve model = "hosted_vllm/" ++ zhipuRouted model := by
  have hopen : provider.isOpenRouter = false := by
    by_contra hopen
    rw [isCustom_of_isOpenRouter (by simpa using hopen)] at h
    contradiction
  rw [resolve_eq hmodel, hopen, h, Bool.false_and, if_neg Bool.false_ne_true, if_pos rfl]

lemma resolve_plain (hopen : provider.isOpenRouter = false) (hcustom : provider.isCustom = false)
    (hmodel : model ≠ []) : provider.resolve model = geminiRouted (zhipuRouted model) := by
  rw [resolve_eq hmodel, hopen, hcustom, Bool.false_and, if_neg Bool.false_ne_true,
    if_neg Bool.false_ne_true]

/-- OpenRouter's route comes first, and only then the name is searched for Gemini. -/
lemma openRouter_again_iff (h : provider.isOpenRouter = true) (hmodel : model ≠ []) :
    provider.resolve (provider.resolve model) = provider.resolve model ↔
      mentions "gemini" model = false := by
  rw [resolve_openRouter h hmodel]
  cases hroute : Text.startsWith "openrouter/" model with
  | false =>
    have hrouted : Text.startsWith "openrouter/" ("openrouter/" ++ model) = true :=
      Text.startsWith_append _ _
    rw [if_neg Bool.false_ne_true, resolve_openRouter h (by simp [Text.ofString, Text.ofChars]),
      if_pos hrouted, geminiRouted_eq_self_iff, needsGemini_of_openRouter hrouted,
      gemini_openRouter]
  | true =>
    rw [if_pos rfl, ← needsGemini_of_openRouter hroute]
    cases hneeds : needsGemini model with
    | false =>
      have hself := geminiRouted_eq_self_iff.mpr hneeds
      rw [hself, resolve_openRouter h hmodel, hroute, if_pos rfl, hself]
      simp
    | true =>
      have hgemini : geminiRouted model = "gemini/" ++ model := if_pos hneeds
      have hlost : Text.startsWith "openrouter/" ("gemini/" ++ model) = false := rfl
      rw [hgemini, resolve_openRouter h (by simp [Text.ofString, Text.ofChars]), hlost,
        if_neg Bool.false_ne_true]
      simpa using behind_ne "openrouter/" ("gemini/" ++ model) (by decide)

/-- A custom endpoint's route is put in front of whatever name there is. -/
lemma custom_again_ne (h : provider.isCustom = true) (hmodel : model ≠ []) :
    provider.resolve (provider.resolve model) ≠ provider.resolve model := by
  intro hsame
  have hrouted : provider.resolve model ≠ [] := by
    rw [resolve_custom h hmodel]
    simp [Text.ofString, Text.ofChars]
  have hlength := congrArg List.length hsame
  have hle := length_le_zhipuRouted (provider.resolve model)
  have hpos : 0 < (Text.ofString "hosted_vllm/").length := by decide
  rw [resolve_custom h hrouted, List.length_append] at hlength
  omega

/-- Each rule would stop at its own route, but Gemini's rule hides Zhipu's route from the other. -/
lemma plain_again_iff (hopen : provider.isOpenRouter = false) (hcustom : provider.isCustom = false)
    (hmodel : model ≠ []) :
    provider.resolve (provider.resolve model) = provider.resolve model ↔
      mentions "gemini" model = false ∨ (mentions "glm" model || mentions "zhipu" model) = false := by
  have hrouted : zhipuRouted model ≠ [] := List.ne_nil_of_length_pos
    ((List.length_pos_of_ne_nil hmodel).trans_le (length_le_zhipuRouted model))
  rw [resolve_plain hopen hcustom hmodel]
  cases hneeds : needsGemini (zhipuRouted model) with
  | false =>
    rw [geminiRouted_eq_self_iff.mpr hneeds, resolve_plain hopen hcustom hrouted,
      zhipuRouted_eq_self_iff.mpr (needsZhipu_zhipuRouted model),
      geminiRouted_eq_self_iff.mpr hneeds]
    refine iff_of_true rfl ?_
    unfold needsGemini at hneeds
    rw [gemini_zhipuRouted, Bool.and_eq_false_iff, Bool.not_eq_false'] at hneeds
    exact hneeds.imp_right company_of_gemini
  | true =>
    have hgemini : geminiRouted (zhipuRouted model) = "gemini/" ++ zhipuRouted model := if_pos hneeds
    have hmentions : mentions "gemini" model = true := by
      rw [← gemini_zhipuRouted]
      exact (Bool.and_eq_true_iff.mp hneeds).1
    rw [hgemini, resolve_plain hopen hcustom (by simp [Text.ofString, Text.ofChars]), hmentions,
      ← company_zhipuRouted, ← needsZhipu_gemini]
    cases hagain : needsZhipu ("gemini/" ++ zhipuRouted model) with
    | false =>
      rw [zhipuRouted_eq_self_iff.mpr hagain,
        geminiRouted_eq_self_iff.mpr (needsGemini_gemini _)]
      simp
    | true =>
      refine iff_of_false (fun hsame => ?_) (by simp)
      have hzhipu : zhipuRouted ("gemini/" ++ zhipuRouted model) =
          "zhipu/" ++ ("gemini/" ++ zhipuRouted model) := if_pos hagain
      have hlength := congrArg List.length hsame
      have hle := length_le_geminiRouted ("zhipu/" ++ ("gemini/" ++ zhipuRouted model))
      have hpos : 0 < (Text.ofString "zhipu/").length := by decide
      rw [hzhipu] at hlength
      rw [List.length_append] at hle
      omega

end Modes

/-- A name that has been resolved is left alone when it is resolved again if and only if the calls do
not go to an endpoint of the deployment's own and the name does not speak of Gemini, unless it
speaks of no other company and the calls do not go through OpenRouter either. -/
theorem resolve_resolve_iff (provider : Provider) {model : Text} (hmodel : model ≠ []) :
    provider.resolve (provider.resolve model) = provider.resolve model ↔
      provider.isCustom = false ∧ (mentions "gemini" model = false ∨
        provider.isOpenRouter = false ∧ mentions "glm" model = false ∧
          mentions "zhipu" model = false) := by
  cases hcustom : provider.isCustom with
  | true => exact iff_of_false (custom_again_ne hcustom hmodel) (by simp)
  | false =>
    cases hopen : provider.isOpenRouter with
    | true =>
      rw [openRouter_again_iff hopen hmodel]
      simp
    | false =>
      rw [plain_again_iff hopen hcustom hmodel, Bool.or_eq_false_iff]
      simp

/-- OpenRouter's own name of a Gemini model is taken from its route. -/
theorem geminiName_leaves_route :
    let provider : Provider := { apiKey := some "sk-or-key" }
    let model : Text := "openrouter/google/gemini-2.5-pro"
    model ≠ [] ∧ provider.resolve "google/gemini-2.5-pro" = model ∧
      provider.resolve model = "gemini/openrouter/google/gemini-2.5-pro" ∧
      provider.resolve (provider.resolve model) ≠ provider.resolve model := by
  intro provider model
  have hmodel : model ≠ [] := by decide
  refine ⟨hmodel, by decide, by decide, ?_⟩
  rw [Ne, resolve_resolve_iff provider hmodel]
  decide

end Condense.Proofs
