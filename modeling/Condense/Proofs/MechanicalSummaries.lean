import Condense.Summary.Request
import Mathlib.Order.Nat
import Mathlib.Tactic.Lemma

/-!
# Mechanical summaries

A summary that is put together from excerpts is never empty. It continues the summary before it and
holds a line for every text of the turns that it stands for.
-/

namespace Condense.Proofs
open Summary

/-- The line that a mechanical summary has for a text. Where the limit is no integer, the text is
not cut. -/
def excerptOf (chars : Quantity) (turn : Turn) (t : Text) : Text :=
  turn.speaker ++ ": " ++
    match chars.integer? with
    | some limit => excerpt limit t
    | none => t

lemma excerptOf_some {chars : Quantity} {limit : Int} (h : chars.integer? = some limit)
    (turn : Turn) (t : Text) :
    excerptOf chars turn t = turn.speaker ++ (": " : Text) ++ excerpt limit t := by
  simp only [excerptOf, h]

lemma excerptOf_none {chars : Quantity} (h : chars.integer? = none) (turn : Turn) (t : Text) :
    excerptOf chars turn t = turn.speaker ++ (": " : Text) ++ t := by
  simp only [excerptOf, h]

lemma excerptOf_ne_nil (chars : Quantity) (turn : Turn) (t : Text) :
    excerptOf chars turn t ≠ [] := by
  have hcolon : Text.ofString ": " ≠ [] := by decide
  simp [excerptOf, hcolon]

lemma infix_join (separator : Text) {line : Text} {texts : List Text} (h : line ∈ texts) :
    line <:+: Text.join separator texts := by
  unfold Text.join
  induction texts with
  | nil => contradiction
  | cons first rest ih =>
    cases rest with
    | nil =>
      simp only [List.mem_singleton.mp h, List.intercalate_singleton, List.infix_rfl]
    | cons second rest =>
      rw [List.intercalate_cons_cons, List.append_assoc]
      rcases List.mem_cons.mp h with rfl | hlater
      · exact (List.prefix_append _ _).isInfix
      · exact (ih hlater).trans ⟨first ++ separator, [], by simp⟩

lemma excerptLine_ne_nil {limit : Int} {speaker line : Text} {part : Part}
    (h : excerptLine? limit speaker part = some line) : line ≠ [] := by
  unfold excerptLine? at h
  split at h
  · split at h
    · contradiction
    · have hcolon : Text.ofString ": " ≠ [] := by decide
      cases h
      simp [hcolon]
  · contradiction

lemma exists_excerpt (limit : Int) {turns : List Turn} (h : turns ≠ []) :
    ∃ line ∈ excerpts limit turns, line ≠ [] := by
  unfold excerpts
  dsimp only
  cases hfound : turns.flatMap (excerptLines limit) with
  | nil =>
    have hturns : turns.isEmpty = false := by simp [h]
    have hbracket : Text.ofString "[" ≠ [] := by decide
    rw [hturns]
    exact ⟨_, List.mem_singleton_self _, by simp [hbracket]⟩
  | cons line rest =>
    have hline : line ∈ turns.flatMap (excerptLines limit) := by simp [hfound]
    obtain ⟨turn, -, hturn⟩ := List.mem_flatMap.mp hline
    obtain ⟨part, -, hpart⟩ := List.mem_filterMap.mp hturn
    exact ⟨line, by simp, excerptLine_ne_nil hpart⟩

section Fallback

variable (limit : Int) (turns : List Turn) (previous : Text)

lemma previous_infix_fallback : previous <:+: Summary.fallback limit turns previous := by
  unfold Summary.fallback
  dsimp only
  split
  case isTrue hnone =>
    rw [List.isEmpty_iff.mp hnone]
    exact List.nil_infix
  case isFalse =>
    split
    · exact List.infix_rfl
    · rw [List.append_assoc]
      exact (List.prefix_append _ _).isInfix

lemma lines_infix_fallback :
    lines (excerpts limit turns) <:+: Summary.fallback limit turns previous := by
  unfold Summary.fallback
  dsimp only
  split
  · exact List.infix_rfl
  · split
    case isTrue hnone =>
      rw [List.isEmpty_iff.mp hnone]
      exact List.nil_infix
    case isFalse => exact (List.suffix_append _ _).isInfix

lemma fallback_ne_nil (h : turns ≠ []) : Summary.fallback limit turns previous ≠ [] := by
  obtain ⟨line, hmem, hline⟩ := exists_excerpt limit h
  have hinfix := (infix_join _ hmem).trans (lines_infix_fallback limit turns previous)
  intro hnone
  rw [hnone] at hinfix
  exact hline (List.infix_nil.mp hinfix)

variable {turns} {turn : Turn} {t : Text}

lemma excerpt_infix_fallback (hturn : turn ∈ turns) (hpart : .text t ∈ turn.parts) (ht : t ≠ []) :
    turn.speaker ++ (": " : Text) ++ excerpt limit t <:+:
      Summary.fallback limit turns previous := by
  have hline : turn.speaker ++ (": " : Text) ++ excerpt limit t ∈ turns.flatMap (excerptLines limit) := by
    apply List.mem_flatMap.mpr
    refine ⟨turn, hturn, List.mem_filterMap.mpr ⟨_, hpart, ?_⟩⟩
    simp [excerptLine?, ht]
  have hexcerpts : excerpts limit turns = turns.flatMap (excerptLines limit) := by
    have hsome : (turns.flatMap (excerptLines limit)).isEmpty = false := by
      simpa using List.ne_nil_of_mem hline
    unfold excerpts
    dsimp only
    rw [hsome]
    rfl
  rw [← hexcerpts] at hline
  exact (infix_join _ hline).trans (lines_infix_fallback limit turns previous)

end Fallback

lemma length_le_longest {request : Request} {turn : Turn} {t : Text}
    (hturn : turn ∈ request.turns) (hpart : .text t ∈ turn.parts) :
    t.length ≤ request.longest := by
  have hmax : ∀ (lengths : List Nat) (most : Nat), most ≤ lengths.foldl max most ∧
      ∀ n ∈ lengths, n ≤ lengths.foldl max most := by
    intro lengths
    induction lengths with
    | nil => simp
    | cons first rest ih =>
      intro most
      obtain ⟨hmost, hrest⟩ := ih (max most first)
      rw [List.foldl_cons]
      refine ⟨by omega, fun n hn => ?_⟩
      rcases List.mem_cons.mp hn with rfl | hlater
      · omega
      · exact hrest n hlater
  apply (hmax _ 0).2
  apply List.mem_flatMap.mpr
  exact ⟨turn, hturn, List.mem_map.mpr ⟨_, hpart, rfl⟩⟩

/-- A mechanical summary loses no text, neither of the summary before it nor of the turns. -/
theorem fallback_keeps {request : Request} {summary : Text}
    (h : request.fallback = .ok summary) (hturns : request.turns ≠ []) :
    summary ≠ [] ∧ request.previous <:+: summary ∧
      ∀ turn ∈ request.turns, ∀ t, .text t ∈ turn.parts → t ≠ [] →
        excerptOf request.excerptChars turn t <:+: summary := by
  unfold Request.fallback at h
  split at h
  case h_1 limit hlimit =>
    cases h
    refine ⟨fallback_ne_nil _ _ _ hturns, previous_infix_fallback _ _ _, ?_⟩
    intro turn hturn t hpart ht
    rw [excerptOf_some hlimit]
    exact excerpt_infix_fallback _ _ hturn hpart ht
  case h_2 hlimit =>
    split at h
    · contradiction
    · cases h
      refine ⟨fallback_ne_nil _ _ _ hturns, previous_infix_fallback _ _ _, ?_⟩
      intro turn hturn t hpart ht
      -- At the length of the longest text nothing is cut.
      have hwhole : excerpt request.longest t = t := by
        have hlength := length_le_longest hturn hpart
        exact if_neg (by omega)
      have hinfix := excerpt_infix_fallback request.longest request.previous hturn hpart ht
      rw [hwhole] at hinfix
      rw [excerptOf_none hlimit]
      exact hinfix

/-- A summary is either mechanical or the content of an answer. -/
lemma receive_eq_ok {request : Request} {limit : Option Quantity} {reply : Reply} {summary : Value}
    (h : (request.receive limit reply).2 = .ok summary) :
    ∃ answer, reply = .answer answer ∧ answer.isError = false ∧
      ((∃ content, Request.content answer = .ok content ∧ content.isTruthy = false ∧
          ∃ t, request.fallback = .ok t ∧ summary = .text t) ∨
        Request.content answer = .ok summary ∧ summary.isTruthy = true) := by
  cases reply with
  | answer answer =>
    refine ⟨answer, rfl, ?_⟩
    unfold Request.receive at h
    dsimp only at h
    split at h
    case isTrue => contradiction
    case isFalse hfine =>
      refine ⟨by simpa using hfine, ?_⟩
      unfold Request.accept at h
      cases hcontent : Request.content answer with
      | error fault =>
        rw [hcontent] at h
        contradiction
      | ok content =>
        rw [hcontent] at h
        dsimp only at h
        split at h
        case isTrue hblank =>
          left
          refine ⟨content, rfl, by simpa using hblank, ?_⟩
          cases hfallback : request.fallback with
          | error why =>
            rw [hfallback] at h
            contradiction
          | ok t =>
            rw [hfallback] at h
            cases h
            exact ⟨t, rfl, rfl⟩
        case isFalse htext =>
          right
          split at h
          · contradiction
          · cases h
            exact ⟨rfl, by simpa using htext⟩
  | failed why => cases h
  | timedOut => cases h
  | cancelled message => cases h
  | silent => cases h

lemma content_eq_ok {answer : Answer} {content : Value} (h : Request.content answer = .ok content) :
    (∃ t, content = .text t) ∨ ∃ octets, answer.content = .bytes octets ∧
      content = .bytes (Request.trimBytes octets) := by
  unfold Request.content at h
  split at h
  case h_1 =>
    cases h
    exact Or.inl ⟨_, rfl⟩
  case h_2 octets hbytes =>
    cases h
    exact Or.inr ⟨octets, hbytes, rfl⟩
  case h_3 =>
    split at h
    · contradiction
    · cases h
      exact Or.inl ⟨_, rfl⟩

lemma plain_ne_nil {request : Request} {limit : Option Quantity} {reply : Reply} {summary : Value}
    (h : (request.receive limit reply).2 = .ok summary) (hturns : request.turns ≠ []) :
    summary.plain ≠ [] := by
  obtain ⟨answer, -, -, ⟨-, -, -, t, hfallback, rfl⟩ | ⟨hcontent, htruthy⟩⟩ := receive_eq_ok h
  · exact (fallback_keeps hfallback hturns).1
  · rcases content_eq_ok hcontent with ⟨t, rfl⟩ | ⟨octets, -, rfl⟩
    · have ht : t ≠ [] := by simpa [Value.isTruthy] using htruthy
      exact ht
    · simp [Value.plain, Value.literal, Text.quotedBytes, Text.ofChars]

end Condense.Proofs
