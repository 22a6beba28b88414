import Condense.Proofs.MechanicalSummaries
import Condense.Proofs.Retention

/-!
# What becomes of the removed turns

A compaction hands the turns that it removes over to be summarized, in their order, and the prompt
tells every one of them line by line. Left out is whatever counts as a summary. A summary in front
of the list is repeated elsewhere, but a turn further behind is told nowhere, whoever wrote the
words that it begins with.
-/

namespace Condense.Proofs
open Summary

/-- The line by which a transcript tells a part. -/
inductive Told (speaker : Text) : Part → Text → Prop where
  | text {t : Text} (h : t ≠ []) : Told speaker (.text t) (speaker ++ (": " : Text) ++ t)
  | call (tool : Text) (args : Value) :
      Told speaker (.call tool args) (speaker ++ (": [called tool: " : Text) ++ tool ++ ("]" : Text))
  | result (tool : Text) (value : Value) :
      Told speaker (.result tool value)
        (speaker ++ (": [tool " : Text) ++ tool ++ (" returned a result]" : Text))

lemma transcriptLine?_eq_some {speaker : Text} {part : Part} {line : Text} :
    transcriptLine? speaker part = some line ↔ Told speaker part line := by
  constructor
  · intro h
    cases part with
    | text t =>
      obtain ⟨hsome, hline⟩ := Option.ite_none_left_eq_some.mp h
      cases hline
      exact .text (by simpa using hsome)
    | call tool args =>
      cases h
      exact .call tool args
    | result tool value =>
      cases h
      exact .result tool value
    | other payload => contradiction
  · intro h
    cases h with
    | text hsome => exact if_neg (by simpa using hsome)
    | call | result => rfl

section Prompts

variable (request : Request)

lemma transcript_infix_prompt : transcript request.turns <:+: request.prompt := by
  have hsection : transcript request.turns <:+: transcriptSection request.turns := by
    unfold transcriptSection
    dsimp only
    split
    case isTrue hnone =>
      rw [List.isEmpty_iff.mp hnone]
      exact List.nil_infix
    case isFalse => exact infix_join _ (by simp)
  have hparagraph : transcriptSection request.turns <:+: request.prompt :=
    (infix_join _ (by simp)).trans (List.prefix_append _ _).isInfix
  exact hsection.trans hparagraph

variable {request}

lemma line_infix_prompt {turn : Turn} {part : Part} {line : Text} (hturn : turn ∈ request.turns)
    (hpart : part ∈ turn.parts) (h : Told turn.speaker part line) : line <:+: request.prompt := by
  have hline : line ∈ transcriptLines turn :=
    List.mem_filterMap.mpr ⟨part, hpart, transcriptLine?_eq_some.mpr h⟩
  have hlines : line <:+: transcript request.turns :=
    infix_join _ (List.mem_flatMap.mpr ⟨turn, hturn, hline⟩)
  exact hlines.trans (transcript_infix_prompt request)

end Prompts

/-- The turns behind a leading summary. -/
def unled (turns : List Turn) : List Turn := if isLed turns then turns.tail else turns

lemma filter_eq_unled {turns : List Turn} :
    turns.filter (fun turn => !isSummary turn) = unled turns ↔
      ∀ turn ∈ turns.tail, isSummary turn = false := by
  cases turns with
  | nil => simp [unled]
  | cons lead rest =>
    cases hlead : isSummary lead with
    | true => simp [unled, isLed, hlead]
    | false => simp [unled, isLed, hlead]

/-- The turns that a compaction has removed. -/
def removed (turns : List Turn) (result : Compaction) : List Turn :=
  turns.take (turns.length - result.kept)

/-- The removed turns that carry no summary have been handed over in their order, and each of their
lines stands in the prompt. These are all but a leading summary if and only if no later turn counts
as one. -/
structure HandedOver (gone : List Turn) (request : Request) : Prop where
  turns : request.turns = gone.filter fun turn => !isSummary turn
  whole : request.turns = unled gone ↔ ∀ turn ∈ gone.tail, isSummary turn = false
  transcript : transcript request.turns <:+: request.prompt
  told : ∀ turn ∈ gone, isSummary turn = false → ∀ part ∈ turn.parts, ∀ line,
    Told turn.speaker part line → line <:+: request.prompt

lemma HandedOver.of_turns {gone : List Turn} {request : Request}
    (h : request.turns = gone.filter fun turn => !isSummary turn) : HandedOver gone request where
  turns := h
  whole := by rw [h, filter_eq_unled]
  transcript := transcript_infix_prompt request
  told := by
    intro turn hturn hplain part hpart line hline
    refine line_infix_prompt ?_ hpart hline
    rw [h]
    exact List.mem_filter.mpr ⟨hturn, by rw [hplain]; rfl⟩

/-- What stands in front of the given turns counts as a summary, so that it makes no difference to
the turns that are left once summaries are taken out. -/
lemma Fronted.filter_take {turns before : List Turn} {place bound : Nat} (h : Fronted turns before)
    (hplace : place ≤ turns.length) (hbound : bound ≤ before.length)
    (hdrop : turns.drop place = before.drop bound) :
    (before.take bound).filter (fun turn => !isSummary turn) =
      (turns.take place).filter fun turn => !isSummary turn := by
  have hlength := congrArg List.length hdrop
  simp only [List.length_drop] at hlength
  cases h with
  | same =>
    obtain rfl : place = bound := by omega
    rfl
  | added hsummary hbare =>
    rw [List.length_cons] at hlength hbound
    obtain rfl : bound = place + 1 := by omega
    rw [List.take_succ_cons, List.filter_cons_of_neg (by simp)]
  | renewed rest hsummary hlead =>
    simp only [List.length_cons] at hlength hbound hplace
    obtain rfl : place = bound := by omega
    cases place with
    | zero => rfl
    | succ later =>
      rw [List.take_succ_cons, List.take_succ_cons, List.filter_cons_of_neg (by simp),
        List.filter_cons_of_neg (by simp [hlead])]

lemma Accounted.handedOver {strategy : Strategy} {call : Call} {turns before after : List Turn}
    {request : Request} {result : Compaction} (hfronted : Fronted turns before)
    (h : Accounted strategy call turns before request.turns after result) :
    HandedOver (removed turns result) request := by
  obtain ⟨bound, hbound, hold, hdrop, -⟩ := h.split
  apply HandedOver.of_turns
  rw [hold]
  exact hfronted.filter_take (Nat.sub_le _ _) hbound hdrop

/-- Whatever a compaction removes from the list that it was given, apart from what counts as a
summary, is told to the one who writes the summary, and so it is if the record changes while the
call is on its way. -/
theorem removed_turns_summarized (strategy : Strategy) (registry : Registry) (call : Call)
    (turns : List Turn) :
    (∀ (later : Registry) (looks : Looks) (job : Job) (summary : Value) (result : Compaction),
      ledTo? strategy registry later call looks turns = some job →
      job.result call summary = .ok result →
      turns = removed turns result ++ job.kept ∧ HandedOver (removed turns result) job.request) ∧
    ∀ (provider : Request → Reply) (store : Store) (result : Compaction),
      let run := strategy.compact registry call provider turns store
      run.outcome = .ok (some result) →
      ∃ kept request, turns = removed turns result ++ kept ∧
        run.turns = turnOf result.summary.plain :: kept ∧ run.sent = some request ∧
        HandedOver (removed turns result) request := by
  constructor
  · intro later looks job summary result hled hresult
    have haccounted := ledTo?_accounted hled hresult
    have hkept : job.kept = turns.drop (turns.length - result.kept) :=
      (List.cons.inj haccounted.after_eq).2
    refine ⟨?_, haccounted.handedOver (cutTurns_fronted strategy looks turns)⟩
    rw [hkept]
    exact (List.take_append_drop _ turns).symm
  · intro provider store result run houtcome
    obtain ⟨job, summary, hled, hresult, hturns, hsent⟩ := compact_ledTo houtcome
    have haccounted := ledTo?_accounted hled hresult
    rw [← hturns] at haccounted
    exact ⟨_, job.request, (List.take_append_drop _ turns).symm, haccounted.after_eq, hsent,
      haccounted.handedOver (cutTurns_fronted strategy _ turns)⟩

def quotedText : Text := "[Previous conversation summary] is what my log says"

/-- Five turns, of which the second one quotes the marker of a summary. -/
def quotingTurns : List Turn := [
  .ofText "user" "a", .ofText "user" quotedText, .ofText "user" "c", .ofText "user" "d",
  .ofText "user" "e"]

/-- A window of three turns removes two of the five, but hands over the first one only. The words of
the second one are neither in the prompt nor in the list any more. -/
theorem quotedTurn_vanishes :
    let window := Strategy.sliding wholeSettings 3
    let run := window.compact {} { agent := "a" } (fun _ => .answer { content := .text "S" })
      quotingTurns .empty
    ∃ request result, run.outcome = .ok (some result) ∧ run.sent = some request ∧
      HandedOver (removed quotingTurns result) request ∧
      removed quotingTurns result = quotingTurns.take 2 ∧
      run.turns = turnOf "S" :: quotingTurns.drop 2 ∧
      request.turns ≠ unled (removed quotingTurns result) ∧ ¬quotedText <:+: request.prompt := by
  intro window run
  have hsome : (compaction? run).isSome = true := by decide +kernel
  obtain ⟨result, hresult⟩ := exists_compaction hsome
  have hfound : compaction? run = some result := by rw [compaction?, hresult]
  have hsummary : (compaction? run).map (fun found => found.summary.plain) =
      some ("S" : Text) := by decide +kernel
  have hkept : (compaction? run).map Compaction.kept = some 3 := by decide +kernel
  have huntold : run.sent.map (fun request => decide (quotedText <:+: request.prompt)) =
      some false := by decide +kernel
  rw [hfound, Option.map_some, Option.some.injEq] at hsummary hkept
  obtain ⟨kept, request, hturns, hafter, hsent, hhanded⟩ :=
    (removed_turns_summarized _ _ _ _).2 _ _ result hresult
  have hgone : removed quotingTurns result = quotingTurns.take 2 := by
    rw [removed, hkept]
    rfl
  rw [hsent, Option.map_some, Option.some.injEq] at huntold
  refine ⟨request, result, hresult, hsent, hhanded, hgone, ?_, ?_, of_decide_eq_false huntold⟩
  · rw [hgone] at hturns
    have hsplit : quotingTurns.take 2 ++ quotingTurns.drop 2 = quotingTurns.take 2 ++ kept :=
      (List.take_append_drop 2 quotingTurns).trans hturns
    rw [List.append_cancel_left hsplit, ← hsummary]
    exact hafter
  · intro hwhole
    have hplain := hhanded.whole.mp hwhole
    rw [hgone] at hplain
    have hquoted : isSummary (.ofText "user" quotedText) = true := by decide
    rw [hplain _ (List.mem_singleton_self _)] at hquoted
    contradiction

end Condense.Proofs
