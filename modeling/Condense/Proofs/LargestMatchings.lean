import Condense.Proofs.Namesakes
import Mathlib.Data.List.Nodup

/-!
# Largest matchings

A result is given a call whenever one waits, whichever tool that call belongs to. A result goes
without a call only if every call in front of it has been answered by then, and so no way of pairing
results with earlier calls pairs more of them.
-/

namespace Condense

/-- The places of the parts that pass a test. -/
def placesOf (test : Part → Bool) (turns : List Turn) : List Nat := (partsOf turns).findIdxs test

/-- The places in front of a bound of the parts that pass a test. -/
def placesBefore (test : Part → Bool) (turns : List Turn) (bound : Nat) : List Nat :=
  ((partsOf turns).take bound).findIdxs test

namespace Proofs

section Places

variable {test : Part → Bool} {turns : List Turn} {place bound : Nat} {part : Part}

lemma mem_placesOf :
    place ∈ placesOf test turns ↔ ∃ part, (partsOf turns)[place]? = some part ∧ test part = true := by
  unfold placesOf
  rw [List.mem_findIdxs_iff_exists_getElem_pos]
  constructor
  · rintro ⟨hplace, htest⟩
    exact ⟨_, List.getElem?_eq_getElem hplace, htest⟩
  · rintro ⟨part, hpart, htest⟩
    obtain ⟨hplace, rfl⟩ := List.getElem?_eq_some_iff.mp hpart
    exact ⟨hplace, htest⟩

lemma mem_placesBefore : place ∈ placesBefore test turns bound ↔
    place < bound ∧ place ∈ placesOf test turns := by
  rw [mem_placesOf]
  unfold placesBefore
  rw [List.mem_findIdxs_iff_exists_getElem_pos]
  constructor
  · rintro ⟨hplace, htest⟩
    rw [List.getElem_take] at htest
    rw [List.length_take] at hplace
    exact ⟨by omega, _, List.getElem?_eq_getElem (by omega), htest⟩
  · rintro ⟨hbound, part, hpart, htest⟩
    obtain ⟨hplace, rfl⟩ := List.getElem?_eq_some_iff.mp hpart
    refine ⟨by rw [List.length_take]; omega, ?_⟩
    rwa [List.getElem_take]

lemma placesBefore_length : placesBefore test turns (partsOf turns).length = placesOf test turns := by
  unfold placesBefore
  rw [List.take_length]
  rfl

lemma placesBefore_nodup : (placesBefore test turns bound).Nodup := List.nodup_findIdxs

lemma placesBefore_next (hpart : (partsOf turns)[place]? = some part) :
    placesBefore test turns (place + 1) =
      placesBefore test turns place ++ if test part then [place] else [] := by
  have hplace : place < (partsOf turns).length := (List.getElem?_eq_some_iff.mp hpart).1
  have hlength : ((partsOf turns).take place).length = place :=
    List.length_take_of_le hplace.le
  unfold placesBefore
  rw [List.take_add_one, hpart, List.findIdxs_append, hlength, Nat.zero_add]
  simp only [Option.toList_some, List.findIdxs_singleton]

lemma placesBefore_skip (hpart : (partsOf turns)[place]? = some part) (htest : test part = false) :
    placesBefore test turns (place + 1) = placesBefore test turns place := by
  rw [placesBefore_next hpart, htest]
  simp

lemma placesBefore_snoc (hpart : (partsOf turns)[place]? = some part) (htest : test part = true) :
    placesBefore test turns (place + 1) = placesBefore test turns place ++ [place] := by
  rw [placesBefore_next hpart, if_pos htest]

end Places

/-- What holds at first, and is kept by every part, holds of a whole conversation. -/
lemma answers_induction {turns : List Turn} {holds : Nat → Matching → Prop} (hstart : holds 0 {})
    (hread : ∀ place part found, (partsOf turns)[place]? = some part → holds place found →
      holds (place + 1) (found.readBy takeAnswered? place part)) :
    holds (partsOf turns).length (Matching.readPartsBy takeAnswered? {} 0 (partsOf turns)) :=
  @readPartsBy_induction takeAnswered? takeAnswered? turns (fun place found _ => holds place found)
    hstart fun place part found _ hpart h => hread place part found hpart h

/-- Calls paired with later results of any tools, no call and no result twice. -/
structure Pairing (turns : List Turn) (pairs : List Span) : Prop where
  calls : ∀ pair ∈ pairs, pair.call ∈ placesOf Part.isCall turns
  results : ∀ pair ∈ pairs, pair.result ∈ placesOf Part.isResult turns
  forward : ∀ pair ∈ pairs, pair.call < pair.result
  apart : pairs.Pairwise fun first second =>
    first.call ≠ second.call ∧ first.result ≠ second.result

section Pairing

variable {turns : List Turn} {pairs : List Span} {place : Nat} {part : Part}

lemma Pairing.nodup_calls (h : Pairing turns pairs) : (pairs.map Span.call).Nodup :=
  List.pairwise_map.mpr (h.apart.imp And.left)

lemma Pairing.nodup_results (h : Pairing turns pairs) : (pairs.map Span.result).Nodup :=
  List.pairwise_map.mpr (h.apart.imp And.right)

lemma Pairing.filter (h : Pairing turns pairs) (test : Span → Bool) :
    Pairing turns (pairs.filter test) where
  calls pair hpair := h.calls pair (List.mem_of_mem_filter hpair)
  results pair hpair := h.results pair (List.mem_of_mem_filter hpair)
  forward pair hpair := h.forward pair (List.mem_of_mem_filter hpair)
  apart := h.apart.filter test

lemma Pairing.result_lt (h : Pairing turns pairs) (hpart : (partsOf turns)[place]? = some part)
    (hresult : part.isResult = false) (hbefore : ∀ pair ∈ pairs, pair.result < place + 1) :
    ∀ pair ∈ pairs, pair.result < place := by
  intro pair hpair
  have hmem : pair.result ∈ placesBefore Part.isResult turns (place + 1) :=
    mem_placesBefore.mpr ⟨hbefore pair hpair, h.results pair hpair⟩
  rw [placesBefore_skip hpart hresult] at hmem
  exact (mem_placesBefore.mp hmem).1

lemma Pairing.length_le_filter (h : Pairing turns pairs) (place : Nat) :
    pairs.length ≤ (pairs.filter (·.result != place)).length + 1 := by
  have hsplit := List.length_eq_length_filter_add (l := pairs) (·.result == place)
  have hsub : (pairs.filter (·.result == place)).map Span.result ⊆ [place] := by
    intro result hresult
    obtain ⟨pair, hpair, rfl⟩ := List.mem_map.mp hresult
    exact List.mem_singleton.mpr (beq_iff_eq.mp (List.mem_filter.mp hpair).2)
  have hlast := (h.filter (·.result == place)).nodup_results.length_le_of_subset hsub
  rw [List.length_map, List.length_singleton] at hlast
  rw [hsplit, Nat.add_comm]
  exact Nat.add_le_add_left hlast _

/-- A pairing has no more members than there are calls in front of its last result. -/
lemma Pairing.length_le_calls (h : Pairing turns pairs)
    (hbefore : ∀ pair ∈ pairs, pair.result < place + 1) :
    pairs.length ≤ (placesBefore Part.isCall turns place).length := by
  have hsub : pairs.map Span.call ⊆ placesBefore Part.isCall turns place := by
    intro call hcall
    obtain ⟨pair, hpair, rfl⟩ := List.mem_map.mp hcall
    have hforward := h.forward pair hpair
    have hlast := hbefore pair hpair
    exact mem_placesBefore.mpr ⟨by omega, h.calls pair hpair⟩
  have hlength := h.nodup_calls.length_le_of_subset hsub
  rwa [List.length_map] at hlength

end Pairing

/-- In front of a place every call waits or is answered, each once, a result goes without only if every
earlier call was answered by then, and no pairing of the parts has more members. -/
structure Exhaustive (turns : List Turn) (place : Nat) (found : Matching) : Prop where
  calls : (found.spans.map Span.call ++ found.waiting.map Waiting.turn).Perm
    (placesBefore Part.isCall turns place)
  results : (found.spans.map Span.result).Sublist (placesBefore Part.isResult turns place)
  forward : ∀ span ∈ found.spans, span.call < span.result
  missed : ∀ result ∈ placesBefore Part.isResult turns place,
    (∀ span ∈ found.spans, span.result ≠ result) →
    ∀ call ∈ placesBefore Part.isCall turns result,
      ∃ span ∈ found.spans, span.call = call ∧ span.result < result
  largest : ∀ pairs, Pairing turns pairs → (∀ pair ∈ pairs, pair.result < place) →
    pairs.length ≤ found.spans.length

section Exhaustive

variable {turns : List Turn} {place : Nat} {found : Matching} {part : Part} {tool : Text}

/-- Without a result no pair is added, whatever becomes of the waiting calls. -/
lemma Exhaustive.of_calls (h : Exhaustive turns place found)
    (hpart : (partsOf turns)[place]? = some part) (hresult : part.isResult = false)
    {waiting : List Waiting}
    (hcalls : (found.spans.map Span.call ++ waiting.map Waiting.turn).Perm
      (placesBefore Part.isCall turns (place + 1))) :
    Exhaustive turns (place + 1) { found with waiting := waiting } where
  calls := hcalls
  results := by
    rw [placesBefore_skip hpart hresult]
    exact h.results
  forward := h.forward
  missed := by
    rw [placesBefore_skip hpart hresult]
    exact h.missed
  largest pairs hpairs hbefore := h.largest pairs hpairs (hpairs.result_lt hpart hresult hbefore)

lemma Exhaustive.pass (h : Exhaustive turns place found)
    (hpart : (partsOf turns)[place]? = some part) (hcall : part.isCall = false)
    (hresult : part.isResult = false) : Exhaustive turns (place + 1) found := by
  refine h.of_calls hpart hresult ?_
  rw [placesBefore_skip hpart hcall]
  exact h.calls

lemma Exhaustive.call (h : Exhaustive turns place found)
    (hpart : (partsOf turns)[place]? = some part) (hcall : part.isCall = true)
    (hresult : part.isResult = false) :
    Exhaustive turns (place + 1) { found with waiting := found.waiting ++ [⟨tool, place⟩] } := by
  refine h.of_calls hpart hresult ?_
  rw [placesBefore_snoc hpart hcall, List.map_append, ← List.append_assoc]
  exact h.calls.append_right [place]

lemma Exhaustive.span_mem (h : Exhaustive turns place found) {span : Span}
    (hspan : span ∈ found.spans) :
    span.call ∈ placesBefore Part.isCall turns place ∧
      span.result ∈ placesBefore Part.isResult turns place :=
  ⟨h.calls.subset (List.mem_append_left _ (List.mem_map_of_mem hspan)),
    h.results.subset (List.mem_map_of_mem hspan)⟩

/-- Where no call waits, each one has been answered. -/
lemma Exhaustive.calls_answered (h : Exhaustive turns place found) (hidle : found.waiting = []) :
    (found.spans.map Span.call).Perm (placesBefore Part.isCall turns place) := by
  have hcalls := h.calls
  rwa [hidle, List.map_nil, List.append_nil] at hcalls

lemma Exhaustive.orphaned (h : Exhaustive turns place found)
    (hpart : (partsOf turns)[place]? = some part) (hcall : part.isCall = false)
    (hresult : part.isResult = true) (hidle : found.waiting = []) :
    Exhaustive turns (place + 1) found where
  calls := by
    rw [placesBefore_skip hpart hcall]
    exact h.calls
  results := by
    rw [placesBefore_snoc hpart hresult]
    exact h.results.trans (List.sublist_append_left _ _)
  forward := h.forward
  missed := by
    rw [placesBefore_snoc hpart hresult]
    intro result hmem hnone call hearlier
    rcases List.mem_append.mp hmem with hold | hlast
    · exact h.missed result hold hnone call hearlier
    · obtain rfl := List.mem_singleton.mp hlast
      obtain ⟨span, hspan, rfl⟩ := List.mem_map.mp ((h.calls_answered hidle).symm.subset hearlier)
      exact ⟨span, hspan, rfl, (mem_placesBefore.mp (h.span_mem hspan).2).1⟩
  largest pairs hpairs hbefore := by
    -- There are no more pairs than calls, and all calls are used up.
    have hlength := (h.calls_answered hidle).length_eq
    rw [List.length_map] at hlength
    rw [hlength]
    exact hpairs.length_le_calls hbefore

lemma Exhaustive.answered (h : Exhaustive turns place found)
    (hpart : (partsOf turns)[place]? = some part) (hcall : part.isCall = false)
    (hresult : part.isResult = true) {call : Waiting} {rest : List Waiting}
    (htaken : Taken found.waiting call rest) :
    Exhaustive turns (place + 1) ⟨rest, found.spans ++ [⟨call.turn, place⟩]⟩ where
  calls := by
    rw [placesBefore_skip hpart hcall]
    refine List.Perm.trans ?_ h.calls
    rw [List.map_append, List.append_assoc]
    exact (htaken.perm.map Waiting.turn).symm.append_left _
  results := by
    rw [placesBefore_snoc hpart hresult, List.map_append]
    exact h.results.append (List.Sublist.refl _)
  forward span hspan := by
    rcases List.mem_append.mp hspan with hold | hlast
    · exact h.forward span hold
    · rw [List.mem_singleton.mp hlast]
      have hwaits : call.turn ∈ placesBefore Part.isCall turns place :=
        h.calls.subset (List.mem_append_right _ (List.mem_map_of_mem htaken.mem))
      exact (mem_placesBefore.mp hwaits).1
  missed := by
    rw [placesBefore_snoc hpart hresult]
    intro result hmem hnone other hearlier
    rw [List.forall_mem_append] at hnone
    rcases List.mem_append.mp hmem with hold | hlast
    · obtain ⟨span, hspan, hfound⟩ := h.missed result hold hnone.1 other hearlier
      exact ⟨span, List.mem_append_left _ hspan, hfound⟩
    · have hanswer := hnone.2 _ List.mem_cons_self
      exact absurd (List.mem_singleton.mp hlast).symm hanswer
  largest pairs hpairs hbefore := by
    -- Any pairing loses at most one member without the new result.
    have hothers := h.largest _ (hpairs.filter (·.result != place)) fun pair hpair => by
      obtain ⟨hin, hne⟩ := List.mem_filter.mp hpair
      exact Nat.lt_of_le_of_ne (Nat.le_of_lt_succ (hbefore pair hin)) (bne_iff_ne.mp hne)
    have hone := hpairs.length_le_filter place
    rw [List.length_append, List.length_singleton]
    exact hone.trans (Nat.add_le_add_right hothers 1)

lemma Exhaustive.read (h : Exhaustive turns place found)
    (hpart : (partsOf turns)[place]? = some part) :
    Exhaustive turns (place + 1) (found.readBy takeAnswered? place part) := by
  cases part with
  | text t => exact h.pass hpart rfl rfl
  | other payload => exact h.pass hpart rfl rfl
  | call tool args => exact h.call hpart rfl rfl
  | result tool value =>
    simp only [Matching.readBy]
    cases hfound : takeAnswered? tool found.waiting with
    | none => exact h.orphaned hpart rfl rfl (takeAnswered_eq_none hfound)
    | some taken => exact h.answered hpart rfl rfl (takeAnswered_taken hfound)

lemma exhaustive_start : Exhaustive turns 0 {} where
  calls := List.Perm.refl []
  results := List.Sublist.refl []
  forward := by simp
  missed := by simp [placesBefore]
  largest pairs hpairs hbefore := by
    rcases pairs with _ | ⟨pair, rest⟩
    · exact le_rfl
    · exact absurd (hbefore pair List.mem_cons_self) (Nat.not_lt_zero _)

lemma Exhaustive.pairing (h : Exhaustive turns place found) : Pairing turns found.spans where
  calls span hspan := (mem_placesBefore.mp (h.span_mem hspan).1).2
  results span hspan := (mem_placesBefore.mp (h.span_mem hspan).2).2
  forward := h.forward
  apart := by
    have hcalls : (found.spans.map Span.call).Nodup :=
      (List.nodup_append.mp (h.calls.symm.nodup placesBefore_nodup)).1
    have hresults : (found.spans.map Span.result).Nodup := h.results.nodup placesBefore_nodup
    exact (List.pairwise_map.mp hcalls).and (List.pairwise_map.mp hresults)

end Exhaustive

lemma answers_exhaustive (turns : List Turn) :
    Exhaustive turns (partsOf turns).length
      (Matching.readPartsBy takeAnswered? {} 0 (partsOf turns)) :=
  answers_induction exhaustive_start fun _ _ _ hpart h => h.read hpart

lemma answers_pairing (turns : List Turn) : Pairing turns (answers turns) :=
  (answers_exhaustive turns).pairing

/-- The results and the calls that they answer are a largest pairing of calls with later results, and
a result goes without a call exactly if all calls in front of it answer earlier results. -/
theorem answers_largest (turns : List Turn) :
    spans turns = (answers turns).map (Span.inTurns turns) ∧ Pairing turns (answers turns) ∧
      (∀ pairs, Pairing turns pairs → pairs.length ≤ (answers turns).length) ∧
      ∀ result ∈ placesOf Part.isResult turns,
        (∀ answer ∈ answers turns, answer.result ≠ result) ↔
          ∀ call ∈ placesBefore Part.isCall turns result,
            ∃ answer ∈ answers turns, answer.call = call ∧ answer.result < result := by
  have hall := answers_exhaustive turns
  have hpairing := answers_pairing turns
  refine ⟨spans_eq_answers turns, hpairing, ?_, ?_⟩
  · intro pairs hpairs
    refine hall.largest pairs hpairs fun pair hpair => ?_
    have hresult := hpairs.results pair hpair
    rw [← placesBefore_length] at hresult
    exact (mem_placesBefore.mp hresult).1
  · intro result hresult
    constructor
    · rw [← placesBefore_length] at hresult
      exact hall.missed result hresult
    · -- The call of the result's own answer would have an earlier answer, too.
      intro hcalls answer hanswer hsame
      have hearlier : answer.call ∈ placesBefore Part.isCall turns result :=
        mem_placesBefore.mpr ⟨hsame ▸ hpairing.forward answer hanswer, hpairing.calls answer hanswer⟩
      obtain ⟨other, hother, hcall, hbefore⟩ := hcalls answer.call hearlier
      have hone := List.inj_on_of_nodup_map hpairing.nodup_calls hother hanswer hcall
      rw [hone, hsame] at hbefore
      exact Nat.lt_irrefl _ hbefore

/-- A stray result takes the later of two calls, whose own result takes the other one. -/
def crossedCalls : List Turn := [
  ⟨"assistant", [.text "both", .call "x" .null, .call "y" .null]⟩, ⟨"tool", [.result "z" .null]⟩,
  .ofText "user" "wait", ⟨"tool", [.result "y" .null, .result "x" .null]⟩]

theorem crossedCalls_answered :
    let pairs : List Span := [⟨1, 6⟩, ⟨2, 5⟩]
    Pairing crossedCalls pairs ∧ pairs.length ≤ (answers crossedCalls).length ∧
      (∀ answer ∈ answers crossedCalls, answer.result ≠ 6) ∧
      ∀ call ∈ placesBefore Part.isCall crossedCalls 6,
        ∃ answer ∈ answers crossedCalls, answer.call = call ∧ answer.result < 6 := by
  intro pairs
  obtain ⟨-, -, hlargest, hmissed⟩ := answers_largest crossedCalls
  have hpairs : Pairing crossedCalls pairs := ⟨by decide, by decide, by decide, by decide⟩
  have hunanswered : ∀ answer ∈ answers crossedCalls, answer.result ≠ 6 := by decide
  exact ⟨hpairs, hlargest pairs hpairs, hunanswered, (hmissed 6 (by decide)).mp hunanswered⟩

end Proofs

end Condense
