import Condense.Proofs.SafeBoundary
import Mathlib.Order.Bounds.Basic

/-!
# Which boundary is chosen

Moving back from a wanted boundary stops at the nearest safe one below it. The boundary for a budget
is wanted behind the last turn from which on the texts reach the budget, and it leaves at least so
many turns as always stay.
-/

namespace Condense.Proofs

section Nearest

variable {turns : List Turn}

/-- One round of moving a boundary back. -/
inductive StepsBack (turns : List Turn) : Nat → Nat → Prop where
  | toCall {index call : Nat} (h : earliestEnclosing (spans turns) index = some call) :
      StepsBack turns index call
  | overResult {index : Nat} (hnone : earliestEnclosing (spans turns) (index + 1) = none)
      (hopens : opensWithResult turns (index + 1) = true) : StepsBack turns (index + 1) index

lemma StepsBack.lt {index next : Nat} (h : StepsBack turns index next) : next < index := by
  cases h with
  | toCall h => exact earliestEnclosing_lt h
  | overResult => exact Nat.lt_succ_self next

lemma stepsBack_wellFounded (turns : List Turn) :
    WellFounded fun next index => StepsBack turns index next :=
  Subrelation.wf StepsBack.lt Nat.lt_wfRel.wf

lemma Safe.not_stepsBack {bound next : Nat} (h : Safe turns bound) : ¬StepsBack turns bound next := by
  intro hstep
  cases hstep with
  | toCall hcall =>
    obtain ⟨span, hspan, rfl, hreaches⟩ := earliestEnclosing_eq_some hcall
    have hclear := h.clears span hspan
    have hlt := earliestEnclosing_lt hcall
    simp [Span.encloses, hlt, hreaches] at hclear
  | overResult hnone hopens =>
    rcases h with hzero | hend | ⟨-, -, hstays⟩
    · contradiction
    · simp [opensWithResult, hend] at hopens
    · rw [hstays] at hopens
      contradiction

lemma retreat_reached (turns : List Turn) (index : Nat) :
    Relation.ReflTransGen (StepsBack turns) index (retreat turns (spans turns) index) := by
  induction index using Nat.strongRecOn with
  | _ index ih =>
    rw [retreat]
    split
    case isFalse hzero =>
      obtain rfl : index = 0 := by omega
      exact .refl
    case isTrue hpos =>
      split
      case h_1 call hcall => exact .head (.toCall hcall) (ih call (earliestEnclosing_lt hcall))
      case h_2 hnone =>
        split
        case isTrue hopens =>
          obtain ⟨before, rfl⟩ : ∃ before, index = before + 1 := ⟨index - 1, by omega⟩
          exact .head (.overResult hnone hopens) (ih before (Nat.lt_succ_self before))
        case isFalse => exact .refl

lemma safeBoundary_reached (turns : List Turn) (wanted : Int) :
    Relation.ReflTransGen (StepsBack turns) (min wanted.toNat turns.length)
      (safeBoundary turns wanted) := by
  unfold safeBoundary
  dsimp only
  split
  · exact .refl
  · exact retreat_reached turns _

lemma le_safeBoundary {bound : Nat} (h : Safe turns bound) {wanted : Int}
    (hle : bound ≤ min wanted.toNat turns.length) : bound ≤ safeBoundary turns wanted := by
  unfold safeBoundary
  dsimp only
  split
  case isTrue => exact hle
  case isFalse hinside =>
    rcases h with rfl | rfl | ⟨-, hclear, hopens⟩
    · exact Nat.zero_le _
    · omega
    · exact le_retreat hclear hopens hle

lemma safeBoundary_isGreatest (turns : List Turn) (wanted : Int) :
    IsGreatest {bound : Nat | Safe turns bound ∧ (bound : Int) ≤ max 0 (min wanted turns.length)}
      (safeBoundary turns wanted) := by
  have hle := safeBoundary_le turns wanted
  have hsafe := safeBoundary_safe turns wanted
  have hlength := hsafe.le_length
  refine ⟨⟨hsafe, by omega⟩, ?_⟩
  rintro bound ⟨hother, hbound⟩
  exact le_safeBoundary hother (by omega)

lemma safeBoundary_of_safe {bound : Nat} (h : Safe turns bound) : safeBoundary turns bound = bound := by
  have hlength := h.le_length
  exact (safeBoundary_isGreatest turns bound).unique
    ⟨⟨h, by omega⟩, fun other hother => by have := hother.2; omega⟩

lemma safeBoundary_mono (turns : List Turn) {wanted further : Int} (hle : wanted ≤ further) :
    safeBoundary turns wanted ≤ safeBoundary turns further := by
  obtain ⟨hsafe, hbound⟩ := (safeBoundary_isGreatest turns wanted).1
  exact (safeBoundary_isGreatest turns further).2 ⟨hsafe, by omega⟩

/-- The chosen boundary is the greatest safe one that is not above the wanted one, moved into the
conversation. Choosing again changes nothing, and a later wanted boundary is not chosen earlier. The
rounds of moving back lead from the wanted boundary to the chosen one, where no further round
follows, and there is no endless run of them. -/
theorem safeBoundary_nearest (turns : List Turn) :
    (∀ wanted : Int,
      IsGreatest {bound : Nat | Safe turns bound ∧ (bound : Int) ≤ max 0 (min wanted turns.length)}
        (safeBoundary turns wanted)) ∧
    (∀ wanted : Int, safeBoundary turns (safeBoundary turns wanted) = safeBoundary turns wanted) ∧
    (∀ (wanted : Int) (further : Nat),
      safeBoundary turns wanted ≤ safeBoundary turns (wanted + further)) ∧
    (∀ wanted : Int,
      Relation.ReflTransGen (StepsBack turns) (min wanted.toNat turns.length)
        (safeBoundary turns wanted) ∧
      ∀ next, ¬StepsBack turns (safeBoundary turns wanted) next) ∧
    WellFounded fun next index => StepsBack turns index next := by
  refine ⟨safeBoundary_isGreatest turns, fun wanted => ?_, fun wanted further => ?_,
    fun wanted => ?_, stepsBack_wellFounded turns⟩
  · exact safeBoundary_of_safe (safeBoundary_safe turns wanted)
  · exact safeBoundary_mono turns (by omega)
  · exact ⟨safeBoundary_reached turns wanted,
      fun next => (safeBoundary_safe turns wanted).not_stepsBack⟩

end Nearest

section Budget

variable {turns : List Turn} {budget : Int}

/-- The indices from which on the texts reach a budget. -/
def reachingIndices (turns : List Turn) (budget : Int) : Set Nat :=
  {index | index < turns.length ∧ budget ≤ conversationTextTokens (turns.drop index)}

/-- The walk from the last turn backwards, once the turns `later` have been passed: the latest turn
of `earlier` from which on the budget is reached, if there is one. -/
lemma reaching_spec (budget : Int) (earlier later : List Turn) :
    (∀ index, reaching budget (conversationTextTokens later) earlier = some index →
      index < earlier.length ∧
      budget ≤ conversationTextTokens ((earlier.reverse ++ later).drop index) ∧
      ∀ other < earlier.length, index < other →
        (conversationTextTokens ((earlier.reverse ++ later).drop other) : Int) < budget) ∧
    (reaching budget (conversationTextTokens later) earlier = none →
      ∀ other < earlier.length,
        (conversationTextTokens ((earlier.reverse ++ later).drop other) : Int) < budget) := by
  induction earlier generalizing later with
  | nil => simp [reaching]
  | cons turn rest ih =>
    have hpassed : conversationTextTokens later + turn.textTokens =
        conversationTextTokens (turn :: later) := by
      simp [conversationTextTokens, Nat.add_comm]
    have hwhole : (turn :: rest).reverse ++ later = rest.reverse ++ turn :: later := by simp
    have hhere : (rest.reverse ++ turn :: later).drop rest.length = turn :: later := by simp
    obtain ⟨hsome, hnone⟩ := ih (turn :: later)
    rw [reaching, hpassed, hwhole, List.length_cons]
    by_cases hreached : budget ≤ conversationTextTokens (turn :: later)
    · rw [if_pos hreached]
      refine ⟨?_, fun hnot => by contradiction⟩
      rintro index hindex
      obtain rfl : rest.length = index := Option.some.inj hindex
      exact ⟨Nat.lt_succ_self _, by rwa [hhere], fun other hother hlater => by omega⟩
    · -- The turn itself does not suffice, and so what holds of the others holds of it as well.
      have hbelow : (conversationTextTokens ((rest.reverse ++ turn :: later).drop rest.length) : Int) <
          budget := by
        rw [hhere]
        omega
      rw [if_neg hreached]
      constructor
      · intro index hindex
        obtain ⟨hlt, hbudget, hafter⟩ := hsome index hindex
        refine ⟨by omega, hbudget, fun other hother hlater => ?_⟩
        rcases Nat.lt_succ_iff_lt_or_eq.mp hother with hearlier | rfl
        · exact hafter other hearlier hlater
        · exact hbelow
      · intro hindex other hother
        rcases Nat.lt_succ_iff_lt_or_eq.mp hother with hearlier | rfl
        · exact hnone hindex other hearlier
        · exact hbelow

lemma reaching_isGreatest {index : Nat} (h : reaching budget 0 turns.reverse = some index) :
    IsGreatest (reachingIndices turns budget) index := by
  obtain ⟨hlt, hbudget, hafter⟩ := (reaching_spec budget turns.reverse []).1 index h
  simp only [List.reverse_reverse, List.append_nil, List.length_reverse] at hlt hbudget hafter
  refine ⟨⟨hlt, hbudget⟩, fun other hother => ?_⟩
  by_contra hlater
  have hbelow := hafter other hother.1 (by omega)
  have hreached := hother.2
  omega

lemma reaching_eq_none (h : reaching budget 0 turns.reverse = none) :
    reachingIndices turns budget = ∅ := by
  have hbelow := (reaching_spec budget turns.reverse []).2 h
  simp only [List.reverse_reverse, List.append_nil, List.length_reverse] at hbelow
  apply Set.eq_empty_of_forall_notMem
  rintro other ⟨hother, hreached⟩
  have hnot := hbelow other hother
  omega

lemma budgetBoundary_cases (turns : List Turn) (budget : Int) :
    (∃ index, IsGreatest (reachingIndices turns budget) index ∧
      budgetBoundary turns budget =
        safeBoundary turns (min (index + 1) (turns.length - leastKept turns.length) : Nat)) ∨
    reachingIndices turns budget = ∅ ∧
      budgetBoundary turns budget =
        safeBoundary turns (if 3 ≤ turns.length then turns.length / 2 else turns.length - 1 : Nat) := by
  unfold budgetBoundary
  dsimp only
  split
  case isTrue hzero =>
    obtain rfl : turns = [] := List.length_eq_zero_iff.mp hzero
    right
    exact ⟨by simp [reachingIndices], rfl⟩
  case isFalse hsome =>
    split
    case h_1 index hindex => exact Or.inl ⟨index, reaching_isGreatest hindex, rfl⟩
    case h_2 hnone => exact Or.inr ⟨reaching_eq_none hnone, rfl⟩

lemma budgetBoundary_le (turns : List Turn) (budget : Int) :
    budgetBoundary turns budget ≤ turns.length - leastKept turns.length := by
  unfold leastKept
  rcases budgetBoundary_cases turns budget with ⟨index, -, hbound⟩ | ⟨-, hbound⟩
  · have hle := safeBoundary_le turns (min (index + 1) (turns.length - leastKept turns.length) : Nat)
    unfold leastKept at hbound hle
    omega
  · have hle := safeBoundary_le turns
      (if 3 ≤ turns.length then turns.length / 2 else turns.length - 1 : Nat)
    rw [← hbound] at hle
    split at hle <;> split <;> omega

/-- Where the budget is reached, the boundary is wanted behind the last turn from which on it is, but
so early that the least number of turns stays; otherwise in the middle. What stays is smaller than the
budget, if it may be cut behind that turn. -/
theorem budgetBoundary_chosen (turns : List Turn) (budget : Int) :
    let count := turns.length
    let least := if 3 ≤ count then 2 else 1
    (∀ index, IsGreatest (reachingIndices turns budget) index →
      budgetBoundary turns budget = safeBoundary turns (min (index + 1) (count - least) : Nat) ∧
      (0 < budget →
        (conversationTextTokens (turns.drop (budgetBoundary turns budget)) : Int) < budget ∨
        count - (index + 1) < least ∨ ¬Safe turns (index + 1))) ∧
    (reachingIndices turns budget = ∅ →
      budgetBoundary turns budget =
        safeBoundary turns (if 3 ≤ count then count / 2 else count - 1 : Nat)) ∧
    budgetBoundary turns budget ≤ count - least := by
  intro count least
  refine ⟨fun index hindex => ?_, fun hnone => ?_, budgetBoundary_le turns budget⟩
  · have hbound : budgetBoundary turns budget =
        safeBoundary turns (min (index + 1) (count - least) : Nat) := by
      rcases budgetBoundary_cases turns budget with ⟨other, hother, hbound⟩ | ⟨hnone, -⟩
      · rw [hindex.unique hother]
        exact hbound
      · exact absurd hindex.1 (by simp [hnone])
    refine ⟨hbound, fun hpos => ?_⟩
    by_contra hmore
    simp only [not_or, not_lt, not_not] at hmore
    obtain ⟨hreached, hleast, hsafe⟩ := hmore
    -- The boundary is the wanted one, and the texts behind it reach the budget: so the index would
    -- not be the last one.
    have hlength := hindex.1.1
    have hwanted : min (index + 1) (count - least) = index + 1 := by omega
    rw [hwanted, safeBoundary_of_safe hsafe] at hbound
    rw [hbound] at hreached
    have hinside : index + 1 < turns.length := by
      by_contra hend
      rw [List.drop_eq_nil_of_le (by omega)] at hreached
      simp only [conversationTextTokens, List.map_nil, List.sum_nil] at hreached
      omega
    have hlast := hindex.2 ⟨hinside, hreached⟩
    omega
  · rcases budgetBoundary_cases turns budget with ⟨index, hindex, -⟩ | ⟨-, hbound⟩
    · exact absurd hindex.1 (by simp [hnone])
    · exact hbound

/-- A call that is answered in the next turn, in front of two turns and behind one, of two tokens
each. -/
def pairedTurns : List Turn := [
  .ofText "user" "question", ⟨"assistant", [.text "look up ", .call "x" .null]⟩,
  ⟨"tool", [.result "x" .null]⟩, .ofText "assistant" "answer 1", .ofText "user" "thanks 1"]

/-- The texts reach the budget of five tokens from the call on, and its result keeps it there. They
never reach a hundred tokens, and then the middle lies between the two as well. -/
theorem pairedTurns_stay :
    (IsGreatest (reachingIndices pairedTurns 5) 1 ∧
      budgetBoundary pairedTurns 5 = safeBoundary pairedTurns 2 ∧ budgetBoundary pairedTurns 5 = 1 ∧
      conversationTextTokens (pairedTurns.drop 1) = 6 ∧ ¬Safe pairedTurns 2) ∧
    reachingIndices pairedTurns 100 = ∅ ∧
      budgetBoundary pairedTurns 100 = safeBoundary pairedTurns 2 := by
  constructor
  · have hindex : IsGreatest (reachingIndices pairedTurns 5) 1 :=
      reaching_isGreatest (by decide +kernel)
    obtain ⟨hbound, hless⟩ := (budgetBoundary_chosen pairedTurns 5).1 1 hindex
    have hone : budgetBoundary pairedTurns 5 = 1 := by decide +kernel
    have htokens : conversationTextTokens (pairedTurns.drop 1) = 6 := by decide +kernel
    rw [hone, htokens] at hless
    refine ⟨hindex, hbound, hone, htokens, ?_⟩
    rcases hless (by decide) with hfewer | hleast | hunsafe
    · contradiction
    · contradiction
    · exact hunsafe
  · have hnone : reachingIndices pairedTurns 100 = ∅ := reaching_eq_none (by decide +kernel)
    exact ⟨hnone, (budgetBoundary_chosen pairedTurns 100).2.1 hnone⟩

end Budget

end Condense.Proofs
