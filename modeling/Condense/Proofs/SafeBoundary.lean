import Condense.Split.Boundary
import Condense.Proofs.SpanMatching
import Mathlib.Order.Nat

/-!
# Boundaries that keep calls with their results

A safe boundary lies across no span, and no result stands right behind it. Every way of choosing a
boundary gives a safe one, and at a safe boundary the spans of a conversation are those of the turns
before it and those of the turns from it on.
-/

namespace Condense.Proofs

/-- A boundary at an end of the conversation, or one that no span encloses and behind which no
result stands. -/
def Safe (turns : List Turn) (bound : Nat) : Prop :=
  bound = 0 ∨ bound = turns.length ∨
    bound < turns.length ∧ (∀ span ∈ spans turns, span.encloses bound = false) ∧
      opensWithResult turns bound = false

lemma earliestEnclosing_eq_none {found : List Span} {index : Nat}
    (h : earliestEnclosing found index = none) : ∀ span ∈ found, span.encloses index = false := by
  intro span hspan
  by_contra henc
  have hmem : span ∈ found.filter (·.encloses index) :=
    List.mem_filter.mpr ⟨hspan, by simpa using henc⟩
  unfold earliestEnclosing at h
  rw [List.min?_eq_none_iff, List.map_eq_nil_iff] at h
  rw [h] at hmem
  exact List.not_mem_nil hmem

lemma earliestEnclosing_eq_some {found : List Span} {index call : Nat}
    (h : earliestEnclosing found index = some call) :
    ∃ span ∈ found, span.call = call ∧ index ≤ span.result := by
  have hmem := List.min?_mem h
  simp only [List.mem_map, List.mem_filter, Span.encloses, Bool.and_eq_true,
    decide_eq_true_eq] at hmem
  obtain ⟨span, ⟨hspan, -, hreaches⟩, hcall⟩ := hmem
  exact ⟨span, hspan, hcall, hreaches⟩

/-- Where moving back ends, no span encloses the boundary and no result follows it. -/
lemma retreat_spec (turns : List Turn) (found : List Span) (index : Nat) :
    retreat turns found index ≤ index ∧
      (0 < retreat turns found index →
        (∀ span ∈ found, span.encloses (retreat turns found index) = false) ∧
          opensWithResult turns (retreat turns found index) = false) := by
  -- A step back may jump over several turns, to the call of a span.
  induction index using Nat.strongRecOn with
  | _ index ih =>
    rw [retreat]
    split
    case isFalse => exact ⟨Nat.zero_le _, fun h => absurd h (Nat.lt_irrefl 0)⟩
    case isTrue hpos =>
      split
      case h_1 call hcall =>
        have hlt := earliestEnclosing_lt hcall
        exact ⟨(ih call hlt).1.trans hlt.le, (ih call hlt).2⟩
      case h_2 hnone =>
        split
        case isTrue hopens =>
          have hlt : index - 1 < index := by omega
          exact ⟨(ih _ hlt).1.trans hlt.le, (ih _ hlt).2⟩
        case isFalse hopens =>
          exact ⟨le_rfl, fun _ => ⟨earliestEnclosing_eq_none hnone, by simpa using hopens⟩⟩

/-- Moving back ends at the first place that may stay. -/
lemma le_retreat {turns : List Turn} {found : List Span} {bound : Nat}
    (hclear : ∀ span ∈ found, span.encloses bound = false)
    (hopens : opensWithResult turns bound = false) {index : Nat} (hle : bound ≤ index) :
    bound ≤ retreat turns found index := by
  induction index using Nat.strongRecOn with
  | _ index ih =>
    rw [retreat]
    split
    case isFalse hzero => omega
    case isTrue hpos =>
      split
      case h_1 call hcall =>
        -- A span that begins at the call reaches beyond the index, and so it would enclose the
        -- bound too if that lay behind the call.
        obtain ⟨span, hspan, hbegins, hreaches⟩ := earliestEnclosing_eq_some hcall
        have hoff := hclear span hspan
        simp only [Span.encloses, Bool.and_eq_false_iff, decide_eq_false_iff_not] at hoff
        exact ih call (earliestEnclosing_lt hcall) (by omega)
      case h_2 hnone =>
        split
        case isTrue hindex =>
          have hother : bound ≠ index := by
            rintro rfl
            rw [hopens] at hindex
            contradiction
          exact ih _ (by omega) (by omega)
        case isFalse => exact hle

lemma retreat_safe {turns : List Turn} {index : Nat} (h : index < turns.length) :
    Safe turns (retreat turns (spans turns) index) := by
  obtain ⟨hle, hspec⟩ := retreat_spec turns (spans turns) index
  rcases Nat.eq_zero_or_pos (retreat turns (spans turns) index) with hzero | hpos
  · exact Or.inl hzero
  · exact Or.inr (Or.inr ⟨by omega, hspec hpos⟩)

lemma safeBoundary_le (turns : List Turn) (wanted : Int) :
    safeBoundary turns wanted ≤ wanted.toNat := by
  unfold safeBoundary
  dsimp only
  split
  · omega
  · exact (retreat_spec turns _ _).1.trans (min_le_left _ _)

theorem safeBoundary_safe (turns : List Turn) (wanted : Int) :
    Safe turns (safeBoundary turns wanted) := by
  unfold safeBoundary
  dsimp only
  split
  case isTrue hend => exact Or.inr (Or.inl hend)
  case isFalse hend => exact retreat_safe (by omega)

theorem budgetBoundary_safe (turns : List Turn) (budget : Int) :
    Safe turns (budgetBoundary turns budget) := by
  unfold budgetBoundary
  dsimp only
  split
  case isTrue => exact Or.inl rfl
  case isFalse =>
    split
    case h_1 => exact safeBoundary_safe _ _
    case h_2 => exact safeBoundary_safe _ _

lemma spans_within (turns : List Turn) : Within (Matching.readTurns {} 0 turns) turns.length := by
  have hstart : Within {} 0 := ⟨by simp, by simp, by simp⟩
  simpa using hstart.readTurns turns

lemma call_le_result {turns : List Turn} {span : Span} (h : span ∈ spans turns) :
    span.call ≤ span.result :=
  (spans_within turns).ordered span h

lemma result_lt_length {turns : List Turn} {span : Span} (h : span ∈ spans turns) :
    span.result < turns.length :=
  (spans_within turns).ends span h

lemma earliestAround_mem {found : List Span} {place : Quantity} {call : Nat}
    (h : earliestAround found place = some call) :
    ∃ span ∈ found, span.call = call ∧ (Quantity.whole span.call).lt place = true := by
  have hmem := List.min?_mem h
  obtain ⟨span, hspan, rfl⟩ := List.mem_map.mp hmem
  obtain ⟨hfound, haround⟩ := List.mem_filter.mp hspan
  exact ⟨span, hfound, rfl, (Bool.and_eq_true _ _ ▸ haround).1⟩

theorem boundaryBefore_safe {turns : List Turn} {wanted : Quantity} {bound : Nat}
    (h : boundaryBefore turns wanted = .ok bound) : Safe turns bound := by
  unfold boundaryBefore at h
  split at h
  case h_1 index hindex =>
    rw [← Except.ok.inj h]
    exact safeBoundary_safe turns index
  -- A place between two turns moves back only if a span lies around it.
  case h_2 hplace =>
    dsimp only at h
    split at h
    · exact Or.inl (Except.ok.inj h).symm
    · split at h
      · exact Or.inr (Or.inl (Except.ok.inj h).symm)
      · split at h
        · contradiction
        · split at h
          case h_1 call hcall =>
            obtain ⟨span, hspan, rfl, -⟩ := earliestAround_mem hcall
            have hlt := (call_le_result hspan).trans_lt (result_lt_length hspan)
            rw [← Except.ok.inj h]
            exact retreat_safe hlt
          case h_2 => contradiction

lemma Safe.clears {turns : List Turn} {bound : Nat} (h : Safe turns bound) :
    ∀ span ∈ spans turns, span.encloses bound = false := by
  intro span hspan
  rcases h with rfl | rfl | ⟨-, hclear, -⟩
  · simp [Span.encloses]
  · have hend := result_lt_length hspan
    simp [Span.encloses, hend]
  · exact hclear span hspan

lemma Safe.le_length {turns : List Turn} {bound : Nat} (h : Safe turns bound) :
    bound ≤ turns.length := by
  rcases h with rfl | rfl | ⟨hlt, -, -⟩
  · exact Nat.zero_le _
  · exact le_rfl
  · exact hlt.le

lemma Safe.head_drop {turns : List Turn} {bound : Nat} (h : Safe turns bound) (hpos : 0 < bound)
    {first : Turn} (hfirst : (turns.drop bound).head? = some first) : first.hasResult = false := by
  rw [List.head?_drop] at hfirst
  rcases h with rfl | rfl | ⟨-, -, hopens⟩
  · exact absurd hpos (Nat.lt_irrefl 0)
  · simp at hfirst
  · simpa [opensWithResult, hfirst] using hopens

/-- Turns that stand behind others which wait for nothing are matched by themselves. -/
lemma readTurns_behind {older : Matching} {turns : List Turn} {bound : Nat}
    (hbefore : ∀ call ∈ older.waiting, call.turn < bound)
    (hclear : Clears (older.readTurns bound turns) bound) :
    (older.readTurns bound turns).spans =
      older.spans ++ (spans turns).map (Span.shift bound) := by
  have hjoin : joinMatching older {} = older := by simp [joinMatching]
  have hshift := readTurns_shift bound {} 0 turns
  rw [Nat.zero_add] at hshift
  rw [← hjoin] at hclear
  have hread := readTurns_join hbefore turns le_rfl {} hclear
  rw [hjoin] at hread
  have hempty : shiftMatching bound {} = {} := rfl
  rw [hempty] at hshift
  rw [hread, hshift]
  rfl

/-- At a safe boundary the spans fall into those of the two pieces. -/
theorem spans_cut {turns : List Turn} {bound : Nat} (h : Safe turns bound) :
    spans turns =
      spans (turns.take bound) ++ (spans (turns.drop bound)).map (Span.shift bound) := by
  have hlen : (turns.take bound).length = bound := List.length_take_of_le h.le_length
  have hwhole : spans turns =
      ((Matching.readTurns {} 0 (turns.take bound)).readTurns bound (turns.drop bound)).spans := by
    have happ := Matching.readTurns_append {} 0 (turns.take bound) (turns.drop bound)
    rw [List.take_append_drop, hlen, Nat.zero_add] at happ
    exact congrArg Matching.spans happ
  have hwithin := spans_within (turns.take bound)
  rw [hlen] at hwithin
  have hclear : Clears ((Matching.readTurns {} 0 (turns.take bound)).readTurns bound
      (turns.drop bound)) bound := by
    intro span hspan
    rw [← hwhole] at hspan
    exact h.clears span hspan
  rw [hwhole, readTurns_behind hwithin.waits hclear]
  rfl

end Condense.Proofs
