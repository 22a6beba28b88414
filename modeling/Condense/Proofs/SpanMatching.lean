import Condense.Split.Span
import Mathlib.Data.List.Basic
import Mathlib.Tactic.Lemma

/-!
# Reading a conversation in two pieces

`Matching.readTurns` keeps the calls that wait for a result. Turns that were read before leave
older calls at the front of that list. As long as none of these is answered, the later turns are
matched as if nothing had been read before, up to the indices of the turns.
-/

namespace Condense.Proofs

/-- A waiting call of a conversation that stands behind `offset` further turns. -/
def shiftWaiting (offset : Nat) (call : Waiting) : Waiting := ⟨call.tool, call.turn + offset⟩

/-- A matching of turns that stand behind `offset` further ones. -/
def shiftMatching (offset : Nat) (matching : Matching) : Matching :=
  ⟨matching.waiting.map (shiftWaiting offset), matching.spans.map (Span.shift offset)⟩

/-- A matching together with what was read before it. -/
def joinMatching (older matching : Matching) : Matching :=
  ⟨older.waiting ++ matching.waiting, older.spans ++ matching.spans⟩

/-- A matching of turns that have other indices. -/
def renumber (index : Nat → Nat) (matching : Matching) : Matching :=
  ⟨matching.waiting.map fun call => ⟨call.tool, index call.turn⟩,
    matching.spans.map fun span => ⟨index span.call, index span.result⟩⟩

section Renumbered

variable {other : Waiting → Waiting}

lemma takeNamed_map (hother : ∀ call, (other call).tool = call.tool) (tool : Text)
    (waiting : List Waiting) :
    takeNamed? tool (waiting.map other) =
      (takeNamed? tool waiting).map fun found => (other found.1, found.2.map other) := by
  induction waiting with
  | nil => rfl
  | cons call calls ih =>
    by_cases h : call.tool = tool
    · simp [takeNamed?, hother, h]
    · have hs : ¬(other call).tool = tool := by rwa [hother]
      simp only [List.map_cons, takeNamed?, if_neg h, if_neg hs, ih, Option.map_map]
      rfl

lemma takeLatest_map (other : Waiting → Waiting) (waiting : List Waiting) :
    takeLatest? (waiting.map other) =
      (takeLatest? waiting).map fun found => (other found.1, found.2.map other) := by
  induction waiting with
  | nil => rfl
  | cons call calls ih =>
    cases calls with
    | nil => rfl
    | cons next rest =>
      simp only [List.map_cons, takeLatest?] at ih ⊢
      rw [ih, Option.map_map, Option.map_map]
      rfl

lemma takeAnswered_map (hother : ∀ call, (other call).tool = call.tool) (tool : Text)
    (waiting : List Waiting) :
    takeAnswered? tool (waiting.map other) =
      (takeAnswered? tool waiting).map fun found => (other found.1, found.2.map other) := by
  unfold takeAnswered?
  rw [takeNamed_map hother, takeLatest_map]
  cases takeNamed? tool waiting <;> rfl

/-- Which call a result answers does not depend on the indices. -/
lemma read_renumber (index : Nat → Nat) (matching : Matching) (place : Nat) (part : Part) :
    (renumber index matching).read (index place) part =
      renumber index (matching.read place part) := by
  cases part with
  | text t => rfl
  | other payload => rfl
  | call tool args => simp [Matching.read, renumber]
  | result tool value =>
    have ht := @takeAnswered_map (fun call => ⟨call.tool, index call.turn⟩) (fun _ => rfl) tool
      matching.waiting
    cases h : takeAnswered? tool matching.waiting with
    | none =>
      rw [h] at ht
      simp only [Matching.read, renumber, ht, h, Option.map_none]
    | some found =>
      rw [h] at ht
      simp only [Matching.read, renumber, ht, h, Option.map_some, List.map_append,
        List.map_cons, List.map_nil]

end Renumbered

lemma readTurn_shift (offset : Nat) (matching : Matching) (index : Nat) (turn : Turn) :
    (shiftMatching offset matching).readTurn (index + offset) turn =
      shiftMatching offset (matching.readTurn index turn) := by
  unfold Matching.readTurn
  induction turn.parts generalizing matching with
  | nil => rfl
  | cons part parts ih =>
    rw [List.foldl_cons, List.foldl_cons]
    have hread : (shiftMatching offset matching).read (index + offset) part =
        shiftMatching offset (matching.read index part) :=
      read_renumber (· + offset) matching index part
    rw [hread]
    exact ih (matching.read index part)

/-- Turns are matched alike wherever they stand. -/
theorem readTurns_shift (offset : Nat) (matching : Matching) (index : Nat) (turns : List Turn) :
    (shiftMatching offset matching).readTurns (index + offset) turns =
      shiftMatching offset (matching.readTurns index turns) := by
  induction turns generalizing matching index with
  | nil => rfl
  | cons turn turns ih =>
    rw [Matching.readTurns, Matching.readTurns, readTurn_shift, Nat.add_right_comm]
    exact ih (matching.readTurn index turn) (index + 1)

lemma takeNamed_append (tool : Text) (older waiting : List Waiting) :
    (∃ call rest, takeNamed? tool (older ++ waiting) = some (call, rest) ∧ call ∈ older) ∨
      takeNamed? tool (older ++ waiting) =
        (takeNamed? tool waiting).map fun found => (found.1, older ++ found.2) := by
  induction older with
  | nil =>
    right
    simp
  | cons call calls ih =>
    by_cases h : call.tool = tool
    · left
      exact ⟨call, calls ++ waiting, by simp [takeNamed?, h], List.mem_cons_self⟩
    · rcases ih with ⟨found, rest, hfound, hmem⟩ | hnone
      · left
        refine ⟨found, call :: rest, ?_, List.mem_cons_of_mem _ hmem⟩
        simp only [List.cons_append, takeNamed?, if_neg h, hfound, Option.map_some]
      · right
        simp only [List.cons_append, takeNamed?, if_neg h, hnone, Option.map_map]
        rfl

lemma takeLatest_append (older waiting : List Waiting) :
    (∃ call rest, takeLatest? (older ++ waiting) = some (call, rest) ∧ call ∈ older) ∨
      takeLatest? (older ++ waiting) =
        (takeLatest? waiting).map fun found => (found.1, older ++ found.2) := by
  induction older with
  | nil =>
    right
    simp
  | cons call calls ih =>
    cases hrest : calls ++ waiting with
    | nil =>
      left
      have hcalls : calls = [] := (List.append_eq_nil_iff.mp hrest).1
      exact ⟨call, [], by simp [hrest, takeLatest?], List.mem_cons_self⟩
    | cons next rest =>
      rw [hrest] at ih
      rcases ih with ⟨found, left, hfound, hmem⟩ | hnone
      · left
        refine ⟨found, call :: left, ?_, List.mem_cons_of_mem _ hmem⟩
        simp only [List.cons_append, hrest, takeLatest?, hfound, Option.map_some]
      · right
        simp only [List.cons_append, hrest, takeLatest?, hnone, Option.map_map]
        rfl

/-- A result answers an older call, or the same call as without the older ones. -/
theorem takeAnswered_append (tool : Text) (older waiting : List Waiting) :
    (∃ call rest, takeAnswered? tool (older ++ waiting) = some (call, rest) ∧ call ∈ older) ∨
      takeAnswered? tool (older ++ waiting) =
        (takeAnswered? tool waiting).map fun found => (found.1, older ++ found.2) := by
  unfold takeAnswered?
  rcases takeNamed_append tool older waiting with ⟨call, rest, hfound, hmem⟩ | hnamed
  · left
    exact ⟨call, rest, by rw [hfound], hmem⟩
  · rw [hnamed]
    cases takeNamed? tool waiting with
    | some found =>
      right
      rfl
    | none => exact takeLatest_append older waiting

lemma read_result_none (matching : Matching) {tool : Text} (value : Value) (index : Nat)
    (h : takeAnswered? tool matching.waiting = none) :
    matching.read index (.result tool value) = matching := by
  simp only [Matching.read, h]

lemma read_result_some (matching : Matching) {tool : Text} {call : Waiting}
    {rest : List Waiting} (value : Value) (index : Nat)
    (h : takeAnswered? tool matching.waiting = some (call, rest)) :
    matching.read index (.result tool value) =
      ⟨rest, matching.spans ++ [⟨call.turn, index⟩]⟩ := by
  simp only [Matching.read, h]

lemma spans_read (matching : Matching) (index : Nat) (part : Part) :
    matching.spans <+: (matching.read index part).spans := by
  cases part with
  | text t => exact List.prefix_rfl
  | other payload => exact List.prefix_rfl
  | call tool args => exact List.prefix_rfl
  | result tool value =>
    cases h : takeAnswered? tool matching.waiting with
    | none => simp only [read_result_none matching value index h, List.prefix_rfl]
    | some found =>
      rw [read_result_some matching value index h]
      exact List.prefix_append _ _

lemma spans_readParts (matching : Matching) (index : Nat) (parts : List Part) :
    matching.spans <+:
      (parts.foldl (fun matching part => matching.read index part) matching).spans := by
  induction parts generalizing matching with
  | nil => exact List.prefix_rfl
  | cons part parts ih => exact (spans_read matching index part).trans (ih _)

lemma spans_readTurns (matching : Matching) (index : Nat) (turns : List Turn) :
    matching.spans <+: (matching.readTurns index turns).spans := by
  induction turns generalizing matching index with
  | nil => exact List.prefix_rfl
  | cons turn turns ih =>
    exact (spans_readParts matching index turn.parts).trans (ih _ _)

/-- No span of a matching lies across a boundary. -/
def Clears (matching : Matching) (bound : Nat) : Prop :=
  ∀ span ∈ matching.spans, span.encloses bound = false

lemma Clears.of_prefix {earlier later : Matching} {bound : Nat} (h : Clears later bound)
    (hp : earlier.spans <+: later.spans) : Clears earlier bound :=
  fun span hspan => h span (hp.subset hspan)

section Older

variable {older : Matching} {bound : Nat}

lemma read_join (hbefore : ∀ call ∈ older.waiting, call.turn < bound) (matching : Matching)
    {index : Nat} (hindex : bound ≤ index) (part : Part)
    (hclear : Clears ((joinMatching older matching).read index part) bound) :
    (joinMatching older matching).read index part =
      joinMatching older (matching.read index part) := by
  cases part with
  | text t => rfl
  | other payload => rfl
  | call tool args => simp [Matching.read, joinMatching]
  | result tool value =>
    rcases takeAnswered_append tool older.waiting matching.waiting with
      ⟨call, rest, hfound, hmem⟩ | hlater
    · -- the span of an older call would lie across the boundary
      rw [read_result_some (joinMatching older matching) value index hfound] at hclear
      have hnot := hclear ⟨call.turn, index⟩ (List.mem_append_right _ List.mem_cons_self)
      have hturn := hbefore call hmem
      simp [Span.encloses, hturn, hindex] at hnot
    · cases h : takeAnswered? tool matching.waiting with
      | none =>
        rw [h] at hlater
        rw [read_result_none matching value index h,
          read_result_none (joinMatching older matching) value index hlater]
      | some found =>
        rw [h] at hlater
        rw [read_result_some matching value index h,
          read_result_some (joinMatching older matching) value index hlater]
        simp [joinMatching]

lemma readParts_join (hbefore : ∀ call ∈ older.waiting, call.turn < bound) {index : Nat}
    (hindex : bound ≤ index) (parts : List Part) (matching : Matching)
    (hclear : Clears (parts.foldl (fun matching part => matching.read index part)
      (joinMatching older matching)) bound) :
    parts.foldl (fun matching part => matching.read index part) (joinMatching older matching) =
      joinMatching older
        (parts.foldl (fun matching part => matching.read index part) matching) := by
  induction parts generalizing matching with
  | nil => rfl
  | cons part parts ih =>
    have hfirst := read_join hbefore matching hindex part
      (hclear.of_prefix (spans_readParts _ index parts))
    rw [List.foldl_cons, hfirst] at hclear ⊢
    exact ih _ hclear

/-- Turns behind a boundary that no span crosses are matched as if nothing stood before it. -/
theorem readTurns_join (hbefore : ∀ call ∈ older.waiting, call.turn < bound) (turns : List Turn)
    {index : Nat} (hindex : bound ≤ index) (matching : Matching)
    (hclear : Clears ((joinMatching older matching).readTurns index turns) bound) :
    (joinMatching older matching).readTurns index turns =
      joinMatching older (matching.readTurns index turns) := by
  induction turns generalizing matching index with
  | nil => rfl
  | cons turn turns ih =>
    have hfirst := readParts_join hbefore hindex turn.parts matching
      (hclear.of_prefix (spans_readTurns _ (index + 1) turns))
    rw [Matching.readTurns, Matching.readTurn, hfirst] at hclear ⊢
    exact ih (by omega) _ hclear

end Older

/-- A matching of the turns in front of a boundary. -/
structure Within (matching : Matching) (bound : Nat) : Prop where
  waits : ∀ call ∈ matching.waiting, call.turn < bound
  ordered : ∀ span ∈ matching.spans, span.call ≤ span.result
  ends : ∀ span ∈ matching.spans, span.result < bound

lemma Within.mono {matching : Matching} {bound further : Nat} (h : Within matching bound)
    (hle : bound ≤ further) : Within matching further where
  waits call hcall := Nat.lt_of_lt_of_le (h.waits call hcall) hle
  ordered := h.ordered
  ends span hspan := Nat.lt_of_lt_of_le (h.ends span hspan) hle

/-- A waiting call is taken out, and the others go on waiting in their order. -/
def Taken (waiting : List Waiting) (call : Waiting) (rest : List Waiting) : Prop :=
  ∃ earlier later, waiting = earlier ++ call :: later ∧ rest = earlier ++ later

section Taken

variable {tool : Text} {waiting rest : List Waiting} {call : Waiting}

lemma Taken.mem (h : Taken waiting call rest) : call ∈ waiting := by
  obtain ⟨earlier, later, rfl, -⟩ := h
  exact List.mem_append_right earlier List.mem_cons_self

lemma Taken.sublist (h : Taken waiting call rest) : rest.Sublist waiting := by
  obtain ⟨earlier, later, rfl, rfl⟩ := h
  exact (List.Sublist.refl earlier).append (List.sublist_cons_self call later)

lemma Taken.perm (h : Taken waiting call rest) : waiting.Perm (call :: rest) := by
  obtain ⟨earlier, later, rfl, rfl⟩ := h
  exact List.perm_middle

lemma Taken.eq_or_mem (h : Taken waiting call rest) {other : Waiting} (hother : other ∈ waiting) :
    other = call ∨ other ∈ rest := by
  obtain ⟨earlier, later, rfl, rfl⟩ := h
  exact List.mem_cons.mp (List.perm_middle.subset hother)

/-- The call that is taken is the first one of its tool. -/
lemma takeNamed_split (h : takeNamed? tool waiting = some (call, rest)) :
    ∃ earlier later, waiting = earlier ++ call :: later ∧ rest = earlier ++ later ∧
      call.tool = tool ∧ ∀ other ∈ earlier, other.tool ≠ tool := by
  induction waiting generalizing rest with
  | nil => simp [takeNamed?] at h
  | cons first calls ih =>
    by_cases hname : first.tool = tool
    · simp only [takeNamed?, if_pos hname, Option.some.injEq, Prod.mk.injEq] at h
      obtain ⟨rfl, rfl⟩ := h
      exact ⟨[], calls, rfl, rfl, hname, by simp⟩
    · simp only [takeNamed?, if_neg hname, Option.map_eq_some_iff, Prod.mk.injEq] at h
      obtain ⟨⟨found, left⟩, hfound, rfl, rfl⟩ := h
      obtain ⟨earlier, later, rfl, rfl, htool, hearlier⟩ := ih hfound
      exact ⟨first :: earlier, later, rfl, rfl, htool, List.forall_mem_cons.mpr ⟨hname, hearlier⟩⟩

lemma takeLatest_split (h : takeLatest? waiting = some (call, rest)) : waiting = rest ++ [call] := by
  induction waiting generalizing rest with
  | nil => simp [takeLatest?] at h
  | cons first calls ih =>
    cases calls with
    | nil =>
      simp only [takeLatest?, Option.some.injEq, Prod.mk.injEq] at h
      obtain ⟨rfl, rfl⟩ := h
      rfl
    | cons next others =>
      simp only [takeLatest?, Option.map_eq_some_iff, Prod.mk.injEq] at h
      obtain ⟨⟨found, left⟩, hfound, rfl, rfl⟩ := h
      exact congrArg (first :: ·) (ih hfound)

lemma takeLatest_eq_none (h : takeLatest? waiting = none) : waiting = [] := by
  induction waiting with
  | nil => rfl
  | cons first calls ih =>
    cases calls with
    | nil => simp [takeLatest?] at h
    | cons next others =>
      simp only [takeLatest?, Option.map_eq_none_iff] at h
      exact absurd (ih h) (List.cons_ne_nil next others)

/-- A result goes without a call only if none waits. -/
lemma takeAnswered_eq_none (h : takeAnswered? tool waiting = none) : waiting = [] := by
  unfold takeAnswered? at h
  split at h
  case h_1 => contradiction
  case h_2 => exact takeLatest_eq_none h

lemma takeNamed_taken (h : takeNamed? tool waiting = some (call, rest)) : Taken waiting call rest := by
  obtain ⟨earlier, later, hwaiting, hrest, -⟩ := takeNamed_split h
  exact ⟨earlier, later, hwaiting, hrest⟩

lemma takeAnswered_cases (h : takeAnswered? tool waiting = some (call, rest)) :
    takeNamed? tool waiting = some (call, rest) ∨
      takeNamed? tool waiting = none ∧ takeLatest? waiting = some (call, rest) := by
  unfold takeAnswered? at h
  cases hnamed : takeNamed? tool waiting with
  | none =>
    rw [hnamed] at h
    exact Or.inr ⟨rfl, h⟩
  | some found =>
    rw [hnamed] at h
    exact Or.inl h

lemma takeAnswered_taken (h : takeAnswered? tool waiting = some (call, rest)) :
    Taken waiting call rest := by
  rcases takeAnswered_cases h with hnamed | ⟨-, hlatest⟩
  · exact takeNamed_taken hnamed
  · exact ⟨rest, [], takeLatest_split hlatest, (List.append_nil rest).symm⟩

end Taken

lemma Within.read {matching : Matching} {index : Nat} (h : Within matching (index + 1))
    (part : Part) : Within (matching.read index part) (index + 1) := by
  cases part with
  | text t => exact h
  | other payload => exact h
  | call tool args =>
    refine ⟨?_, h.ordered, h.ends⟩
    intro call hcall
    rcases List.mem_append.mp hcall with hold | hnew
    · exact h.waits call hold
    · rw [List.mem_singleton.mp hnew]
      exact Nat.lt_succ_self index
  | result tool value =>
    cases hfound : takeAnswered? tool matching.waiting with
    | none => rwa [read_result_none matching value index hfound]
    | some found =>
      obtain ⟨call, rest⟩ := found
      rw [read_result_some matching value index hfound]
      have htaken := takeAnswered_taken hfound
      have hturn := h.waits call htaken.mem
      refine ⟨fun other hother => h.waits other (htaken.sublist.subset hother), ?_, ?_⟩
      · intro span hspan
        rcases List.mem_append.mp hspan with hold | hnew
        · exact h.ordered span hold
        · rw [List.mem_singleton.mp hnew]
          exact Nat.lt_succ_iff.mp hturn
      · intro span hspan
        rcases List.mem_append.mp hspan with hold | hnew
        · exact h.ends span hold
        · rw [List.mem_singleton.mp hnew]
          exact Nat.lt_succ_self index

lemma Within.readTurn {matching : Matching} {index : Nat} (h : Within matching index)
    (turn : Turn) : Within (matching.readTurn index turn) (index + 1) := by
  have hparts : ∀ (parts : List Part) (matching : Matching), Within matching (index + 1) →
      Within (parts.foldl (fun matching part => matching.read index part) matching) (index + 1) := by
    intro parts
    induction parts with
    | nil => exact fun _ hm => hm
    | cons part parts ih => exact fun _ hm => ih _ (hm.read part)
  exact hparts turn.parts matching (h.mono (Nat.le_succ index))

theorem Within.readTurns {matching : Matching} {index : Nat} (h : Within matching index)
    (turns : List Turn) : Within (matching.readTurns index turns) (index + turns.length) := by
  induction turns generalizing matching index with
  | nil => exact h
  | cons turn turns ih =>
    have hrest := ih (h.readTurn turn)
    rwa [Nat.add_assoc, Nat.add_comm 1] at hrest

end Condense.Proofs
