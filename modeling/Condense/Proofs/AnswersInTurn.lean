import Condense.Proofs.LargestMatchings

/-!
# Answers in turn

All calls wait in one list, whichever tools they belong to. As long as no tool has more results than
calls, a result finds a call of its own tool in that list, and the calls of one tool are answered in
the order in which they were made, as if each tool had a list of its own.
-/

namespace Condense

def Part.isCallOf (tool : Text) : Part → Bool
  | .call name _ => name = tool
  | _ => false

def Part.isResultOf (tool : Text) : Part → Bool
  | .result name _ => name = tool
  | _ => false

/-- In front of every place each tool has at most as many results as calls. -/
def Balanced (turns : List Turn) : Prop :=
  ∀ (bound : Nat) (tool : Text), ((partsOf turns).take bound).countP (Part.isResultOf tool) ≤
    ((partsOf turns).take bound).countP (Part.isCallOf tool)

namespace Proofs

section Tools

variable {turns : List Turn} {tool : Text} {place : Nat}

lemma tool_of_isResultOf {part : Part} (h : part.isResultOf tool = true) : part.tool? = some tool := by
  cases part with
  | result name value =>
    rw [← of_decide_eq_true h]
    rfl
  | text t => contradiction
  | call name args => contradiction
  | other payload => contradiction

/-- Only the tools of the conversation and its own places matter. -/
lemma balanced_iff : Balanced turns ↔ ∀ bound ≤ (partsOf turns).length,
    ∀ tool ∈ (partsOf turns).filterMap Part.tool?,
      ((partsOf turns).take bound).countP (Part.isResultOf tool) ≤
        ((partsOf turns).take bound).countP (Part.isCallOf tool) := by
  constructor
  · exact fun h bound _ tool _ => h bound tool
  · intro h bound tool
    by_cases htool : tool ∈ (partsOf turns).filterMap Part.tool?
    · rcases Nat.le_total bound (partsOf turns).length with hle | hle
      · exact h bound hle tool htool
      · have hall := h _ le_rfl tool htool
        rw [List.take_length] at hall
        rwa [List.take_of_length_le hle]
    · have hnone : ((partsOf turns).take bound).countP (Part.isResultOf tool) = 0 := by
        refine List.countP_eq_zero.mpr fun part hpart hresult => htool ?_
        exact List.mem_filterMap.mpr ⟨part, List.mem_of_mem_take hpart, tool_of_isResultOf hresult⟩
      rw [hnone]
      exact Nat.zero_le _

instance : Decidable (Balanced turns) := decidable_of_iff _ balanced_iff.symm

lemma exists_tool (h : place ∈ placesOf Part.isResult turns) :
    ∃ tool, toolAt turns place = some tool ∧ place ∈ placesOf (Part.isResultOf tool) turns := by
  obtain ⟨part, hpart, hresult⟩ := mem_placesOf.mp h
  cases part with
  | result tool value =>
    exact ⟨tool, toolAt_of_part hpart, mem_placesOf.mpr ⟨_, hpart, decide_eq_true rfl⟩⟩
  | text t => contradiction
  | call tool args => contradiction
  | other payload => contradiction

/-- The oldest call of a tool leaves the calls of the other tools as they are. -/
lemma takeNamed_filter {waiting rest : List Waiting} {call : Waiting}
    (h : takeNamed? tool waiting = some (call, rest)) (name : Text) :
    waiting.filter (·.tool = name) =
      (if tool = name then [call] else []) ++ rest.filter (·.tool = name) := by
  obtain ⟨earlier, later, rfl, rfl, htool, hearlier⟩ := takeNamed_split h
  rw [List.filter_append, List.filter_append, List.filter_cons, htool]
  by_cases hname : tool = name
  · have hnone : earlier.filter (·.tool = name) = [] :=
      List.filter_eq_nil_iff.mpr fun other hother => by simpa [← hname] using hearlier other hother
    simp [hname, hnone]
  · simp [hname]

end Tools

/-- The pairs with results of a tool. -/
def spansOf (turns : List Turn) (tool : Text) (found : Matching) : List Span :=
  found.spans.filter fun span => toolAt turns span.result = some tool

/-- The waiting calls of a tool. -/
def waitingOf (tool : Text) (found : Matching) : List Waiting :=
  found.waiting.filter (·.tool = tool)

/-- In front of a place the results of every tool answer its first calls one after the other, and its
other calls wait in their order. -/
structure InTurn (turns : List Turn) (place : Nat) (found : Matching) : Prop where
  calls : ∀ tool, (spansOf turns tool found).map Span.call ++
    (waitingOf tool found).map Waiting.turn = placesBefore (Part.isCallOf tool) turns place
  results : ∀ tool, (spansOf turns tool found).map Span.result =
    placesBefore (Part.isResultOf tool) turns place

section InTurn

variable {turns : List Turn} {place : Nat} {found : Matching} {part : Part} {tool : Text}

lemma InTurn.pass (h : InTurn turns place found) (hpart : (partsOf turns)[place]? = some part)
    (hcall : ∀ tool, part.isCallOf tool = false) (hresult : ∀ tool, part.isResultOf tool = false) :
    InTurn turns (place + 1) found where
  calls tool := by
    rw [placesBefore_skip hpart (hcall tool)]
    exact h.calls tool
  results tool := by
    rw [placesBefore_skip hpart (hresult tool)]
    exact h.results tool

lemma InTurn.call (h : InTurn turns place found) {args : Value}
    (hpart : (partsOf turns)[place]? = some (.call tool args)) :
    InTurn turns (place + 1) { found with waiting := found.waiting ++ [⟨tool, place⟩] } where
  calls name := by
    have hbefore := h.calls name
    unfold spansOf waitingOf at hbefore ⊢
    rw [placesBefore_next hpart, List.filter_append, List.map_append, ← List.append_assoc, hbefore]
    by_cases hname : tool = name <;> simp [Part.isCallOf, hname]
  results name := by
    rw [placesBefore_skip hpart rfl]
    exact h.results name

/-- A result of a balanced conversation finds a call of its own tool. -/
lemma InTurn.exists_call (h : InTurn turns place found) (hbalanced : Balanced turns) {value : Value}
    (hpart : (partsOf turns)[place]? = some (.result tool value)) :
    ∃ call rest, takeNamed? tool found.waiting = some (call, rest) := by
  -- Counted with this result, its tool has a call more than it has answers.
  have hcount : (placesBefore (Part.isResultOf tool) turns (place + 1)).length ≤
      (placesBefore (Part.isCallOf tool) turns (place + 1)).length := by
    unfold placesBefore
    rw [List.length_findIdxs, List.length_findIdxs]
    exact hbalanced (place + 1) tool
  rw [placesBefore_snoc hpart (decide_eq_true rfl), placesBefore_skip hpart rfl, ← h.calls tool,
    ← h.results tool, List.length_append, List.length_append, List.length_map, List.length_map,
    List.length_singleton] at hcount
  cases hnamed : takeNamed? tool found.waiting with
  | some taken => exact ⟨taken.1, taken.2, rfl⟩
  | none =>
    have hnone : waitingOf tool found = [] :=
      List.filter_eq_nil_iff.mpr fun call hcall => by
        simpa using takeNamed_eq_none hnamed call hcall
    rw [hnone, List.map_nil, List.length_nil, Nat.add_zero] at hcount
    exact absurd hcount (Nat.not_succ_le_self _)

lemma InTurn.result (h : InTurn turns place found) {value : Value}
    (hpart : (partsOf turns)[place]? = some (.result tool value)) {call : Waiting}
    {rest : List Waiting} (hnamed : takeNamed? tool found.waiting = some (call, rest)) :
    InTurn turns (place + 1) ⟨rest, found.spans ++ [⟨call.turn, place⟩]⟩ := by
  have hplace : toolAt turns place = some tool := toolAt_of_part hpart
  have hspans : ∀ name, spansOf turns name ⟨rest, found.spans ++ [⟨call.turn, place⟩]⟩ =
      spansOf turns name found ++ if tool = name then [⟨call.turn, place⟩] else [] := by
    intro name
    unfold spansOf
    rw [List.filter_append]
    by_cases hname : tool = name <;> simp [hplace, hname]
  constructor
  · intro name
    rw [placesBefore_skip hpart rfl, ← h.calls name, hspans, List.map_append, List.append_assoc]
    unfold waitingOf
    rw [takeNamed_filter hnamed name, List.map_append]
    by_cases hname : tool = name <;> simp [hname]
  · intro name
    rw [placesBefore_next hpart, ← h.results name, hspans, List.map_append]
    by_cases hname : tool = name <;> simp [Part.isResultOf, hname]

lemma InTurn.read (h : InTurn turns place found) (hbalanced : Balanced turns)
    (hpart : (partsOf turns)[place]? = some part) :
    InTurn turns (place + 1) (found.readBy takeAnswered? place part) := by
  cases part with
  | text t => exact h.pass hpart (fun _ => rfl) (fun _ => rfl)
  | other payload => exact h.pass hpart (fun _ => rfl) (fun _ => rfl)
  | call tool args => exact h.call hpart
  | result tool value =>
    obtain ⟨call, rest, hnamed⟩ := h.exists_call hbalanced hpart
    have hanswered : takeAnswered? tool found.waiting = some (call, rest) := by
      unfold takeAnswered?
      rw [hnamed]
    simp only [Matching.readBy, hanswered]
    exact h.result hpart hnamed

lemma inTurn_start : InTurn turns 0 {} where
  calls _ := rfl
  results _ := rfl

lemma InTurn.kth (h : InTurn turns place found) {k : Nat} {span : Span}
    (hspan : (spansOf turns tool found)[k]? = some span) :
    (placesBefore (Part.isCallOf tool) turns place)[k]? = some span.call ∧
      (placesBefore (Part.isResultOf tool) turns place)[k]? = some span.result := by
  rw [← h.calls tool, ← h.results tool]
  have hcall : ((spansOf turns tool found).map Span.call)[k]? = some span.call := by
    rw [List.getElem?_map, hspan, Option.map_some]
  constructor
  · rwa [List.getElem?_append_left (List.getElem?_eq_some_iff.mp hcall).1]
  · rw [List.getElem?_map, hspan, Option.map_some]

end InTurn

lemma answers_inTurn {turns : List Turn} (h : Balanced turns) :
    InTurn turns (partsOf turns).length
      (Matching.readPartsBy takeAnswered? {} 0 (partsOf turns)) :=
  answers_induction inTurn_start fun _ _ _ hpart hfound => hfound.read h hpart

/-- In a balanced conversation the answers are the first result of a tool to its first call, the
second one to the second call, and so on for all results of all tools. -/
theorem kth_result_answers_kth_call {turns : List Turn} (h : Balanced turns) :
    spans turns = (answers turns).map (Span.inTurns turns) ∧
      (∀ (tool : Text) (k result : Nat), (placesOf (Part.isResultOf tool) turns)[k]? = some result →
        ∃ call, (placesOf (Part.isCallOf tool) turns)[k]? = some call ∧
          ⟨call, result⟩ ∈ answers turns) ∧
      (∀ answer ∈ answers turns, ∃ (tool : Text) (k : Nat),
        (placesOf (Part.isCallOf tool) turns)[k]? = some answer.call ∧
          (placesOf (Part.isResultOf tool) turns)[k]? = some answer.result) ∧
      ∀ result ∈ placesOf Part.isResult turns, ∃ answer ∈ answers turns, answer.result = result := by
  have hturn := answers_inTurn h
  have hkth : ∀ (tool : Text) (k result : Nat), (placesOf (Part.isResultOf tool) turns)[k]? = some result →
      ∃ call, (placesOf (Part.isCallOf tool) turns)[k]? = some call ∧
        ⟨call, result⟩ ∈ answers turns := by
    intro tool k result hresult
    rw [← placesBefore_length, ← hturn.results tool, List.getElem?_map,
      Option.map_eq_some_iff] at hresult
    obtain ⟨span, hspan, rfl⟩ := hresult
    refine ⟨span.call, ?_, List.mem_of_mem_filter (List.mem_of_getElem? hspan)⟩
    rw [← placesBefore_length]
    exact (hturn.kth hspan).1
  refine ⟨spans_eq_answers turns, hkth, ?_, ?_⟩
  · intro answer hanswer
    obtain ⟨tool, htool, -⟩ := exists_tool ((answers_pairing turns).results answer hanswer)
    have hmem : answer ∈ spansOf turns tool _ :=
      List.mem_filter.mpr ⟨hanswer, decide_eq_true htool⟩
    obtain ⟨k, hk⟩ := List.mem_iff_getElem?.mp hmem
    refine ⟨tool, k, ?_⟩
    rw [← placesBefore_length, ← placesBefore_length]
    exact hturn.kth hk
  · intro result hresult
    obtain ⟨tool, -, hmem⟩ := exists_tool hresult
    obtain ⟨k, hk⟩ := List.mem_iff_getElem?.mp hmem
    obtain ⟨call, -, hanswer⟩ := hkth tool k result hk
    exact ⟨_, hanswer, rfl⟩

/-- Calls of two tools whose results come in another order, and one more call in between. -/
def interleavedCalls : List Turn := [
  ⟨"assistant", [.call "read" .null, .call "search" .null, .call "read" .null]⟩,
  ⟨"tool", [.result "read" .null]⟩, ⟨"assistant", [.text "more", .call "search" .null]⟩,
  ⟨"tool", [.result "search" .null, .result "read" .null, .result "search" .null]⟩]

theorem interleavedCalls_in_turn :
    Balanced interleavedCalls ∧
      (placesOf (Part.isResultOf "search") interleavedCalls)[1]? = some 8 ∧
      ∃ call, (placesOf (Part.isCallOf "search") interleavedCalls)[1]? = some call ∧
        ⟨call, 8⟩ ∈ answers interleavedCalls := by
  have hbalanced : Balanced interleavedCalls := by decide +kernel
  have hresult : (placesOf (Part.isResultOf "search") interleavedCalls)[1]? = some 8 := by
    decide +kernel
  obtain ⟨-, hkth, -⟩ := kth_result_answers_kth_call hbalanced
  exact ⟨hbalanced, hresult, hkth "search" 1 8 hresult⟩

end Proofs

end Condense
