import Condense.Proofs.SafeBoundary

/-!
# Calls and results of one name

The parts of a conversation are matched one by one. A result for which no call of its tool waits is
given the latest call of all, and a later result of that call's own tool has to go without it. As
long as no call of a tool is lost in this way, each of its results stays on one side of every
boundary with the oldest call of that tool that has no result of that tool yet.
-/

namespace Condense

/-- The tool that a part calls or answers. -/
def Part.tool? : Part → Option Text
  | .call tool _ => some tool
  | .result tool _ => some tool
  | _ => none

/-- Reads the part at a place of the sequence of all parts; `take` chooses the waiting call that a
result answers. -/
def Matching.readBy (take : Text → List Waiting → Option (Waiting × List Waiting))
    (matching : Matching) (place : Nat) : Part → Matching
  | .call tool _ => { matching with waiting := matching.waiting ++ [⟨tool, place⟩] }
  | .result tool _ =>
    match take tool matching.waiting with
    | some (call, rest) => ⟨rest, matching.spans ++ [⟨call.turn, place⟩]⟩
    | none => matching
  | _ => matching

/-- Reads parts of which the first one stands at the given place. -/
def Matching.readPartsBy (take : Text → List Waiting → Option (Waiting × List Waiting))
    (matching : Matching) : Nat → List Part → Matching
  | _, [] => matching
  | place, part :: parts => (matching.readBy take place part).readPartsBy take (place + 1) parts

def partsOf (turns : List Turn) : List Part := turns.flatMap Turn.parts

/-- The turn in which the part at a place stands. -/
def turnAt : List Turn → Nat → Nat
  | [], _ => 0
  | turn :: turns, place =>
    if place < turn.parts.length then 0 else turnAt turns (place - turn.parts.length) + 1

def toolAt (turns : List Turn) (place : Nat) : Option Text := (partsOf turns)[place]?.bind Part.tool?

/-- The calls with the results that answer them, by the places of their parts. -/
def answers (turns : List Turn) : List Span :=
  (Matching.readPartsBy takeAnswered? {} 0 (partsOf turns)).spans

/-- Each result with the oldest call of its tool in front of it that no result of that tool has been
paired with yet, by the places of their parts. -/
def namesakes (turns : List Turn) : List Span :=
  (Matching.readPartsBy takeNamed? {} 0 (partsOf turns)).spans

/-- A pair of parts by the turns in which they stand. -/
def Span.inTurns (turns : List Turn) (pair : Span) : Span :=
  ⟨turnAt turns pair.call, turnAt turns pair.result⟩

namespace Proofs

section Places

lemma readPartsBy_append (take : Text → List Waiting → Option (Waiting × List Waiting))
    (matching : Matching) (place : Nat) (xs ys : List Part) :
    matching.readPartsBy take place (xs ++ ys) =
      (matching.readPartsBy take place xs).readPartsBy take (place + xs.length) ys := by
  induction xs generalizing matching place with
  | nil => rfl
  | cons part xs ih =>
    rw [List.cons_append, Matching.readPartsBy, Matching.readPartsBy, ih, List.length_cons,
      Nat.add_assoc, Nat.add_comm 1]

/-- What holds at first of two ways of matching, and is kept by every part, holds of a whole
conversation. -/
theorem readPartsBy_induction {take other : Text → List Waiting → Option (Waiting × List Waiting)}
    {turns : List Turn} {holds : Nat → Matching → Matching → Prop} (hstart : holds 0 {} {})
    (hread : ∀ place part first second, (partsOf turns)[place]? = some part →
      holds place first second →
      holds (place + 1) (first.readBy take place part) (second.readBy other place part)) :
    holds (partsOf turns).length (Matching.readPartsBy take {} 0 (partsOf turns))
      (Matching.readPartsBy other {} 0 (partsOf turns)) := by
  -- Both matchings go on from a place with the parts behind it.
  have hrest : ∀ (parts : List Part) (place : Nat) (first second : Matching),
      (partsOf turns).drop place = parts → holds place first second →
      holds (place + parts.length) (first.readPartsBy take place parts)
        (second.readPartsBy other place parts) := by
    intro parts
    induction parts with
    | nil => exact fun _ _ _ _ h => h
    | cons part parts ih =>
      intro place first second hparts h
      have hpart : (partsOf turns)[place]? = some part := by
        rw [← List.head?_drop, hparts, List.head?_cons]
      have hlater : (partsOf turns).drop (place + 1) = parts := by
        rw [← List.tail_drop, hparts, List.tail_cons]
      have hafter := ih _ _ _ hlater (hread place part first second hpart h)
      rwa [List.length_cons, Nat.add_comm parts.length, ← Nat.add_assoc]
  have hall := hrest (partsOf turns) 0 {} {} List.drop_zero hstart
  rwa [Nat.zero_add] at hall

lemma readBy_takeAnswered (matching : Matching) (place : Nat) (part : Part) :
    matching.readBy takeAnswered? place part = matching.read place part := by
  cases part <;> rfl

lemma readTurn_renumber {index : Nat → Nat} (matching : Matching) (place here : Nat) (turn : Turn)
    (hindex : ∀ k < turn.parts.length, index (place + k) = here) :
    (renumber index matching).readTurn here turn =
      renumber index (matching.readPartsBy takeAnswered? place turn.parts) := by
  unfold Matching.readTurn
  generalize turn.parts = parts at hindex
  induction parts generalizing matching place with
  | nil => rfl
  | cons part parts ih =>
    have hhere : index place = here := hindex 0 (Nat.succ_pos _)
    have hrest : ∀ k < parts.length, index (place + 1 + k) = here := by
      intro k hk
      rw [Nat.add_assoc, Nat.add_comm 1]
      exact hindex (k + 1) (Nat.succ_lt_succ hk)
    rw [List.foldl_cons, Matching.readPartsBy, readBy_takeAnswered, ← ih _ _ hrest,
      ← read_renumber, hhere]

lemma readTurns_renumber {index : Nat → Nat} (matching : Matching) (place first : Nat)
    (turns : List Turn)
    (hindex : ∀ k < (partsOf turns).length, index (place + k) = first + turnAt turns k) :
    (renumber index matching).readTurns first turns =
      renumber index (matching.readPartsBy takeAnswered? place (partsOf turns)) := by
  induction turns generalizing matching place first with
  | nil => rfl
  | cons turn turns ih =>
    have hparts : partsOf (turn :: turns) = turn.parts ++ partsOf turns := rfl
    rw [hparts, List.length_append] at hindex
    have hhere : ∀ k < turn.parts.length, index (place + k) = first := by
      intro k hk
      rw [hindex k (by omega), turnAt, if_pos hk, Nat.add_zero]
    have hrest : ∀ k < (partsOf turns).length,
        index (place + turn.parts.length + k) = first + 1 + turnAt turns k := by
      intro k hk
      rw [Nat.add_assoc, hindex _ (by omega), turnAt, if_neg (by omega), Nat.add_sub_cancel_left]
      omega
    rw [Matching.readTurns, readTurn_renumber matching place first turn hhere, ih _ _ _ hrest, hparts,
      readPartsBy_append]

theorem spans_eq_answers (turns : List Turn) :
    spans turns = (answers turns).map (Span.inTurns turns) := by
  have hindex : ∀ k < (partsOf turns).length, turnAt turns (0 + k) = 0 + turnAt turns k := by
    intro k _
    rw [Nat.zero_add, Nat.zero_add]
  have hread := readTurns_renumber {} 0 0 turns hindex
  exact congrArg Matching.spans hread

lemma inTurns_encloses {turns : List Turn} {pair : Span} {bound : Nat} :
    (pair.inTurns turns).encloses bound = true ↔
      turnAt turns pair.call < bound ∧ bound ≤ turnAt turns pair.result := by
  unfold Span.encloses
  rw [Bool.and_eq_true, decide_eq_true_iff, decide_eq_true_iff]
  rfl

end Places

section Taken

variable {tool : Text} {call : Waiting} {waiting rest : List Waiting}

lemma takeNamed_tool (h : takeNamed? tool waiting = some (call, rest)) : call.tool = tool := by
  obtain ⟨earlier, later, -, -, htool, -⟩ := takeNamed_split h
  exact htool

lemma takeNamed_eq_none (h : takeNamed? tool waiting = none) : ∀ call ∈ waiting, call.tool ≠ tool := by
  induction waiting with
  | nil => simp
  | cons first calls ih =>
    by_cases hname : first.tool = tool
    · simp [takeNamed?, hname] at h
    · simp only [takeNamed?, if_neg hname, Option.map_eq_none_iff] at h
      exact List.forall_mem_cons.mpr ⟨hname, ih h⟩

lemma takeNamed_oldest (hsorted : waiting.Pairwise fun first later => first.turn < later.turn)
    (h : takeNamed? tool waiting = some (call, rest)) :
    ∀ other ∈ rest, other.tool = tool → call.turn < other.turn := by
  obtain ⟨earlier, later, rfl, rfl, -, hearlier⟩ := takeNamed_split h
  intro other hother hsame
  have hlater : other ∈ later :=
    (List.mem_append.mp hother).resolve_left fun hin => hearlier other hin hsame
  exact (List.pairwise_cons.mp (List.pairwise_append.mp hsorted).2.1).1 other hlater

end Taken

/-- In front of a place a result of another tool was given a call, or an older call of its tool. -/
def Stolen (turns : List Turn) (found : List Span) (call place : Nat) : Prop :=
  ∃ theft ∈ found, theft.call ≤ call ∧ theft.result < place ∧
    toolAt turns theft.call = toolAt turns call ∧ toolAt turns theft.result ≠ toolAt turns call

/-- In front of a place a result was given the call, because it or an older one was stolen. -/
def Lost (turns : List Turn) (found : List Span) (call place : Nat) : Prop :=
  (∃ answer ∈ found, answer.call = call ∧ answer.result < place) ∧ Stolen turns found call place

section Lost

variable {turns : List Turn} {found : List Span} {call place : Nat}

lemma Lost.mono (h : Lost turns found call place) {more : List Span} (hmore : found ⊆ more)
    {further : Nat} (hle : place ≤ further) : Lost turns more call further := by
  obtain ⟨⟨answer, hanswer, hcall, hbefore⟩, theft, htheft, holder, hearlier, htools⟩ := h
  exact ⟨⟨answer, hmore hanswer, hcall, by omega⟩, theft, hmore htheft, holder, by omega, htools⟩

lemma lost_of_theft (h : ⟨call, place⟩ ∈ found) (hother : toolAt turns place ≠ toolAt turns call) :
    Lost turns found call (place + 1) :=
  ⟨⟨_, h, rfl, Nat.lt_succ_self place⟩, _, h, le_rfl, Nat.lt_succ_self place, rfl, hother⟩

/-- The loss of a call is handed on to the next one of its tool, which is answered in its place. -/
lemma Lost.next {older : Nat} (hlost : Lost turns found older place) (h : ⟨call, place⟩ ∈ found)
    (hle : older ≤ call) (hsame : toolAt turns older = toolAt turns call) :
    Lost turns found call (place + 1) := by
  obtain ⟨-, theft, htheft, holder, hearlier, htool, hother⟩ := hlost
  refine ⟨⟨_, h, rfl, Nat.lt_succ_self place⟩, theft, htheft, by omega, by omega, ?_, ?_⟩
  · rw [htool, hsame]
  · rwa [← hsame]

end Lost

/-- The two ways of matching the parts in front of a place: `found` gives a result any call in the
end, `own` only one of its tool. Calls that wait for `own` alone have been lost. -/
structure Abreast (turns : List Turn) (place : Nat) (found own : Matching) : Prop where
  tools : ∀ call ∈ own.waiting, toolAt turns call.turn = some call.tool
  places : ∀ call ∈ own.waiting, call.turn < place
  sorted : own.waiting.Pairwise fun first later => first.turn < later.turn
  sortedFound : found.waiting.Pairwise fun first later => first.turn < later.turn
  subset : ∀ call ∈ found.waiting, call ∈ own.waiting
  lost : ∀ call ∈ own.waiting, call ∉ found.waiting → Lost turns found.spans call.turn place
  paired : ∀ pair ∈ own.spans, pair ∈ found.spans ∨ Lost turns found.spans pair.call pair.result

section Abreast

variable {turns : List Turn} {place : Nat} {found own : Matching}

lemma toolAt_of_part {part : Part} (hpart : (partsOf turns)[place]? = some part) :
    toolAt turns place = part.tool? := by
  unfold toolAt
  rw [hpart, Option.bind_some]

lemma Abreast.pass (h : Abreast turns place found own) : Abreast turns (place + 1) found own where
  tools := h.tools
  places call hcall := (h.places call hcall).trans (Nat.lt_succ_self place)
  sorted := h.sorted
  sortedFound := h.sortedFound
  subset := h.subset
  lost call hcall hnot := (h.lost call hcall hnot).mono (List.Subset.refl _) (Nat.le_succ place)
  paired := h.paired

lemma pairwise_snoc {waiting : List Waiting} {tool : Text}
    (hbefore : ∀ call ∈ waiting, call.turn < place)
    (hsorted : waiting.Pairwise fun first later => first.turn < later.turn) :
    (waiting ++ [(⟨tool, place⟩ : Waiting)]).Pairwise fun first later => first.turn < later.turn := by
  refine List.pairwise_append.mpr ⟨hsorted, List.pairwise_singleton _ _, ?_⟩
  intro call hcall later hlater
  rw [List.mem_singleton.mp hlater]
  exact hbefore call hcall

lemma Abreast.call (h : Abreast turns place found own) {tool : Text}
    (hplace : toolAt turns place = some tool) :
    Abreast turns (place + 1) { found with waiting := found.waiting ++ [⟨tool, place⟩] }
      { own with waiting := own.waiting ++ [⟨tool, place⟩] } where
  tools := by
    intro call hcall
    rcases List.mem_append.mp hcall with hold | hnew
    · exact h.tools call hold
    · rw [List.mem_singleton.mp hnew]
      exact hplace
  places := by
    intro call hcall
    rcases List.mem_append.mp hcall with hold | hnew
    · exact (h.places call hold).trans (Nat.lt_succ_self place)
    · rw [List.mem_singleton.mp hnew]
      exact Nat.lt_succ_self place
  sorted := pairwise_snoc h.places h.sorted
  sortedFound := pairwise_snoc (fun call hcall => h.places call (h.subset call hcall)) h.sortedFound
  subset call hcall := List.mem_append.mpr ((List.mem_append.mp hcall).imp_left (h.subset call))
  lost := by
    intro call hcall hnot
    rw [List.mem_append, not_or] at hnot
    rcases List.mem_append.mp hcall with hold | hnew
    · exact (h.lost call hold hnot.1).mono (List.Subset.refl _) (Nat.le_succ place)
    · exact absurd hnew hnot.2
  paired := h.paired

section Result

variable {tool : Text} {call oldest : Waiting} {rest others : List Waiting}

/-- A result finds no call of its own tool and is given one of another. -/
lemma Abreast.stray (h : Abreast turns place found own) (hplace : toolAt turns place = some tool)
    (hown : takeNamed? tool own.waiting = none)
    (hfound : takeAnswered? tool found.waiting = some (call, rest)) :
    Abreast turns (place + 1) ⟨rest, found.spans ++ [⟨call.turn, place⟩]⟩ own := by
  have htaken := takeAnswered_taken hfound
  have hsub := htaken.sublist
  have hmore : found.spans ⊆ found.spans ++ [⟨call.turn, place⟩] := List.subset_append_left _ _
  have hpass := h.pass
  refine ⟨hpass.tools, hpass.places, h.sorted, h.sortedFound.sublist hsub,
    fun other hother => h.subset other (hsub.subset hother), fun other hother hnot => ?_,
    fun pair hpair => (h.paired pair hpair).imp (@hmore pair) fun hlost => hlost.mono hmore le_rfl⟩
  by_cases hbefore : other ∈ found.waiting
  · obtain rfl : other = call := (htaken.eq_or_mem hbefore).resolve_right hnot
    refine lost_of_theft (List.mem_append_right _ List.mem_cons_self) ?_
    rw [hplace, h.tools other hother]
    exact fun hsame => takeNamed_eq_none hown other hother (Option.some.inj hsame).symm
  · exact (hpass.lost other hother hbefore).mono hmore le_rfl

lemma Abreast.oldest_taken (h : Abreast turns place found own)
    (hown : takeNamed? tool own.waiting = some (oldest, others))
    (hfound : takeAnswered? tool found.waiting = some (call, rest)) : oldest ∉ rest := by
  have hname := takeNamed_tool hown
  have htaken := takeAnswered_taken hfound
  intro hin
  rcases takeAnswered_cases hfound with hnamed | ⟨hnamed, -⟩
  · have hlater := takeNamed_oldest h.sortedFound hnamed oldest hin hname
    rcases (takeNamed_taken hown).eq_or_mem (h.subset call htaken.mem) with rfl | hother
    · exact Nat.lt_irrefl _ hlater
    · have hearlier := takeNamed_oldest h.sorted hown call hother (takeNamed_tool hnamed)
      omega
  · exact takeNamed_eq_none hnamed oldest (htaken.sublist.subset hin) hname

lemma Abreast.mem_others (h : Abreast turns place found own)
    (hown : takeNamed? tool own.waiting = some (oldest, others)) {other : Waiting}
    (hother : other ∈ found.waiting) (hne : other ≠ oldest) : other ∈ others :=
  ((takeNamed_taken hown).eq_or_mem (h.subset other hother)).resolve_left hne

lemma Abreast.paired_snoc (h : Abreast turns place found own) {more : List Span}
    (hmore : found.spans ⊆ more) {call : Nat}
    (hnew : ⟨call, place⟩ ∈ more ∨ Lost turns more call place) :
    ∀ pair ∈ own.spans ++ [⟨call, place⟩], pair ∈ more ∨ Lost turns more pair.call pair.result := by
  intro pair hpair
  rcases List.mem_append.mp hpair with hold | hlast
  · exact (h.paired pair hold).imp (@hmore pair) fun hlost => hlost.mono hmore le_rfl
  · rw [List.mem_singleton.mp hlast]
    exact hnew

/-- A result would be paired with a call of its tool, but no call is left. -/
lemma Abreast.missed (h : Abreast turns place found own)
    (hown : takeNamed? tool own.waiting = some (oldest, others))
    (hfound : takeAnswered? tool found.waiting = none) :
    Abreast turns (place + 1) found ⟨others, own.spans ++ [⟨oldest.turn, place⟩]⟩ := by
  have hmem := (takeNamed_taken hown).mem
  have hsub := (takeNamed_taken hown).sublist
  have hpass := h.pass
  have hgone : oldest ∉ found.waiting := by
    unfold takeAnswered? at hfound
    split at hfound
    case h_1 => contradiction
    case h_2 hnamed => exact fun hin => takeNamed_eq_none hnamed oldest hin (takeNamed_tool hown)
  refine ⟨fun other hother => h.tools other (hsub.subset hother),
    fun other hother => hpass.places other (hsub.subset hother), h.sorted.sublist hsub,
    h.sortedFound, fun other hother => h.mem_others hown hother ?_,
    fun other hother => hpass.lost other (hsub.subset hother),
    h.paired_snoc (List.Subset.refl _) (Or.inr (h.lost oldest hmem hgone))⟩
  rintro rfl
  exact hgone hother

/-- A result is paired with the oldest call of its tool, and is given that one or another. -/
lemma Abreast.answered (h : Abreast turns place found own) (hplace : toolAt turns place = some tool)
    (hown : takeNamed? tool own.waiting = some (oldest, others))
    (hfound : takeAnswered? tool found.waiting = some (call, rest)) :
    Abreast turns (place + 1) ⟨rest, found.spans ++ [⟨call.turn, place⟩]⟩
      ⟨others, own.spans ++ [⟨oldest.turn, place⟩]⟩ := by
  have hmem := (takeNamed_taken hown).mem
  have hsub := (takeNamed_taken hown).sublist
  have htaken := takeAnswered_taken hfound
  have hgone := h.oldest_taken hown hfound
  have hpass := h.pass
  have hmore : found.spans ⊆ found.spans ++ [⟨call.turn, place⟩] := List.subset_append_left _ _
  have hlast : (⟨call.turn, place⟩ : Span) ∈ found.spans ++ [⟨call.turn, place⟩] :=
    List.mem_append_right _ List.mem_cons_self
  have hlost : call ≠ oldest → Lost turns (found.spans ++ [⟨call.turn, place⟩]) oldest.turn place := by
    intro hne
    refine (h.lost oldest hmem fun hin => ?_).mono hmore le_rfl
    rcases htaken.eq_or_mem hin with hsame | hrest
    · exact hne hsame.symm
    · exact hgone hrest
  refine ⟨fun other hother => h.tools other (hsub.subset hother),
    fun other hother => hpass.places other (hsub.subset hother), h.sorted.sublist hsub,
    h.sortedFound.sublist htaken.sublist,
    fun other hother => h.mem_others hown (htaken.sublist.subset hother) ?_,
    fun other hother hnot => ?_, h.paired_snoc hmore ?_⟩
  · rintro rfl
    exact hgone hother
  · by_cases hbefore : other ∈ found.waiting
    · obtain rfl : other = call := (htaken.eq_or_mem hbefore).resolve_right hnot
      have htool := h.tools other (hsub.subset hother)
      -- The call was taken in place of an older one of its tool, or is stolen just now.
      rcases takeAnswered_cases hfound with hnamed | ⟨hnamed, -⟩
      · have hsame := takeNamed_tool hnamed
        have hlater := takeNamed_oldest h.sorted hown other hother hsame
        have hne : other ≠ oldest := by
          rintro rfl
          exact Nat.lt_irrefl _ hlater
        refine (hlost hne).next hlast hlater.le ?_
        rw [h.tools oldest hmem, htool, takeNamed_tool hown, hsame]
      · refine lost_of_theft hlast ?_
        rw [hplace, htool]
        exact fun hsame => takeNamed_eq_none hnamed other hbefore (Option.some.inj hsame).symm
    · exact (hpass.lost other (hsub.subset hother) hbefore).mono hmore le_rfl
  · by_cases hsame : call = oldest
    · rw [hsame]
      exact Or.inl (List.mem_append_right _ List.mem_cons_self)
    · exact Or.inr (hlost hsame)

end Result

lemma Abreast.read (h : Abreast turns place found own) {part : Part}
    (hpart : (partsOf turns)[place]? = some part) :
    Abreast turns (place + 1) (found.readBy takeAnswered? place part)
      (own.readBy takeNamed? place part) := by
  have hplace := toolAt_of_part hpart
  cases part with
  | text t => exact h.pass
  | other payload => exact h.pass
  | call tool args => exact h.call hplace
  | result tool value =>
    simp only [Matching.readBy]
    cases hown : takeNamed? tool own.waiting with
    | none =>
      cases hfound : takeAnswered? tool found.waiting with
      | none => exact h.pass
      | some taken => exact h.stray hplace hown hfound
    | some oldest =>
      cases hfound : takeAnswered? tool found.waiting with
      | none => exact h.missed hown hfound
      | some taken => exact h.answered hplace hown hfound

end Abreast

/-- A result answers the oldest call of its tool that has no result of that tool yet, unless that call
has been lost. -/
theorem namesakes_answered {turns : List Turn} {pair : Span} (h : pair ∈ namesakes turns) :
    pair ∈ answers turns ∨ Lost turns (answers turns) pair.call pair.result := by
  have hstart : Abreast turns 0 {} {} :=
    ⟨by simp, by simp, .nil, .nil, by simp, by simp, by simp⟩
  have hall := readPartsBy_induction hstart fun _ _ _ _ hpart habreast => habreast.read hpart
  exact hall.paired pair h

/-- As long as no call of its tool is stolen, a result stays with the oldest call of its tool that has
no result of that tool yet. A boundary that separates the two lies behind an earlier result, to which
the call was given. -/
theorem namesakes_stay_together (turns : List Turn) (wanted : Int) {pair : Span}
    (hpair : pair ∈ namesakes turns) :
    (¬Stolen turns (answers turns) pair.call pair.result →
      (pair.inTurns turns).encloses (safeBoundary turns wanted) = false) ∧
    ((pair.inTurns turns).encloses (safeBoundary turns wanted) = true →
      ∃ answer ∈ answers turns, answer.call = pair.call ∧ answer.result < pair.result ∧
        turnAt turns answer.result < safeBoundary turns wanted) := by
  have hclear : ∀ answer ∈ answers turns,
      (answer.inTurns turns).encloses (safeBoundary turns wanted) = false := by
    intro answer hanswer
    apply (safeBoundary_safe turns wanted).clears
    rw [spans_eq_answers]
    exact List.mem_map_of_mem hanswer
  rcases namesakes_answered hpair with hanswered | ⟨⟨answer, hanswer, hcall, hearlier⟩, hstolen⟩
  · have htogether := hclear pair hanswered
    exact ⟨fun _ => htogether, fun hapart => by rw [htogether] at hapart; contradiction⟩
  · refine ⟨fun hnot => absurd hstolen hnot, fun hapart => ⟨answer, hanswer, hcall, hearlier, ?_⟩⟩
    obtain ⟨hbehind, -⟩ := inTurns_encloses.mp hapart
    by_contra hnot
    have hinside : (answer.inTurns turns).encloses (safeBoundary turns wanted) = true :=
      inTurns_encloses.mpr ⟨by rwa [hcall], Nat.le_of_not_lt hnot⟩
    rw [hclear answer hanswer] at hinside
    contradiction

/-- A call whose result comes behind a result of another tool that was never called. -/
def strayResult : List Turn := [
  ⟨"assistant", [.call "x" .null]⟩, ⟨"tool", [.result "y" .null]⟩, .ofText "user" "wait",
  ⟨"tool", [.result "x" .null]⟩]

/-- The stray result is given the call, and so the call's own result is cut off from it. -/
theorem strayResult_separates :
    ¬∀ pair ∈ namesakes strayResult,
      (pair.inTurns strayResult).encloses (safeBoundary strayResult 3) = false := by
  intro h
  have htogether := h ⟨0, 3⟩ (by decide)
  have hapart : (Span.inTurns strayResult ⟨0, 3⟩).encloses (safeBoundary strayResult 3) = true := by
    decide +kernel
  rw [htogether] at hapart
  contradiction

/-- A stray result takes the first of two calls, and both have results of their own later. -/
def robbedCalls : List Turn := [
  ⟨"assistant", [.text "look", .call "z" .null]⟩, ⟨"tool", [.result "y" .null]⟩,
  .ofText "user" "wait", ⟨"assistant", [.text "again", .call "x" .null]⟩, .ofText "user" "and",
  ⟨"tool", [.result "x" .null]⟩, ⟨"tool", [.result "z" .null]⟩]

theorem robbedCalls_keep_one :
    let bound := safeBoundary robbedCalls 5
    (⟨5, 7⟩ : Span) ∈ namesakes robbedCalls ∧ (⟨1, 8⟩ : Span) ∈ namesakes robbedCalls ∧
      ¬Stolen robbedCalls (answers robbedCalls) 5 7 ∧
      (Span.inTurns robbedCalls ⟨5, 7⟩).encloses bound = false ∧
      (Span.inTurns robbedCalls ⟨1, 8⟩).encloses bound = true ∧
      ∃ answer ∈ answers robbedCalls, answer.call = 1 ∧ answer.result < 8 ∧
        turnAt robbedCalls answer.result < bound := by
  intro bound
  have hkept : (⟨5, 7⟩ : Span) ∈ namesakes robbedCalls := by decide
  have hcut : (⟨1, 8⟩ : Span) ∈ namesakes robbedCalls := by decide
  have hnot : ¬Stolen robbedCalls (answers robbedCalls) 5 7 := by
    unfold Stolen
    decide
  have hapart : (Span.inTurns robbedCalls ⟨1, 8⟩).encloses bound = true := by decide +kernel
  exact ⟨hkept, hcut, hnot, (namesakes_stay_together robbedCalls 5 hkept).1 hnot, hapart,
    (namesakes_stay_together robbedCalls 5 hcut).2 hapart⟩

end Proofs

end Condense
