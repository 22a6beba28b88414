import Condense.Proofs.OwnLists
import Condense.Proofs.StoreWrites

/-!
# Calls and results across a compaction

A compaction leaves out the turns in front of a safe boundary and puts a summary in their place.
Calls and results behind the boundary stay matched as they were, and no call is separated from its
result: in the turns as they are cut, and in the turns as they were given too, unless a summary has
been put in the meantime in place of a first turn that calls a tool.
-/

namespace Condense.Proofs
open Summary

/-- A span behind a boundary, once a single turn stands in place of what was in front of it. -/
def reindex (bound : Nat) (span : Span) : Span := ⟨span.call - bound + 1, span.result - bound + 1⟩

/-- `after` is `lead` in front of the turns of `before` from a boundary on. Its spans are those of
`before` behind the boundary, a call and its result are on the same side of it, and the kept turns
do not begin with a result. -/
structure KeepsSpans (before : List Turn) (bound : Nat) (lead : Turn) (after : List Turn) :
    Prop where
  after_eq : after = lead :: before.drop bound
  spans_eq : spans after =
    ((spans before).filter fun span => bound ≤ span.call).map (reindex bound)
  whole : ∀ span ∈ spans before,
    bound ≤ span.call ∧ bound ≤ span.result ∨ span.call < bound ∧ span.result < bound
  opens : ∀ first, (before.drop bound).head? = some first → first.hasResult = false

lemma spans_cons {lead : Turn} (h : lead.hasCall = false) (turns : List Turn) :
    spans (lead :: turns) = (spans turns).map (Span.shift 1) := by
  have hread : ∀ parts : List Part, parts.any Part.isCall = false →
      parts.foldl (fun matching part => matching.read 0 part) ({} : Matching) = {} := by
    intro parts
    induction parts with
    | nil => exact fun _ => rfl
    | cons part parts ih =>
      intro hparts
      rw [List.any_cons, Bool.or_eq_false_iff] at hparts
      cases part with
      | call tool args => cases hparts.1
      | text t => exact ih hparts.2
      | other payload => exact ih hparts.2
      | result tool value => exact ih hparts.2
  have hlead : Matching.readTurn {} 0 lead = {} := hread lead.parts h
  have hshift := readTurns_shift 1 {} 0 turns
  unfold spans
  rw [Matching.readTurns, hlead]
  exact congrArg Matching.spans hshift

/-- Behind the boundary the spans are those of the turns that stay. -/
lemma filter_spans {before : List Turn} {bound : Nat} (h : Safe before bound) :
    (spans before).filter (fun span => bound ≤ span.call) =
      (spans (before.drop bound)).map (Span.shift bound) := by
  have hearly : (spans (before.take bound)).filter (fun span => bound ≤ span.call) = [] := by
    apply List.filter_eq_nil_iff.mpr
    intro span hspan
    have hle := call_le_result hspan
    have hlt := result_lt_length hspan
    rw [List.length_take_of_le h.le_length] at hlt
    simp only [decide_eq_true_eq]
    omega
  have hlate : ((spans (before.drop bound)).map (Span.shift bound)).filter
      (fun span => bound ≤ span.call) = (spans (before.drop bound)).map (Span.shift bound) := by
    apply List.filter_eq_self.mpr
    intro span hspan
    obtain ⟨inner, -, rfl⟩ := List.mem_map.mp hspan
    simp [Span.shift]
  rw [spans_cut h, List.filter_append, hearly, hlate, List.nil_append]

/-- At a boundary behind which no result stands, the spans are kept if none of them is cut. -/
lemma keepsSpans_iff {before : List Turn} {bound : Nat} {lead : Turn} (hlead : lead.hasCall = false)
    (hle : bound ≤ before.length)
    (hopens : ∀ first, (before.drop bound).head? = some first → first.hasResult = false) :
    KeepsSpans before bound lead (lead :: before.drop bound) ↔
      ∀ span ∈ spans before, span.encloses bound = false := by
  constructor
  · intro h span hspan
    have hwhole := h.whole span hspan
    simp only [Span.encloses, Bool.and_eq_false_iff, decide_eq_false_iff_not]
    omega
  · intro hclear
    have hsafe : Safe before bound := by
      rcases Nat.lt_or_eq_of_le hle with hlt | hend
      · refine Or.inr (Or.inr ⟨hlt, hclear, ?_⟩)
        rw [List.head?_drop, List.getElem?_eq_getElem hlt] at hopens
        unfold opensWithResult
        rw [List.getElem?_eq_getElem hlt]
        exact hopens _ rfl
      · exact Or.inr (Or.inl hend)
    refine ⟨rfl, ?_, fun span hspan => ?_, hopens⟩
    · rw [spans_cons hlead, filter_spans hsafe, List.map_map]
      apply List.map_congr_left
      intro span _
      simp [reindex, Span.shift]
    · have hle := call_le_result hspan
      have hoff := hclear span hspan
      simp only [Span.encloses, Bool.and_eq_false_iff, decide_eq_false_iff_not] at hoff
      omega

lemma KeepsSpans.of_safe {before : List Turn} {bound : Nat} (h : Safe before bound)
    (hpos : 0 < bound) {lead : Turn} (hlead : lead.hasCall = false) :
    KeepsSpans before bound lead (lead :: before.drop bound) :=
  (keepsSpans_iff hlead h.le_length fun _ hfirst => h.head_drop hpos hfirst).mpr h.clears

lemma keepsSpans_cons {front lead : Turn} {turns after : List Turn} {bound : Nat}
    (hfront : front.hasCall = false) :
    KeepsSpans (front :: turns) (bound + 1) lead after ↔ KeepsSpans turns bound lead after := by
  have hspans : ((spans (front :: turns)).filter fun span => bound + 1 ≤ span.call).map
      (reindex (bound + 1)) =
        ((spans turns).filter fun span => bound ≤ span.call).map (reindex bound) := by
    have hsame : ((fun span : Span => decide (bound + 1 ≤ span.call)) ∘ Span.shift 1) =
        fun span => decide (bound ≤ span.call) := by
      funext span
      simp [Span.shift]
    rw [spans_cons hfront, List.filter_map, List.map_map, hsame]
    apply List.map_congr_left
    intro span _
    simp [reindex, Span.shift]
  constructor
  · intro h
    refine ⟨h.after_eq, h.spans_eq.trans hspans, ?_, h.opens⟩
    intro span hspan
    have hmem : Span.shift 1 span ∈ spans (front :: turns) := by
      rw [spans_cons hfront]
      exact List.mem_map_of_mem hspan
    have hwhole := h.whole _ hmem
    simp only [Span.shift] at hwhole
    omega
  · intro h
    refine ⟨h.after_eq, h.spans_eq.trans hspans.symm, ?_, h.opens⟩
    intro span hspan
    rw [spans_cons hfront] at hspan
    obtain ⟨inner, hinner, rfl⟩ := List.mem_map.mp hspan
    have hwhole := h.whole inner hinner
    simp only [Span.shift]
    omega

/-- The turns begin with one that counts as a summary and yet calls a tool. -/
def ledByCall (turns : List Turn) : Bool :=
  turns.head?.any fun first => isSummary first && first.hasCall

/-- The turns that are kept have been given. -/
lemma Fronted.kept {turns before : List Turn} (h : Fronted turns before) {bound : Nat}
    (hpos : 0 < bound) : before.drop bound <:+ turns := by
  obtain ⟨kept, rfl⟩ : ∃ kept, bound = kept + 1 := ⟨bound - 1, by omega⟩
  cases h with
  | same => exact List.drop_suffix _ turns
  | added => exact List.drop_suffix kept turns
  | @renewed summary first rest =>
    exact (List.drop_suffix kept rest).trans (List.suffix_cons first rest)

/-- What has been shown of turns with a summary in front holds of the turns as they were given,
unless the summary took the place of a turn that calls a tool. -/
lemma KeepsSpans.of_fronted {turns before after : List Turn} {bound : Nat} {lead : Turn}
    (hfronted : Fronted turns before) (hpos : 0 < bound) (hle : bound ≤ before.length)
    (h : KeepsSpans before bound lead after)
    (hcalls : ledByCall turns = false ∨ ∃ summary, before = inject summary turns) :
    KeepsSpans turns (turns.length - (before.drop bound).length) lead after := by
  obtain ⟨kept, rfl⟩ : ∃ kept, bound = kept + 1 := ⟨bound - 1, by omega⟩
  cases hfronted with
  | same =>
    have hbound : turns.length - (turns.drop (kept + 1)).length = kept + 1 := by
      rw [List.length_drop]
      omega
    rw [hbound]
    exact h
  | @added summary _ hsummary hbare =>
    have hbound : turns.length - ((turnOf summary :: turns).drop (kept + 1)).length = kept := by
      rw [List.drop_succ_cons, List.length_drop]
      rw [List.length_cons] at hle
      omega
    rw [hbound]
    exact (keepsSpans_cons rfl).mp h
  -- What a call in the overwritten turn matched is not known any more.
  | @renewed summary first rest _ hfirst =>
    have hcall : first.hasCall = false := by
      rcases hcalls with hhead | ⟨other, hother⟩
      · have hboth : (isSummary first && first.hasCall) = false := hhead
        rwa [hfirst, Bool.true_and] at hboth
      · have hled : isLed (first :: rest) = true := hfirst
        rw [inject_of_isLed other hled] at hother
        rw [← (List.cons.inj hother).1]
        rfl
    have hbound : (first :: rest).length - ((turnOf summary :: rest).drop (kept + 1)).length =
        kept + 1 := by
      rw [List.drop_succ_cons, List.length_drop]
      rw [List.length_cons] at hle ⊢
      omega
    rw [hbound]
    exact (keepsSpans_cons hcall).mpr ((keepsSpans_cons rfl).mp h)

/-- `after` is what a compaction has made of `turns`: a summary in front of as many of them as it
kept, of which the first one carries no result. In the turns as they were cut, perhaps behind
another summary, the spans are kept. So they are in the turns as they were given, if and only if none
of them is cut, and that can happen to the threshold strategy only, with turns that are led by a
call. -/
structure Shortens (strategy : Strategy) (turns : List Turn) (result : Compaction)
    (after : List Turn) : Prop where
  after_eq : after = turnOf result.summary.plain :: turns.drop (turns.length - result.kept)
  opens : ∀ first, (turns.drop (turns.length - result.kept)).head? = some first →
    first.hasResult = false
  cut : ∃ before bound, Fronted turns before ∧
    KeepsSpans before bound (turnOf result.summary.plain) after
  keeps_iff : KeepsSpans turns (turns.length - result.kept) (turnOf result.summary.plain) after ↔
    ∀ span ∈ spans turns, span.encloses (turns.length - result.kept) = false
  keeps : (ledByCall turns = false ∨ ∀ settings, strategy ≠ .threshold settings) →
    KeepsSpans turns (turns.length - result.kept) (turnOf result.summary.plain) after

section Shortening

variable {settings : Settings} {strategy : Strategy} {call : Call} {previous : Text} {looks : Looks}
  {turns before : List Turn} {bound : Nat} {job : Job} {result : Compaction} {summary : Value}

/-- The spans are kept in the turns that are cut. -/
lemma Prepared.keepsSpans (hjob : Prepared settings call previous before bound job)
    (summary : Value) :
    KeepsSpans before bound (turnOf summary.plain) (job.compacted summary) := by
  have hlead : (turnOf summary.plain).hasCall = false := rfl
  have hkeeps := KeepsSpans.of_safe hjob.safe hjob.pos hlead
  rw [← hjob.kept] at hkeeps
  exact hkeeps

lemma Prepared.keepsSpans_given (hjob : Prepared settings call previous before bound job)
    (hfronted : Fronted turns before)
    (hcalls : ledByCall turns = false ∨ ∃ summary, before = inject summary turns)
    (hresult : job.result call summary = .ok result) :
    KeepsSpans turns (turns.length - result.kept) (turnOf result.summary.plain)
      (job.compacted summary) := by
  have hkeeps := (hjob.keepsSpans summary).of_fronted hfronted hjob.pos hjob.safe.le_length hcalls
  rw [← hjob.kept] at hkeeps
  rw [hjob.result_eq] at hresult
  cases hresult
  exact hkeeps

lemma Prepared.shortens
    (hjob : Prepared strategy.settings call looks.second.summary (cutTurns strategy looks turns)
      bound job)
    (hresult : job.result call summary = .ok result) :
    Shortens strategy turns result (job.compacted summary) := by
  have hfronted := cutTurns_fronted strategy looks turns
  have hcut := hjob.keepsSpans summary
  have hgiven := fun hcalls => hjob.keepsSpans_given hfronted hcalls hresult
  have hopens := hcut.opens
  have hsuffix := hfronted.kept hjob.pos
  rw [← hjob.kept] at hopens hsuffix
  rw [hjob.result_eq] at hresult
  cases hresult
  rw [List.suffix_iff_eq_drop] at hsuffix
  have hafter : job.compacted summary =
      turnOf summary.plain :: turns.drop (turns.length - job.kept.length) := by
    rw [← hsuffix]
    rfl
  rw [hsuffix] at hopens
  refine ⟨hafter, hopens, ⟨_, bound, hfronted, hcut⟩, ?_, fun hcalls => hgiven ?_⟩
  · rw [hafter]
    exact keepsSpans_iff rfl (Nat.sub_le _ _) hopens
  · refine hcalls.imp_right fun hwindow => ?_
    cases strategy with
    | threshold settings => exact absurd rfl (hwindow settings)
    | slidingWindow settings limit positive => exact ⟨[], rfl⟩

end Shortening

lemma cutTurns_of_same (strategy : Strategy) {looks : Looks} (turns : List Turn)
    (h : looks.second.summary = looks.first.summary) :
    ∃ summary, cutTurns strategy looks turns = inject summary turns := by
  cases strategy with
  | threshold settings => exact ⟨_, if_pos h⟩
  | slidingWindow settings limit positive => exact ⟨[], rfl⟩

/-- The spans of a conversation are those in front of any boundary that is chosen and those behind
it, and they survive a compaction: always in the turns that are cut, and in the turns as they were
given if none of their own spans is cut. The two differ only if the threshold strategy finds another
summary at its second look than at its first, because a look has been refused or because another call
has compacted in between, and puts it in place of a first turn that counts as a summary and calls a
tool. -/
theorem compaction_keeps_spans (installed : Installed) (turns : List Turn) :
    (∀ wanted : Int,
      spans turns = spans (turns.take (safeBoundary turns wanted)) ++
        (spans (turns.drop (safeBoundary turns wanted))).map
          (Span.shift (safeBoundary turns wanted))) ∧
    (∀ (registry : Registry) (call : Call) (provider : Request → Reply) (store : Store)
      (result : Compaction),
      let run := installed.strategy.compact registry call provider turns store
      let looks := looksAt call.agent store
      run.outcome = .ok (some result) →
      Shortens installed.strategy turns result run.turns ∧
        (looks.second.summary = looks.first.summary →
          KeepsSpans turns (turns.length - result.kept) (turnOf result.summary.plain)
            run.turns)) ∧
    ∀ (pool : Pool) (id : Nat) (task : Task),
      pool.tasks[id]? = some task → task.guarded = false → task.installed = some installed →
      task.phase.isReady = true → OwnList pool id task.list → pool.world.turns task.list = turns →
      ∀ (moves : List Move) (result : Compaction),
      phase? (pool.run moves) id = some (.finished (.ok (some result))) →
      Shortens installed.strategy turns result ((pool.run moves).world.turns task.list) := by
  refine ⟨fun wanted => spans_cut (safeBoundary_safe turns wanted), ?_, ?_⟩
  · intro registry call provider store result
    have hcourse := compact_course installed.strategy registry call provider turns store
    dsimp only
    generalize installed.strategy.compact registry call provider turns store = run at hcourse ⊢
    generalize looksAt call.agent store = looks at hcourse ⊢
    intro houtcome
    cases hcourse with
    | @compacted notices bound job hjob summary found hsummary hresult =>
      obtain rfl : found = result := Option.some.inj (Except.ok.inj houtcome)
      refine ⟨hjob.shortens hresult, fun hsame => ?_⟩
      have hfronted := cutTurns_fronted installed.strategy looks turns
      have hinjected := cutTurns_of_same installed.strategy turns hsame
      exact hjob.keepsSpans_given hfronted (Or.inr hinjected) hresult
    | _ => cases houtcome
  · rintro pool id task htask hdirect hinstalled hready hown rfl moves result hends
    have hpursued := (pursued_start htask hdirect hinstalled hready hown).run moves
    obtain ⟨before, phase, hnow, hstands⟩ := hpursued.now
    rw [phase?, hnow] at hends
    obtain rfl : phase = .finished (.ok (some result)) := Option.some.inj hends
    obtain ⟨looks, bound, job, summary, hjob, hresult, hafter⟩ := hstands
    rw [show task.list = (errandOf task).list from rfl, hafter]
    exact hjob.shortens hresult

/-- A conversation with a call that is never answered and two that are, the later one first. -/
def nestedCalls : List Turn := [
  .ofText "user" "a", ⟨"assistant", [.call "z" .null]⟩, ⟨"assistant", [.call "x" .null]⟩,
  ⟨"assistant", [.call "y" .null]⟩, ⟨"tool", [.result "y" .null]⟩, ⟨"tool", [.result "x" .null]⟩,
  .ofText "user" "b"]

/-- Turns of which the first one quotes the marker of a summary and calls a tool. -/
def markedTurns : List Turn := [
  ⟨"user", [.text (openingMarker ++ " is what it says"), .call "x" .null]⟩,
  .ofText "assistant" "one two three", .ofText "user" "four five six", .ofText "assistant" "wait",
  ⟨"tool", [.result "x" .null]⟩, .ofText "user" "seven"]

def markedCall (list : Text) : Task where
  call := { agent := "a" }
  list := list
  store := "s"
  installed := some ⟨0, .threshold wholeSettings⟩
  guarded := false

/-- Two calls of one agent, each on a list of its own. -/
def markedPool : Pool where
  world := {
    lists := [("t", [.ofText "user" "one two three", .ofText "user" "four five six",
      .ofText "user" "seven", .ofText "user" "eight"]), ("u", markedTurns)]
    stores := [("s", .empty)]
    otherwise := .answer { content := .text "S" } }
  tasks := [markedCall "t", markedCall "u"]

/-- The result of a call that has come to its end. -/
def resultOf? (pool : Pool) (id : Nat) : Option Compaction :=
  match phase? pool id with
  | some (.finished (.ok result)) => result
  | _ => none

lemma phase?_of_resultOf? {pool : Pool} {id : Nat} {result : Compaction}
    (h : resultOf? pool id = some result) :
    phase? pool id = some (.finished (.ok (some result))) := by
  unfold resultOf? at h
  split at h
  case h_1 found hphase => rw [hphase, h]
  case h_2 => contradiction

/-- By itself a compaction keeps its pairs. The second call of the pool waits for the first one, and
then the summary takes the place of the turn that calls the tool, so that the result stays without
its call. -/
theorem nestedCalls_keep_spans :
    (let run := (Strategy.sliding wholeSettings 2).compact {} { agent := "a" }
      (fun _ => .answer { content := .text "S" }) nestedCalls .empty
    ∃ result, run.outcome = .ok (some result) ∧ spans run.turns = [⟨2, 3⟩, ⟨1, 4⟩] ∧
      KeepsSpans nestedCalls (nestedCalls.length - result.kept) (turnOf result.summary.plain)
        run.turns) ∧
    let after := markedPool.run ([0, 0, 1, 1, 0, 0, 0, 0, 1, 1, 1, 1].map .step)
    ∃ result, phase? after 1 = some (.finished (.ok (some result))) ∧
      Shortens (.threshold wholeSettings) markedTurns result (after.world.turns "u") ∧
      spans markedTurns = [⟨0, 4⟩] ∧ spans (after.world.turns "u") = [] ∧
      ((after.world.turns "u").any Turn.hasResult) = true ∧
      ¬KeepsSpans markedTurns (markedTurns.length - result.kept) (turnOf result.summary.plain)
        (after.world.turns "u") := by
  constructor
  · have hsome : (compaction? ((Strategy.sliding wholeSettings 2).compact {} { agent := "a" }
        (fun _ => .answer { content := .text "S" }) nestedCalls .empty)).isSome = true := by
      decide +kernel
    obtain ⟨result, hresult⟩ := exists_compaction hsome
    obtain ⟨hshortens, -⟩ :=
      (compaction_keeps_spans ⟨0, .sliding wholeSettings 2⟩ nestedCalls).2.1 _ _ _ _ _ hresult
    exact ⟨result, hresult, by decide +kernel, hshortens.keeps (Or.inl rfl)⟩
  · intro after
    have hkept : (resultOf? after 1).map Compaction.kept = some 3 := by decide +kernel
    obtain ⟨result, hresult, hthree⟩ := Option.map_eq_some_iff.mp hkept
    have hphase := phase?_of_resultOf? hresult
    have hshortens : Shortens (.threshold wholeSettings) markedTurns result
        (after.world.turns "u") :=
      (compaction_keeps_spans ⟨0, .threshold wholeSettings⟩ markedTurns).2.2 markedPool 1 _ rfl
        rfl rfl rfl (ownList_of_nodup rfl (by decide)) rfl _ _ hphase
    have hspans : spans markedTurns = [⟨0, 4⟩] := by decide +kernel
    refine ⟨result, hphase, hshortens, hspans, by decide +kernel, by decide +kernel, ?_⟩
    rw [hshortens.keeps_iff, hspans, hthree]
    decide

end Condense.Proofs
