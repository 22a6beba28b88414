import Condense.Proofs.ReliableReads
import Condense.Proofs.WindowCounts

/-!
# Hosts that keep the full history

A host may keep its conversation in full and hand a sliding window a fresh list before every call, at
least as long as the one before. Whatever fails, the turns that the window has counted only grow, as
far as the list at the most, and two compactions that are counted lie more than the limit apart.
-/

namespace Condense.Proofs
open Json Summary

/-- A store that gives out what was written last: it refuses no look at an agent's record, and a file
is not its own lock and can spell the agent's name. Single writes may fail. -/
inductive Retains (agent : Text) : Store → Prop where
  | table {table : MemoryStore}
      (h : ∀ count key, table.refuses count (.read agent key) = false) :
      Retains agent (.memory table)
  | file {file : FileStore} (happart : file.isOwnLock = false)
      (hspell : isSpellable agent = true) : Retains agent (.file file)

/-- A store after a value was given to it: the value stands in its place, or nothing has changed. -/
structure Tried (agent key : Text) (v : Value) (store after : Store) : Prop where
  retains : Retains agent after
  held : ∀ place, found? place after = found? place store ∨
    place = stateKey agent key ∧ ∃ kept, found? place after = some kept ∧ (kept = v ∨ kept = respelled v)

section Retains

variable {agent : Text} {store after : Store}

lemma Retains.grants (h : Retains agent store) : GrantsReads agent store := by
  cases h with
  | table hreads => exact hreads
  | file happart hspell => trivial

lemma Retains.read (h : Retains agent store) (hread : Consulted store after) :
    Retains agent after := by
  cases h with
  | table hreads =>
    cases hread with
    | memory _ _ => exact .table hreads
  | file happart hspell =>
    cases hread with
    | file _ => exact .file happart hspell
    | emptied _ hown _ => cases happart.symm.trans hown

/-- Whatever a file holds, a write puts the value in its place or changes nothing. -/
lemma set_file {file : FileStore} (happart : file.isOwnLock = false)
    (hspell : isSpellable agent = true) {key : Text} (hkey : isSpellable key = true) {v : Value}
    (hleaf : Leaf v) :
    ∃ notices after result, file.set agent key v = (notices, after, result) ∧
      Tried agent key v (.file file) (.file after) := by
  obtain ⟨notices, after, result, hset, hpath, hheld⟩ := set_apart happart agent key hleaf
  have hafter : after.isOwnLock = false := (isOwnLock_congr hpath).trans happart
  have hname : isSpellable (entryName agent key) = true := isSpellable_entryName hspell hkey
  refine ⟨notices, after, result, hset, .file hafter hspell, fun place => ?_⟩
  rcases hheld with hsame | hput
  · exact Or.inl (hsame place)
  · rw [hput, respell_of_isSpellable hname]
    split
    case isTrue hplace => exact Or.inr ⟨hplace, _, rfl, Or.inr rfl⟩
    case isFalse => exact Or.inl rfl

lemma Retains.keep (h : Retains agent store) {key : Text} (hkey : key ∈ recordKeys) (label : Text)
    {v : Value} (hleaf : Leaf v) :
    Tried agent key v store (Record.keep agent key label v store).2 := by
  cases h with
  | @table table hreads =>
    rw [keep_memory]
    refine ⟨.table ?_, fun place => ?_⟩
    · rw [set_refuses]
      exact hreads
    · unfold MemoryStore.set
      split
      · exact Or.inl rfl
      · unfold found?
        dsimp only
        rw [stateKey, get?_put_text]
        split
        case isTrue hsame => exact Or.inr ⟨hsame, _, rfl, Or.inl rfl⟩
        case isFalse => exact Or.inl rfl
  | @file file happart hspell =>
    obtain ⟨notices, after, result, hset, htried⟩ :=
      set_file happart hspell (isSpellable_recordKey hkey) hleaf
    unfold Record.keep Store.set
    dsimp only
    rw [hset]
    cases result with
    | error why => exact htried
    | ok done => exact htried

lemma Retains.found?_keep (h : Retains agent store) {key other : Text} (hkey : key ∈ recordKeys)
    (hother : other ∈ recordKeys) (hne : key ≠ other) (label : Text) {v : Value} (hleaf : Leaf v) :
    found? (stateKey agent other) (Record.keep agent key label v store).2 =
      found? (stateKey agent other) store := by
  rcases (h.keep hkey label hleaf).held (stateKey agent other) with hsame | ⟨hplace, -⟩
  · exact hsame
  · exact absurd (stateKey_inj hother hkey hplace).2.symm hne

/-- The turns that a sliding window has counted. -/
def mark (agent : Text) (store : Store) : Nat := (recordIn agent store).turnsAt

lemma Retains.mark_eq (h : Retains agent store) :
    mark agent store =
      Record.counter ((found? (stateKey agent Record.turnsAtKey) store).getD .null) := by
  unfold mark
  rw [h.grants.recordIn]
  rfl

lemma Retains.mark_read (h : Retains agent store) (hread : Consulted store after) :
    mark agent after = mark agent store := by
  unfold mark
  rw [h.grants.recordIn_read hread]

lemma Retains.mark_keep (h : Retains agent store) {key : Text} (hkey : key ∈ recordKeys)
    (hother : key ≠ Record.turnsAtKey) (label : Text) {v : Value} (hleaf : Leaf v) :
    mark agent (Record.keep agent key label v store).2 = mark agent store := by
  rw [(h.keep hkey label hleaf).retains.mark_eq, h.mark_eq,
    h.found?_keep hkey turnsAtKey_mem hother label hleaf]

lemma Retains.saveSummary (h : Retains agent store) (job : Job) {summary : Value}
    (hleaf : Leaf summary) :
    Retains agent (job.saveSummary agent summary store).2 ∧
      mark agent (job.saveSummary agent summary store).2 = mark agent store := by
  have hsummary := (h.keep summaryKey_mem "summary" hleaf).retains
  have htokens := hsummary.keep summarizedAtKey_mem "token count" (.int job.answered)
  refine ⟨htokens.retains, ?_⟩
  calc mark agent (job.saveSummary agent summary store).2
      = mark agent (Record.keep agent Record.summaryKey "summary" summary store).2 :=
        hsummary.mark_keep summarizedAtKey_mem (by decide) "token count" (.int job.answered)
    _ = mark agent store := h.mark_keep summaryKey_mem (by decide) "summary" hleaf

/-- The number of turns is counted or it is not; the summary does not matter to that. -/
lemma Retains.saved (h : Retains agent store) {job : Job} {count : Nat}
    (hcount : job.turnCount = some count) {summary : Value} (hleaf : Leaf summary) :
    Retains agent (savedIn agent job summary store) ∧
      (mark agent (savedIn agent job summary store) = mark agent store ∨
        mark agent (savedIn agent job summary store) = count) := by
  obtain ⟨hsummary, hsame⟩ := h.saveSummary job hleaf
  have hsaved : savedIn agent job summary store = (Record.keep agent Record.turnsAtKey
      "turn count watermark" (.int count) (job.saveSummary agent summary store).2).2 := by
    unfold savedIn Job.saveTurns
    rw [hcount]
    rfl
  rw [hsaved, ← hsame]
  generalize (job.saveSummary agent summary store).2 = before at hsummary
  have hturns := hsummary.keep turnsAtKey_mem "turn count watermark" (.int count)
  refine ⟨hturns.retains, ?_⟩
  rw [hturns.retains.mark_eq, hsummary.mark_eq]
  rcases hturns.held (stateKey agent Record.turnsAtKey) with hstays | ⟨-, kept, hkept, hvalue⟩
  · rw [hstays]
    exact Or.inl rfl
  · obtain rfl : kept = .int count := hvalue.elim id id
    rw [hkept]
    exact Or.inr (Int.toNat_natCast count)

end Retains

/-- A call of the host: the list that it hands over, and what it finds around it. -/
structure Visit where
  turns : List Turn
  registry : Registry := {}
  system : Text := []
  model : Text := []
  provider : Request → Reply

def Visit.run (visit : Visit) (strategy : Strategy) (agent : Text) (store : Store) :
    Run (Option Compaction) :=
  strategy.compact visit.registry ⟨agent, visit.system, visit.model⟩ visit.provider visit.turns store

def visited (strategy : Strategy) (agent : Text) (store : Store) (visits : List Visit) : Store :=
  visits.foldl (fun store visit => (visit.run strategy agent store).store) store

/-- A visit compacts, and the turns of its list are counted. -/
def Visit.Counts (visit : Visit) (strategy : Strategy) (agent : Text) (store : Store) : Prop :=
  (∃ result, (visit.run strategy agent store).outcome = .ok (some result)) ∧
    mark agent (visit.run strategy agent store).store = visit.turns.length

lemma compaction?_isSome {run : Run (Option Compaction)} :
    (compaction? run).isSome = true ↔ ∃ result, run.outcome = .ok (some result) := by
  refine ⟨exists_compaction, ?_⟩
  rintro ⟨result, houtcome⟩
  unfold compaction?
  rw [houtcome]
  rfl

instance (visit : Visit) (strategy : Strategy) (agent : Text) (store : Store) :
    Decidable (visit.Counts strategy agent store) :=
  decidable_of_iff ((compaction? (visit.run strategy agent store)).isSome = true ∧
      mark agent (visit.run strategy agent store).store = visit.turns.length)
    (and_congr_left' compaction?_isSome)

section Visits

variable {settings : Settings} {limit : Nat} {positive : 0 < limit} {agent : Text} {store : Store}

/-- A call of a sliding window counts the turns of its list only if it was due. -/
lemma Visit.step (settings : Settings) (limit : Nat) (positive : 0 < limit)
    (hstore : Retains agent store) (visit : Visit) :
    let run := visit.run (.slidingWindow settings limit positive) agent store
    Retains agent run.store ∧
      (mark agent run.store = mark agent store ∨ mark agent run.store = visit.turns.length) ∧
      ((∃ result, run.outcome = .ok (some result)) →
        limit < turnsSince visit.turns.length (mark agent store)) := by
  intro run
  let strategy := Strategy.slidingWindow settings limit positive
  let call : Call := ⟨agent, visit.system, visit.model⟩
  have hgrants : GrantsReads call.agent store := hstore.grants
  cases hasks : unasked? strategy visit.registry call (recordIn agent store) visit.turns with
  | some after =>
    obtain ⟨-, hread, hends⟩ := compact_unasked hgrants hasks visit.provider
    refine ⟨hstore.read hread, Or.inl (hstore.mark_read hread), ?_⟩
    rintro ⟨result, hresult⟩
    have hresult : (strategy.compact visit.registry call visit.provider visit.turns store).outcome =
        .ok (some result) := hresult
    rcases hends with ⟨hnone, -⟩ | ⟨-, fault, hfault⟩
    · cases hresult.symm.trans hnone
    · cases hresult.symm.trans hfault
  | none =>
    obtain ⟨bound, job, hasked⟩ := compact_asked hgrants hasks visit.provider
    obtain ⟨plan, hplan, hgo⟩ := hasked.settled
    cases hplan
    have hdue : ¬turnsSince visit.turns.length (mark agent store) ≤ limit := by
      intro hfew
      rw [decided_window_few hfew] at hgo
      contradiction
    rw [decided_window_many hdue] at hgo
    have hcount : job.turnCount = some visit.turns.length := by
      obtain ⟨tokens, index, request, -, -, -, -, rfl⟩ := summarizeBefore_go.mp hgo
      rfl
    refine and_assoc.mp ⟨?_, fun _ => Nat.not_le.mp hdue⟩
    cases hreceive : (job.request.receive job.timeout (visit.provider job.request)).2 with
    | error fault =>
      obtain ⟨hread, -⟩ := compact_error (hasked.unanswered fault hreceive)
      exact ⟨hstore.read hread, Or.inl (hstore.mark_read hread)⟩
    | ok summary =>
      obtain ⟨-, -, last, hread, hkept⟩ := hasked.answered summary hreceive
      have hkept : run.store = savedIn agent job summary last := hkept
      rw [hkept, ← hstore.mark_read hread]
      exact (hstore.read hread).saved hcount (leaf_of_receive hreceive)

lemma visited_succ (strategy : Strategy) (agent : Text) (store : Store) {visits : List Visit}
    {index : Nat} (h : index < visits.length) :
    visited strategy agent store (visits.take (index + 1)) =
      (visits[index].run strategy agent (visited strategy agent store (visits.take index))).store := by
  unfold visited
  rw [List.take_add_one, List.getElem?_eq_getElem h, Option.toList_some, List.foldl_append]
  rfl

variable {visits : List Visit}

/-- Before every visit at most as many turns are counted as its list holds. -/
lemma visited_within (hstore : Retains agent store)
    (hgrow : visits.Pairwise fun earlier later => earlier.turns.length ≤ later.turns.length)
    (hstart : ∀ first, visits.head? = some first → mark agent store ≤ first.turns.length)
    {index : Nat} (h : index < visits.length) :
    let before := visited (.slidingWindow settings limit positive) agent store (visits.take index)
    Retains agent before ∧ mark agent before ≤ visits[index].turns.length := by
  induction index with
  | zero =>
    have hfirst : visits.head? = some visits[0] := List.head?_eq_getElem? ▸ List.getElem?_eq_getElem h
    exact ⟨hstore, hstart _ hfirst⟩
  | succ index ih =>
    have hindex : index < visits.length := Nat.lt_of_succ_lt h
    obtain ⟨hretains, hwithin⟩ := ih hindex
    obtain ⟨hafter, hmark, -⟩ := Visit.step settings limit positive hretains visits[index]
    have hlonger : visits[index].turns.length ≤ visits[index + 1].turns.length :=
      List.pairwise_iff_getElem.mp hgrow index (index + 1) hindex h (Nat.lt_succ_self index)
    dsimp only
    rw [visited_succ _ _ _ hindex]
    refine ⟨hafter, ?_⟩
    rcases hmark with hsame | hcounted <;> omega

/-- On lists that do not get shorter the turns that a sliding window has counted never decrease and
never exceed the list, whatever fails of the summaries and the writes; and from one call that is
counted to a later one the list grows by more than the limit. -/
theorem counted_turns_grow (hstore : Retains agent store) (visits : List Visit)
    (hgrow : visits.Pairwise fun earlier later => earlier.turns.length ≤ later.turns.length)
    (hstart : ∀ first, visits.head? = some first → mark agent store ≤ first.turns.length) :
    let strategy := Strategy.slidingWindow settings limit positive
    let before := fun index => visited strategy agent store (visits.take index)
    (∀ index (h : index < visits.length),
      mark agent (before index) ≤ mark agent (before (index + 1)) ∧
        mark agent (before (index + 1)) ≤ visits[index].turns.length) ∧
    ∀ first later (hfirst : first < later) (hlater : later < visits.length),
      visits[first].Counts strategy agent (before first) →
      visits[later].Counts strategy agent (before later) →
        visits[first].turns.length + limit < visits[later].turns.length := by
  intro strategy before
  have hwithin : ∀ index (h : index < visits.length),
      Retains agent (before index) ∧ mark agent (before index) ≤ visits[index].turns.length :=
    fun index h => visited_within hstore hgrow hstart h
  have hstep : ∀ index (h : index < visits.length),
      mark agent (before index) ≤ mark agent (before (index + 1)) ∧
        mark agent (before (index + 1)) ≤ visits[index].turns.length := by
    intro index h
    obtain ⟨hretains, hle⟩ := hwithin index h
    have hnext : before (index + 1) = (visits[index].run strategy agent (before index)).store :=
      visited_succ _ _ _ h
    have hmark : mark agent (before (index + 1)) = mark agent (before index) ∨
        mark agent (before (index + 1)) = visits[index].turns.length := by
      rw [hnext]
      exact (Visit.step settings limit positive hretains visits[index]).2.1
    omega
  have hmono : ∀ low high, low ≤ high → high ≤ visits.length →
      mark agent (before low) ≤ mark agent (before high) := by
    intro low high hle
    induction high, hle using Nat.le_induction with
    | base => exact fun _ => le_rfl
    | succ index hle ih => exact fun h => (ih (Nat.le_of_succ_le h)).trans (hstep index h).1
  refine ⟨hstep, fun first later hfirst hlater hcounts hcounts' => ?_⟩
  have hindex : first < visits.length := hfirst.trans hlater
  -- What is counted at the first call is still counted when the later one comes.
  have hstays := hmono (first + 1) later hfirst hlater.le
  have hnext : before (first + 1) = (visits[first].run strategy agent (before first)).store :=
    visited_succ _ _ _ hindex
  obtain ⟨hretains, hle⟩ := hwithin later hlater
  obtain ⟨-, -, hdue⟩ := Visit.step settings limit positive hretains visits[later]
  have hlimit := lt_turnsSince.mp (hdue hcounts'.1)
  have hcounted := hcounts.2
  rw [← hnext] at hcounted
  omega

end Visits

/-- A table that refuses one of its writes. -/
def flakyStore : Store :=
  .memory { refuses := fun count access => count == 8 && access matches .write .. }

/-- Visits with so many turns each, of which the second one gets no summary. -/
def flakyVisits : List Visit := [4, 4, 5, 8, 9].zipIdx.map fun entry =>
  { turns := List.replicate entry.1 (.ofText "user" "a")
    provider := fun _ => if entry.2 = 1 then .failed "overloaded" else .answer { content := .text "S" } }

/-- The first compaction is not counted, those of the third and the fifth visit are. -/
theorem flaky_visits_counted :
    let strategy := Strategy.slidingWindow wholeSettings 3 (by decide)
    let before := fun index => visited strategy "a" flakyStore (flakyVisits.take index)
    (List.range 6).map (fun index => mark "a" (before index)) = [0, 0, 0, 5, 5, 9] ∧
      (∀ index (h : index < flakyVisits.length),
        mark "a" (before index) ≤ mark "a" (before (index + 1)) ∧
          mark "a" (before (index + 1)) ≤ flakyVisits[index].turns.length) ∧
      flakyVisits[2].turns.length + 3 < flakyVisits[4].turns.length := by
  intro strategy before
  have hstore : Retains "a" flakyStore := .table fun _ _ => Bool.and_false _
  have hgrow : flakyVisits.Pairwise fun earlier later =>
      earlier.turns.length ≤ later.turns.length := by decide +kernel
  have hstart : ∀ first, flakyVisits.head? = some first →
      mark "a" flakyStore ≤ first.turns.length := by decide +kernel
  obtain ⟨hmarks, hapart⟩ :=
    @counted_turns_grow wholeSettings 3 (by decide) "a" flakyStore hstore flakyVisits hgrow hstart
  exact ⟨by decide +kernel, hmarks, hapart 2 4 (by decide) (by decide) (by decide +kernel)
    (by decide +kernel)⟩

end Condense.Proofs
