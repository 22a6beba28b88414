import Condense.Proofs.FullHistories
import Condense.Proofs.Retention

/-!
# Refused writes

A compaction keeps three values one after the other, and a store may refuse any of them. A sliding
window that is called again goes by the number of turns alone. So it depends on the last of the three
writes whether a compaction is made again, and a summary that was refused before is not missed.
-/

namespace Condense.Proofs
open Summary

/-- The number of turns that a store holds. -/
def heldMark (agent : Text) (store : Store) : Nat :=
  Record.counter ((found? (stateKey agent Record.turnsAtKey) store).getD .null)

lemma GrantsReads.turnsAt {agent : Text} {store : Store} (h : GrantsReads agent store) :
    (Proofs.recordIn agent store).turnsAt = heldMark agent store := by
  rw [h.recordIn]
  rfl

section Tables

variable (agent : Text) (table : MemoryStore)

lemma fetch_memory (key : Text) :
    (Record.fetch agent key (.memory table)).2.1 = .memory table.count := by
  unfold Record.fetch Store.get MemoryStore.get
  dsimp only
  split
  case h_1 heq => exact congrArg (fun found => found.2.1) heq.symm
  case h_2 heq => exact congrArg (fun found => found.2.1) heq.symm

lemma lookedAt_memory :
    lookedAt agent (.memory table) = .memory { table with accesses := table.accesses + 3 } := by
  have hlooked : lookedAt agent (.memory table) = (Record.fetch agent Record.turnsAtKey
      (Record.fetch agent Record.summarizedAtKey
        (Record.fetch agent Record.summaryKey (.memory table)).2.1).2.1).2.1 := rfl
  rw [hlooked, fetch_memory, fetch_memory, fetch_memory]
  rfl

/-- What a table holds after a compaction of so many turns. The record was looked at in the first six
accesses, and the three that follow are the writes, each of which may have been refused. -/
structure KeptIn (summary : Value) (count : Nat) (after : Store) : Prop where
  summary : found? (stateKey agent Record.summaryKey) after =
    if table.refuses (table.accesses + 6) (.write agent Record.summaryKey) = false then some summary
    else found? (stateKey agent Record.summaryKey) (.memory table)
  tokens : ∃ answered : Nat, found? (stateKey agent Record.summarizedAtKey) after =
    if table.refuses (table.accesses + 7) (.write agent Record.summarizedAtKey) = false then
      some (.int answered)
    else found? (stateKey agent Record.summarizedAtKey) (.memory table)
  turns : found? (stateKey agent Record.turnsAtKey) after =
    if table.refuses (table.accesses + 8) (.write agent Record.turnsAtKey) = false then
      some (.int count)
    else found? (stateKey agent Record.turnsAtKey) (.memory table)

lemma savedIn_counted {job : Job} {count : Nat} (hcount : job.turnCount = some count)
    (summary : Value) :
    savedIn agent job summary (.memory table) =
      .memory (((table.set agent Record.summaryKey summary).1.set agent Record.summarizedAtKey
        (.int job.answered)).1.set agent Record.turnsAtKey (.int count)).1 := by
  unfold savedIn Job.saveTurns Job.saveSummary Record.saveTurns Record.saveSummary
  rw [hcount]
  dsimp only
  rw [keep_memory, keep_memory, keep_memory]

lemma keptIn_saved {job : Job} {count : Nat} (hcount : job.turnCount = some count)
    (summary : Value) :
    KeptIn agent table summary count
      (savedIn agent job summary (looksAt agent (.memory table)).twice) := by
  have hkeys : Record.summaryKey ≠ Record.summarizedAtKey ∧ Record.summaryKey ≠ Record.turnsAtKey ∧
      Record.summarizedAtKey ≠ Record.turnsAtKey := by decide
  obtain ⟨htokens, hturns, hlast⟩ := hkeys
  rw [looksAt_twice, lookedAt_memory, lookedAt_memory, savedIn_counted agent _ hcount]
  exact {
    summary := by
      simp only [found?, get?_set, htokens, hturns, false_and, if_false, true_and]
    tokens := by
      refine ⟨job.answered, ?_⟩
      simp only [found?, get?_set, set_refuses, set_accesses, htokens.symm, hlast, false_and,
        if_false, true_and]
    turns := by
      simp only [found?, get?_set, set_refuses, set_accesses, hturns.symm, hlast.symm, false_and,
        if_false, true_and] }

end Tables

lemma turnCount_of_ledTo? {settings : Settings} {limit : Nat} {positive : 0 < limit}
    {registry later : Registry} {call : Call} {looks : Looks} {turns : List Turn} {job : Job}
    (h : ledTo? (.slidingWindow settings limit positive) registry later call looks turns = some job) :
    job.turnCount = some turns.length := by
  obtain ⟨plan, pending, hplan, hcheck, hrecheck⟩ := ledTo?_eq_some.mp h
  have hchecked := check_checked hplan looks.first
  generalize plan.check call looks.first turns = stretch at hcheck hrecheck hchecked
  cases hchecked with
  | stop => contradiction
  | slidingWindow settings limit positive =>
    cases hcheck
    unfold Pending.recheck at hrecheck
    dsimp only at hrecheck
    split at hrecheck
    · contradiction
    · obtain ⟨tokens, index, request, -, -, -, -, rfl⟩ := summarizeBefore_go.mp hrecheck
      rfl

lemma summary_of_result {job : Job} {call : Call} {summary : Value} {result : Compaction}
    (h : job.result call summary = .ok result) : result.summary = summary := by
  simp only [Job.result, bind_eq_ok] at h
  obtain ⟨tokens, -, hpure⟩ := h
  cases hpure
  rfl

section Visits

variable {settings : Settings} {limit : Nat} {positive : 0 < limit} {agent : Text} {store : Store}
  {visit : Visit} {result : Compaction}

lemma Visit.kept
    (h : (visit.run (.slidingWindow settings limit positive) agent store).outcome =
      .ok (some result)) :
    ∃ job, job.turnCount = some visit.turns.length ∧
      (visit.run (.slidingWindow settings limit positive) agent store).store =
        savedIn agent job result.summary (looksAt agent store).twice := by
  obtain ⟨job, summary, hled, hresult, hrun⟩ := compact_silent h
  rw [summary_of_result hresult]
  exact ⟨job, turnCount_of_ledTo? hled, congrArg Run.store hrun⟩

/-- If the record can be read, it decides together with the list. -/
lemma Visit.decided (hstore : GrantsReads agent store) :
    ∃ last, silent (visit.run (.slidingWindow settings limit positive) agent store) =
      silent ((Proofs.decided (.slidingWindow settings limit visit.turns.length) visit.registry
        ⟨agent, visit.system, visit.model⟩ (recordIn agent store) visit.turns).perform
          ⟨agent, visit.system, visit.model⟩ visit.provider last) := by
  let call : Call := ⟨agent, visit.system, visit.model⟩
  have hreads : GrantsReads call.agent store := hstore
  have hplan : ((Strategy.slidingWindow settings limit positive).plan visit.registry call
    visit.turns).2 = .ok (.slidingWindow settings limit visit.turns.length) := rfl
  obtain ⟨last, -, hrun⟩ := compact_read hreads hplan visit.provider
  exact ⟨last, hrun⟩

/-- The window moves only if the list exceeds what was counted. -/
lemma Visit.due (hstore : GrantsReads agent store)
    (h : (visit.run (.slidingWindow settings limit positive) agent store).outcome =
      .ok (some result)) :
    limit < turnsSince visit.turns.length (heldMark agent store) := by
  obtain ⟨last, hrun⟩ := Visit.decided hstore
  rw [← hstore.turnsAt]
  by_contra hfew
  rw [decided_window_few (Nat.not_lt.mp hfew), silent_perform_ended rfl] at hrun
  cases h.symm.trans (silent_eq hrun).2.2

/-- Apart from being due, the visit lacks nothing. -/
def Visit.Feasible (visit : Visit) (settings : Settings) (limit : Nat) (agent : Text)
    (store : Store) : Prop :=
  isFeasible settings limit visit.registry ⟨agent, visit.system, visit.model⟩ visit.provider
    (recordIn agent store).summary visit.turns = true

lemma Visit.compacts (hstore : GrantsReads agent store)
    (hfeasible : visit.Feasible settings limit agent store)
    (hdue : limit < turnsSince visit.turns.length (heldMark agent store)) :
    ∃ result, (visit.run (.slidingWindow settings limit positive) agent store).outcome =
      .ok (some result) := by
  obtain ⟨last, hrun⟩ := Visit.decided hstore
  rw [← hstore.turnsAt] at hdue
  exact compacts_of_due hrun hfeasible positive hdue

end Visits

/-- A store that holds the record of an agent as another one does, and that gives it out. -/
structure Reopened (agent : Text) (store again : Store) : Prop where
  reads : GrantsReads agent again
  held : ∀ key ∈ recordKeys, found? (stateKey agent key) again = found? (stateKey agent key) store

/-- Which of its values a compaction has kept in a table depends on each write alone. When the host
comes back with its full list to a store that holds the same record, the compaction is made again if
and only if the list exceeds the number of turns in the record by more than the limit. If this number
was kept, nothing is made up for at once, whatever became of the summary. If it was not and none of
the reads was refused, the compaction is made again. -/
theorem refused_summary_recompacts_iff {settings : Settings} {limit : Nat} {positive : 0 < limit}
    {agent : Text} {store : Store} (first : Visit) {result : Compaction} :
    let strategy := Strategy.slidingWindow settings limit positive
    let after := (first.run strategy agent store).store
    (first.run strategy agent store).outcome = .ok (some result) →
    (∀ table, store = .memory table →
      KeptIn agent table result.summary first.turns.length after) ∧
    ∀ (again : Store) (later : Visit), Reopened agent after again →
      later.Feasible settings limit agent again → first.turns.length ≤ later.turns.length →
      let compacts := ∃ result, (later.run strategy agent again).outcome = .ok (some result)
      (compacts ↔ limit < turnsSince later.turns.length (heldMark agent after)) ∧
      (heldMark agent after = first.turns.length →
        (compacts ↔ first.turns.length + limit < later.turns.length)) ∧
      (GrantsReads agent store → heldMark agent store ≤ first.turns.length →
        heldMark agent after = heldMark agent store → compacts) := by
  intro strategy after hresult
  constructor
  · rintro table rfl
    obtain ⟨job, hcount, hkept⟩ := Visit.kept hresult
    dsimp only [after, strategy]
    rw [hkept]
    exact keptIn_saved agent table hcount result.summary
  · intro again later hagain hfeasible hlonger compacts
    have hmark : heldMark agent again = heldMark agent after := by
      unfold heldMark
      rw [hagain.held _ turnsAtKey_mem]
    have hiff : compacts ↔ limit < turnsSince later.turns.length (heldMark agent after) := by
      rw [← hmark]
      constructor
      · rintro ⟨other, hother⟩
        exact Visit.due hagain.reads hother
      · exact Visit.compacts hagain.reads hfeasible
    refine ⟨hiff, fun hcounted => ?_, fun hreads hwithin hsame => ?_⟩
    · rw [hiff, hcounted, lt_turnsSince]
      omega
    · have hdue := Visit.due hreads hresult
      rw [lt_turnsSince] at hdue
      rw [hiff, hsame, lt_turnsSince]
      omega

/-- A table that takes everything but summaries. -/
def summarylessStore : Store :=
  .memory { refuses := fun _ access => access == .write "a" Record.summaryKey }

def fullVisit (answer : Text) : Visit where
  turns := ["a", "b", "c", "d", "e"].map (.ofText "user")
  provider := fun _ => .answer { content := .text answer }

/-- The summary of the first visit is nowhere, and the second visit does not compact again. -/
theorem forgotten_summary_not_retried :
    let strategy := Strategy.slidingWindow wholeSettings 3 (by decide)
    let after := ((fullVisit "S").run strategy "a" summarylessStore).store
    (∃ result, ((fullVisit "S").run strategy "a" summarylessStore).outcome = .ok (some result)) ∧
      found? (stateKey "a" Record.summaryKey) after = none ∧ heldMark "a" after = 5 ∧
      ∀ result, ((fullVisit "T").run strategy "a" after).outcome ≠ .ok (some result) := by
  intro strategy after
  have hsome : (compaction? ((fullVisit "S").run strategy "a" summarylessStore)).isSome = true := by
    decide +kernel
  obtain ⟨result, hresult⟩ := exists_compaction hsome
  obtain ⟨hkept, hagain⟩ := refused_summary_recompacts_iff (fullVisit "S") hresult
  have hmark : heldMark "a" after = 5 := by
    unfold heldMark
    rw [(hkept _ rfl).turns]
    rfl
  have hstore : Retains "a" summarylessStore := .table fun _ _ => rfl
  have hafter : Retains "a" after := (Visit.step wholeSettings 3 (by decide) hstore _).1
  have hfeasible : (fullVisit "T").Feasible wholeSettings 3 "a" after := by
    unfold Visit.Feasible
    decide +kernel
  obtain ⟨-, hcounted, -⟩ :=
    hagain after (fullVisit "T") ⟨hafter.grants, fun _ _ => rfl⟩ hfeasible le_rfl
  refine ⟨⟨result, hresult⟩, (hkept _ rfl).summary, hmark, fun other hother => ?_⟩
  have hdue := (hcounted hmark).mp ⟨other, hother⟩
  exact absurd hdue (by decide)

end Condense.Proofs
