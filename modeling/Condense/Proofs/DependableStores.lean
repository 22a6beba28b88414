import Condense.Proofs.StoreWrites

/-!
# Dependable stores

A store is dependable for an agent if nothing goes wrong with the agent's record in it: looking
changes nothing that a later look finds, and what is kept is found, next to what was there. A table
that refuses nothing is of that kind.
-/

namespace Condense.Proofs
open Summary

/-- Among these stores an agent's record can be looked at and kept without surprises. -/
structure Faithful (agent : Text) (stores : Store → Prop) : Prop where
  looked : ∀ store, stores store →
    stores (lookedAt agent store) ∧ recordIn agent (lookedAt agent store) = recordIn agent store
  savedSummary : ∀ store, stores store → ∀ (summary : Value) (tokens : Nat),
    let after := (Record.saveSummary agent summary (.int tokens) store).2
    stores after ∧
      recordIn agent after =
        ⟨Record.summaryOf summary, tokens, (recordIn agent store).turnsAt⟩ ∧
      ∀ name, found? (.text name) after =
        if name = entryName agent Record.summarizedAtKey then some (.int tokens)
        else if name = entryName agent Record.summaryKey then some summary
        else found? (.text name) store
  savedTurns : ∀ store, stores store → ∀ turns : Nat,
    let after := (Record.saveTurns agent (.int turns) store).2
    stores after ∧ recordIn agent after = { recordIn agent store with turnsAt := turns }

/-- Whatever is done to an agent's record in the store, reads find what was written last. -/
def Dependable (agent : Text) (store : Store) : Prop :=
  ∃ stores, Faithful agent stores ∧ stores store

section Dependable

variable {agent : Text} {store : Store}

lemma Dependable.looked (h : Dependable agent store) : Dependable agent (lookedAt agent store) := by
  obtain ⟨stores, hfaithful, hstore⟩ := h
  exact ⟨stores, hfaithful, (hfaithful.looked store hstore).1⟩

lemma Dependable.recordIn_lookedAt (h : Dependable agent store) :
    recordIn agent (lookedAt agent store) = recordIn agent store := by
  obtain ⟨stores, hfaithful, hstore⟩ := h
  exact (hfaithful.looked store hstore).2

lemma Dependable.savedSummary (h : Dependable agent store) (job : Job) (summary : Value) :
    Dependable agent (job.saveSummary agent summary store).2 := by
  obtain ⟨stores, hfaithful, hstore⟩ := h
  exact ⟨stores, hfaithful, (hfaithful.savedSummary store hstore summary job.answered).1⟩

lemma Dependable.recordIn_savedSummary (h : Dependable agent store) (job : Job) (summary : Value) :
    recordIn agent (job.saveSummary agent summary store).2 =
      ⟨Record.summaryOf summary, job.answered, (recordIn agent store).turnsAt⟩ := by
  obtain ⟨stores, hfaithful, hstore⟩ := h
  exact (hfaithful.savedSummary store hstore summary job.answered).2.1

lemma Dependable.found?_savedSummary (h : Dependable agent store) (job : Job) (summary : Value)
    (name : Text) :
    found? (.text name) (job.saveSummary agent summary store).2 =
      if name = entryName agent Record.summarizedAtKey then some (.int job.answered)
      else if name = entryName agent Record.summaryKey then some summary
      else found? (.text name) store := by
  obtain ⟨stores, hfaithful, hstore⟩ := h
  exact (hfaithful.savedSummary store hstore summary job.answered).2.2 name

lemma Dependable.savedTurns (h : Dependable agent store) (job : Job) :
    Dependable agent (job.saveTurns agent store).2 := by
  unfold Job.saveTurns
  cases job.turnCount with
  | none => exact h
  | some count =>
    obtain ⟨stores, hfaithful, hstore⟩ := h
    exact ⟨stores, hfaithful, (hfaithful.savedTurns store hstore count).1⟩

lemma Dependable.recordIn_savedTurns (h : Dependable agent store) {job : Job} {count : Nat}
    (hcount : job.turnCount = some count) :
    recordIn agent (job.saveTurns agent store).2 =
      { recordIn agent store with turnsAt := count } := by
  unfold Job.saveTurns
  rw [hcount]
  obtain ⟨stores, hfaithful, hstore⟩ := h
  exact (hfaithful.savedTurns store hstore count).2

end Dependable

/-- A table that refuses no access. -/
def Granting (table : MemoryStore) : Prop := ∀ count access, table.refuses count access = false

/-- What a table that refuses nothing holds for an agent under a key; null stands for nothing. -/
def entry (agent key : Text) (table : MemoryStore) : Value :=
  (Assoc.get? (stateKey agent key) table.entries).getD .null

section Granting

variable {table : MemoryStore}

lemma Granting.fetch (h : Granting table) (agent key : Text) :
    Record.fetch agent key (.memory table) = ([], .memory table.count, entry agent key table) := by
  have hgranted : table.refuses table.accesses (.read agent key) = false := h _ _
  unfold Record.fetch Store.get MemoryStore.get
  simp only [hgranted, Bool.false_eq_true, if_false]
  rfl

lemma Granting.lookedAt (h : Granting table) (agent : Text) :
    lookedAt agent (.memory table) = .memory table.count.count.count := by
  have hcount : Granting table.count := h
  have hagain : Granting table.count.count := h
  unfold Proofs.lookedAt Record.load
  simp only [h.fetch, hcount.fetch, hagain.fetch]

lemma Granting.recordIn (h : Granting table) (agent : Text) :
    recordIn agent (.memory table) =
      ⟨Record.summaryOf (entry agent Record.summaryKey table),
        Record.counter (entry agent Record.summarizedAtKey table),
        Record.counter (entry agent Record.turnsAtKey table)⟩ := by
  have hcount : Granting table.count := h
  have hagain : Granting table.count.count := h
  unfold Proofs.recordIn Record.load
  simp only [h.fetch, hcount.fetch, hagain.fetch]
  rfl

lemma Granting.set (h : Granting table) (agent key : Text) (value : Value) :
    Granting (table.set agent key value).1 := by
  intro count access
  rw [set_refuses]
  exact h count access

lemma Granting.entry_set (h : Granting table) (agent key other : Text) (value : Value) :
    entry agent other (table.set agent key value).1 =
      if other = key then value else entry agent other table := by
  unfold entry
  rw [get?_set]
  by_cases hkey : other = key
  · simp [hkey, h table.accesses]
  · simp [hkey]

lemma Granting.found?_set (h : Granting table) (agent key name : Text) (value : Value) :
    found? (.text name) (.memory (table.set agent key value).1) =
      if name = entryName agent key then some value else found? (.text name) (.memory table) := by
  have hgranted : table.refuses table.accesses (.write agent key) = false := h _ _
  unfold MemoryStore.set
  rw [hgranted]
  have hput := get?_put_text (entryName agent key) (.text name) value table.entries
  simp only [Key.text.injEq] at hput
  exact hput

end Granting

/-- Tables that refuse nothing are dependable. -/
theorem Granting.dependable {table : MemoryStore} (h : Granting table) (agent : Text) :
    Dependable agent (.memory table) := by
  have htokens : Record.summaryKey ≠ Record.summarizedAtKey := by decide
  have hturns : Record.summaryKey ≠ Record.turnsAtKey := by decide
  have hcounts : Record.summarizedAtKey ≠ Record.turnsAtKey := by decide
  refine ⟨fun store => ∃ table, store = .memory table ∧ Granting table, ⟨?_, ?_, ?_⟩, table, rfl, h⟩
  · rintro store ⟨table, rfl, hgranting⟩
    have hcounted : Granting table.count.count.count := hgranting
    rw [hgranting.lookedAt, hgranting.recordIn, hcounted.recordIn]
    exact ⟨⟨_, rfl, hcounted⟩, rfl⟩
  · rintro store ⟨table, rfl, hgranting⟩ summary tokens
    have hfirst := hgranting.set agent Record.summaryKey summary
    have hsecond := hfirst.set agent Record.summarizedAtKey (.int tokens)
    unfold Record.saveSummary
    dsimp only
    rw [keep_memory, keep_memory, hgranting.recordIn, hsecond.recordIn]
    refine ⟨⟨_, rfl, hsecond⟩, ?_, fun name => ?_⟩
    · simp only [hfirst.entry_set, hgranting.entry_set, htokens, hturns.symm, hcounts.symm, if_true,
        if_false, Record.counter, Int.toNat_natCast]
    · rw [hfirst.found?_set, hgranting.found?_set]
  · rintro store ⟨table, rfl, hgranting⟩ turns
    have hafter := hgranting.set agent Record.turnsAtKey (.int turns)
    unfold Record.saveTurns
    dsimp only
    rw [keep_memory, hgranting.recordIn, hafter.recordIn]
    refine ⟨⟨_, rfl, hafter⟩, ?_⟩
    simp only [hgranting.entry_set, hturns, hcounts, if_true, if_false, Record.counter,
      Int.toNat_natCast]

end Condense.Proofs
