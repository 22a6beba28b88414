import Condense.Proofs.StoreReads

/-!
# Records in memory

What an agent's record holds after a summary has been kept in a table. Single reads and writes may
be refused: a refused read finds no summary, and a refused write leaves the earlier one in place.
-/

namespace Condense.Proofs
open Summary

lemma get?_put_text (name : Text) (key : Key) (v : Value) (table : List (Key × Value)) :
    Assoc.get? key (Assoc.put (.text name) v table) =
      if key = .text name then some v else Assoc.get? key table := by
  split
  case isTrue hsame =>
    rw [hsame]
    exact Assoc.get?_put_of_beq (by simp [Key.text_beq]) v table
  case isFalse hother =>
    exact Assoc.get?_put_of_not_beq Key.eq_of_beq_text (by simpa [Key.text_beq] using hother) v table

def entryName (agent key : Text) : Text := "__context_guard_" ++ key ++ "_" ++ agent

lemma entryName_inj (agent : Text) {key other : Text} :
    entryName agent key = entryName agent other ↔ key = other := by
  simp [entryName]

lemma get?_put_stateKey (agent key other : Text) (value : Value) (table : List (Key × Value)) :
    Assoc.get? (stateKey agent other) (Assoc.put (stateKey agent key) value table) =
      if other = key then some value else Assoc.get? (stateKey agent other) table := by
  have hput := get?_put_text (entryName agent key) (.text (entryName agent other)) value table
  simp only [Key.text.injEq, entryName_inj] at hput
  exact hput

/-- What a store says when it is asked for an agent's summary. -/
def summaryRead (agent : Text) (store : Store) : Except StoreFault (Option Value) :=
  (store.get agent Record.summaryKey).2.2

def summaryPlace (agent : Text) : Key := stateKey agent Record.summaryKey

/-- A summary is found if the store gives it out as a text, and not otherwise. -/
lemma summary_recordIn (agent : Text) (store : Store) {summary : Text} (h : summary ≠ []) :
    (recordIn agent store).summary = summary ↔
      summaryRead agent store = .ok (some (.text summary)) := by
  have hrecord : (recordIn agent store).summary =
      Record.summaryOf (Record.fetch agent Record.summaryKey store).2.2 := rfl
  rw [hrecord]
  unfold Record.fetch summaryRead
  rcases store.get agent Record.summaryKey with ⟨notices, after, why | found⟩
  · simp [Record.summaryOf, h.symm]
  · rcases found with _ | value
    · simp [Record.summaryOf, h.symm]
    · cases value <;> simp [Record.summaryOf, h.symm]

lemma summaryRead_memory (agent : Text) (store : MemoryStore) :
    summaryRead agent (.memory store) =
      if store.refuses store.accesses (.read agent Record.summaryKey) then .error .readRefused
      else .ok (found? (summaryPlace agent) (.memory store)) := rfl

/-- A table that does not refuse one look at an agent's summary and grant another. -/
def Steady (agent : Text) : Store → Prop
  | .memory table => ∀ count other, table.refuses count (.read agent Record.summaryKey) =
      table.refuses other (.read agent Record.summaryKey)
  | .file _ => True

lemma Steady.summaryRead {agent : Text} {store after : Store} (h : Steady agent store)
    (hread : Consulted store after) : summaryRead agent after = summaryRead agent store := by
  cases store with
  | memory table =>
    cases hread with
    | @memory _ accesses hcount =>
      have hsame := h accesses table.accesses
      rw [summaryRead_memory, summaryRead_memory, hsame]
      rfl
  | file table =>
    obtain ⟨later, rfl, hlocked⟩ := hread.locked
    unfold Proofs.summaryRead Store.get FileStore.get
    dsimp only
    rw [hlocked]
    cases table.locked <;> rfl

/-- In a steady store both looks find the same summary. -/
theorem looks_agree {agent : Text} {store : Store} (h : Steady agent store) :
    (looksAt agent store).second.summary = (looksAt agent store).first.summary := by
  have hfirst : (looksAt agent store).first = recordIn agent store := by simp only [looksAt]
  have hread := h.summaryRead (lookedAt_consulted agent store)
  rw [looksAt_second, hfirst]
  by_cases hnone : (recordIn agent store).summary = []
  · rw [hnone]
    by_contra hsome
    have hsecond := (summary_recordIn agent _ hsome).mp rfl
    rw [hread] at hsecond
    have hfound := (summary_recordIn agent store hsome).mpr hsecond
    rw [hnone] at hfound
    exact hsome hfound.symm
  · rw [summary_recordIn agent _ hnone, hread]
    exact (summary_recordIn agent store hnone).mp rfl

/-- What a granted look finds is what the store holds. -/
lemma found?_of_summaryRead {agent : Text} {store : Store} {found : Option Value}
    (h : summaryRead agent store = .ok found) : found? (summaryPlace agent) store = found := by
  cases store with
  | memory store =>
    rw [summaryRead_memory] at h
    split at h
    · contradiction
    · exact Except.ok.inj h
  | file store =>
    unfold summaryRead Store.get FileStore.get at h
    unfold found?
    dsimp only at h ⊢
    cases hlocked : store.locked with
    | error why =>
      rw [hlocked] at h
      contradiction
    | ok locked =>
      rw [hlocked] at h
      dsimp only at h ⊢
      cases hmembers : locked.members.2 with
      | error why =>
        rw [hmembers] at h
        contradiction
      | ok members =>
        rw [hmembers] at h
        exact Except.ok.inj h

lemma found?_of_recordIn {agent summary : Text} {store : Store} (h : summary ≠ [])
    (hfound : (recordIn agent store).summary = summary) :
    found? (summaryPlace agent) store = some (.text summary) :=
  found?_of_summaryRead ((summary_recordIn agent store h).mp hfound)

lemma get?_set (agent key other : Text) (value : Value) (store : MemoryStore) :
    Assoc.get? (stateKey agent other) (store.set agent key value).1.entries =
      if other = key ∧ store.refuses store.accesses (.write agent key) = false then some value
      else Assoc.get? (stateKey agent other) store.entries := by
  unfold MemoryStore.set
  cases hrefused : store.refuses store.accesses (.write agent key) with
  | true => simp [MemoryStore.count]
  | false => simp [get?_put_stateKey]

lemma set_refuses (agent key : Text) (value : Value) (store : MemoryStore) :
    (store.set agent key value).1.refuses = store.refuses := by
  unfold MemoryStore.set
  split <;> rfl

lemma set_accesses (agent key : Text) (value : Value) (store : MemoryStore) :
    (store.set agent key value).1.accesses = store.accesses + 1 := by
  unfold MemoryStore.set
  split <;> rfl

lemma keep_memory (agent key label : Text) (value : Value) (store : MemoryStore) :
    (Record.keep agent key label value (.memory store)).2 =
      .memory (store.set agent key value).1 := by
  unfold Record.keep Store.set
  dsimp only
  rcases store.set agent key value with ⟨after, why | done⟩ <;> rfl

/-- A table in which a summary has been kept answers as before, and it holds the summary unless it
refused just that. The other values of the record have places of their own. -/
theorem savedIn_memory (agent : Text) (job : Job) (summary : Value) (store : MemoryStore) :
    ∃ after : MemoryStore, savedIn agent job summary (.memory store) = .memory after ∧
      after.refuses = store.refuses ∧ store.accesses < after.accesses ∧
      found? (summaryPlace agent) (.memory after) =
        if store.refuses store.accesses (.write agent Record.summaryKey) = false then some summary
        else found? (summaryPlace agent) (.memory store) := by
  -- Of the writes only the first one is about the summary.
  have htokens : Record.summaryKey ≠ Record.summarizedAtKey := by decide
  have hturns : Record.summaryKey ≠ Record.turnsAtKey := by decide
  have hsaved : (job.saveSummary agent summary (.memory store)).2 =
      .memory ((store.set agent Record.summaryKey summary).1.set agent Record.summarizedAtKey
        (.int job.answered)).1 := by
    unfold Job.saveSummary Record.saveSummary
    dsimp only
    rw [keep_memory, keep_memory]
  unfold savedIn
  rw [hsaved]
  unfold Job.saveTurns
  cases job.turnCount with
  | none =>
    refine ⟨_, rfl, ?_, ?_, ?_⟩
    · rw [set_refuses, set_refuses]
    · rw [set_accesses, set_accesses]
      omega
    · simp only [found?, summaryPlace, get?_set, htokens, false_and, if_false, true_and]
  | some count =>
    dsimp only
    unfold Record.saveTurns
    rw [keep_memory]
    refine ⟨_, rfl, ?_, ?_, ?_⟩
    · rw [set_refuses, set_refuses, set_refuses]
    · rw [set_accesses, set_accesses, set_accesses]
      omega
    · simp only [found?, summaryPlace, get?_set, htokens, hturns, false_and, if_false, true_and]

lemma keep_file (agent key label : Text) (value : Value) (store : FileStore) :
    ∃ after, (Record.keep agent key label value (.file store)).2 = .file after := by
  unfold Record.keep Store.set
  dsimp only
  rcases store.set agent key value with ⟨notices, after, why | done⟩
  · exact ⟨after, rfl⟩
  · exact ⟨after, rfl⟩

lemma savedIn_file (agent : Text) (job : Job) (summary : Value) (store : FileStore) :
    ∃ after, savedIn agent job summary (.file store) = .file after := by
  unfold savedIn Job.saveSummary Record.saveSummary Job.saveTurns Record.saveTurns
  dsimp only
  obtain ⟨first, hfirst⟩ := keep_file agent Record.summaryKey "summary" summary store
  obtain ⟨second, hsecond⟩ := keep_file agent Record.summarizedAtKey "token count"
    (.int job.answered) first
  rw [hfirst, hsecond]
  cases job.turnCount with
  | none => exact ⟨second, rfl⟩
  | some count => exact keep_file _ _ _ _ second

end Condense.Proofs
