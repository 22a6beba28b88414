import Condense.Proofs.CompactionSteps

/-!
# Looking into stores

Looking for a value counts the access in memory, and it takes a file's lock. That empties a file
that is its own lock; every other store keeps its values. In every case a later look finds what an
earlier one would have found.
-/

namespace Condense.Proofs

/-- The value that lies in a store under a key, whether or not a reader could get at it. -/
def stored? (key : Key) : Store → Option Value
  | .memory store => Assoc.get? key store.entries
  | .file store => store.members.2.toOption.bind (Assoc.get? key)

/-- The value that is found under a key by a reader who takes a file's lock first and whose access is
not refused. In a file that is its own lock there is none, whatever lay in it before. -/
def found? (key : Key) : Store → Option Value
  | .memory store => Assoc.get? key store.entries
  | .file store =>
    match store.locked with
    | .error _ => none
    | .ok store =>
      match store.members.2 with
      | .error _ => none
      | .ok members => Assoc.get? key members

/-- The second store is the first one after some looks into it. They have cost a file that is its
own lock all of its contents. -/
inductive Consulted : Store → Store → Prop where
  | memory (store : MemoryStore) {accesses : Nat} (h : store.accesses ≤ accesses) :
      Consulted (.memory store) (.memory { store with accesses })
  | file (store : FileStore) : Consulted (.file store) (.file store)
  | emptied (store : FileStore) (hown : store.isOwnLock = true)
      (hcontents : store.contents ≠ .directory) :
      Consulted (.file store) (.file { store with contents := .octets [] })

lemma Consulted.refl (store : Store) : Consulted store store := by
  cases store with
  | memory store => exact .memory store (Nat.le_refl _)
  | file store => exact .file store

lemma Consulted.trans {first second third : Store} (h : Consulted first second)
    (h' : Consulted second third) : Consulted first third := by
  cases h with
  | memory store hcount =>
    cases h' with
    | memory _ hlater => exact .memory store (Nat.le_trans hcount hlater)
  | file store => exact h'
  | emptied store hown hcontents =>
    cases h' with
    | file _ => exact .emptied store hown hcontents
    | emptied _ _ _ => exact .emptied store hown hcontents

lemma locked_cases (store : FileStore) :
    (store.contents = .directory ∧ ∃ why, store.locked = .error why) ∨
      (store.isOwnLock = false ∧ store.locked = .ok store) ∨
      (store.isOwnLock = true ∧ store.contents ≠ .directory ∧
        store.locked = .ok { store with contents := .octets [] }) := by
  unfold FileStore.locked
  cases hown : store.isOwnLock with
  | false => exact Or.inr (Or.inl ⟨rfl, rfl⟩)
  | true =>
    cases hcontents : store.contents with
    | directory => exact Or.inl ⟨rfl, _, rfl⟩
    | absent => exact Or.inr (Or.inr ⟨rfl, by simp, rfl⟩)
    | octets bytes => exact Or.inr (Or.inr ⟨rfl, by simp, rfl⟩)

/-- Looking into a file does not change what is found once its lock is held. -/
lemma Consulted.locked {store : FileStore} {after : Store} (h : Consulted (.file store) after) :
    ∃ later : FileStore, after = .file later ∧ later.locked = store.locked := by
  cases h with
  | file store => exact ⟨store, rfl, rfl⟩
  | emptied store hown hcontents =>
    refine ⟨_, rfl, ?_⟩
    have hafter : FileStore.locked { store with contents := .octets [] } =
        .ok { store with contents := .octets [] } := if_pos hown
    rw [hafter]
    rcases locked_cases store with ⟨hdirectory, -⟩ | ⟨hother, -⟩ | ⟨-, -, hlocked⟩
    · exact absurd hdirectory hcontents
    · rw [hown] at hother
      contradiction
    · exact hlocked.symm

/-- A later reader finds what an earlier one would have found. -/
theorem Consulted.held {before after : Store} (h : Consulted before after) (key : Key) :
    found? key after = found? key before := by
  cases before with
  | memory store =>
    cases h with
    | memory _ hcount => rfl
  | file store =>
    obtain ⟨later, rfl, hlocked⟩ := h.locked
    unfold found?
    dsimp only
    rw [hlocked]

/-- The store is a file that is its own lock. -/
def locksItself : Store → Bool
  | .memory _ => false
  | .file store => store.isOwnLock

lemma stored?_emptied (store : FileStore) (key : Key) :
    stored? key (.file { store with contents := .octets [] }) = none := rfl

lemma Consulted.stored {before after : Store} (h : Consulted before after)
    (happart : locksItself before = false) (key : Key) : stored? key after = stored? key before := by
  cases h with
  | memory | file => rfl
  | emptied store hown =>
    have hother : store.isOwnLock = false := happart
    rw [hown] at hother
    contradiction

lemma Consulted.stored_none {before after : Store} (h : Consulted before after) {key : Key}
    (hnone : stored? key before = none) : stored? key after = none := by
  cases h with
  | memory | file => exact hnone
  | emptied store => exact stored?_emptied store key

lemma get_consulted (agent key : Text) (store : Store) :
    Consulted store (store.get agent key).2.1 := by
  cases store with
  | memory store => exact .memory store (Nat.le_succ _)
  | file store =>
    unfold Store.get FileStore.get
    rcases locked_cases store with ⟨-, why, hwhy⟩ | ⟨-, hsame⟩ | ⟨hown, hcontents, hempty⟩
    · simp only [hwhy]
      exact .file store
    · simp only [hsame]
      exact .file store
    · simp only [hempty]
      exact .emptied store hown hcontents

lemma fetch_store (agent key : Text) (store : Store) :
    (Record.fetch agent key store).2.1 = (store.get agent key).2.1 := by
  unfold Record.fetch
  rcases store.get agent key with ⟨notices, after, why | value⟩ <;> rfl

lemma fetch_consulted (agent key : Text) (store : Store) :
    Consulted store (Record.fetch agent key store).2.1 := by
  rw [fetch_store]
  exact get_consulted agent key store

theorem lookedAt_consulted (agent : Text) (store : Store) :
    Consulted store (lookedAt agent store) := by
  have hsummary := fetch_consulted agent Record.summaryKey store
  have htokens := fetch_consulted agent Record.summarizedAtKey
    (Record.fetch agent Record.summaryKey store).2.1
  exact hsummary.trans (htokens.trans (fetch_consulted agent Record.turnsAtKey _))

lemma stored?_get {file : FileStore} (hown : file.isOwnLock = true) (agent name : Text) (key : Key) :
    stored? key (Store.get agent name (.file file)).2.1 = none := by
  unfold Store.get FileStore.get
  rcases locked_cases file with ⟨hdirectory, why, hwhy⟩ | ⟨hother, -⟩ | ⟨-, -, hempty⟩
  · have hmembers : file.members.2 = .ok [] := by
      unfold FileStore.members
      rw [hdirectory]
    simp only [hwhy, stored?, hmembers]
    rfl
  · rw [hown] at hother
    contradiction
  · simp only [hempty]
    exact stored?_emptied file key

/-- Nothing lies any more in a file that is its own lock, once a record has been looked for there. -/
lemma stored?_lookedAt {store : Store} (hown : locksItself store = true) (agent : Text) (key : Key) :
    stored? key (lookedAt agent store) = none := by
  have hfirst : stored? key (Record.fetch agent Record.summaryKey store).2.1 = none := by
    cases store with
    | memory table => contradiction
    | file file =>
      have hlock : file.isOwnLock = true := hown
      have hget := stored?_get hlock agent Record.summaryKey key
      rw [← fetch_store] at hget
      exact hget
  have hlater := (fetch_consulted agent Record.summarizedAtKey _).stored_none hfirst
  exact (fetch_consulted agent Record.turnsAtKey _).stored_none hlater

theorem looksAt_consulted (agent : Text) (store : Store) :
    Consulted store (looksAt agent store).once ∧ Consulted store (looksAt agent store).twice := by
  have honce := lookedAt_consulted agent store
  rw [looksAt_once, looksAt_twice]
  exact ⟨honce, honce.trans (lookedAt_consulted agent (lookedAt agent store))⟩

end Condense.Proofs
