import Condense.Proofs.SeparateAgents
import Condense.Proofs.SerialRuns

/-!
# Calls on stores that grant every look

If no look at an agent's record is refused, both looks of a call find what the store holds, whatever
becomes of the writes. Then it depends on that record and on the turns alone whether a call asks the
provider, and which turns it leaves if it does not.
-/

namespace Condense.Proofs
open Summary

/-- A store that refuses no look at an agent's record. A file has no say in that. -/
def GrantsReads (agent : Text) : Store → Prop
  | .memory table => ∀ count key, table.refuses count (.read agent key) = false
  | .file _ => True

section GrantsReads

variable {agent : Text} {store after : Store}

lemma GrantsReads.read (h : GrantsReads agent store) (hread : Consulted store after) :
    GrantsReads agent after := by
  cases hread with
  | memory table hcount => exact h
  | file table => exact h
  | emptied table hown hcontents => exact h

/-- A look finds what is held, and nothing in a file that cannot be read. -/
lemma GrantsReads.fetch (h : GrantsReads agent store) (key : Text) :
    (Record.fetch agent key store).2.2 = (found? (stateKey agent key) store).getD .null := by
  cases store with
  | memory table =>
    have hgranted : table.refuses table.accesses (.read agent key) = false := h _ _
    unfold Record.fetch Store.get MemoryStore.get
    simp only [hgranted, Bool.false_eq_true, if_false]
    rfl
  | file file =>
    unfold Record.fetch Store.get FileStore.get found?
    dsimp only
    cases file.locked with
    | error why => rfl
    | ok locked =>
      dsimp only
      cases locked.members.2 with
      | error why => rfl
      | ok members => rfl

lemma GrantsReads.recordIn (h : GrantsReads agent store) :
    recordIn agent store = foundRecord agent store := by
  have hfirst := fetch_consulted agent Record.summaryKey store
  have hsecond := fetch_consulted agent Record.summarizedAtKey
    (Record.fetch agent Record.summaryKey store).2.1
  have hrecord : Proofs.recordIn agent store =
      ⟨Record.summaryOf (Record.fetch agent Record.summaryKey store).2.2,
        Record.counter (Record.fetch agent Record.summarizedAtKey
          (Record.fetch agent Record.summaryKey store).2.1).2.2,
        Record.counter (Record.fetch agent Record.turnsAtKey (Record.fetch agent
          Record.summarizedAtKey (Record.fetch agent Record.summaryKey store).2.1).2.1).2.2⟩ := rfl
  rw [hrecord, h.fetch, (h.read hfirst).fetch, (h.read (hfirst.trans hsecond)).fetch, hfirst.held,
    (hfirst.trans hsecond).held]
  rfl

lemma GrantsReads.recordIn_read (h : GrantsReads agent store) (hread : Consulted store after) :
    Proofs.recordIn agent after = Proofs.recordIn agent store := by
  rw [(h.read hread).recordIn, h.recordIn]
  unfold foundRecord
  simp only [hread.held]

lemma GrantsReads.saved (h : GrantsReads agent store) (job : Job) (summary : Value) :
    GrantsReads agent (savedIn agent job summary store) := by
  cases store with
  | memory table =>
    obtain ⟨kept, hkept, hrefuses, -, -⟩ := savedIn_memory agent job summary table
    rw [hkept]
    intro count key
    rw [hrefuses]
    exact h count key
  | file file =>
    obtain ⟨kept, hkept⟩ := savedIn_file agent job summary file
    rw [hkept]
    trivial

end GrantsReads

/-- Both looks find the same record. -/
def sameLooks (record : Record) : Looks := ⟨record, .empty, record, .empty⟩

/-- The turns that a call leaves which is decided from one record and asks no provider; none if it
asks. -/
def unasked? (strategy : Strategy) (registry : Registry) (call : Call) (record : Record)
    (turns : List Turn) : Option (List Turn) :=
  match (strategy.plan registry call turns).2 with
  | .error _ => some turns
  | .ok plan =>
    let stretch := decided plan registry call record turns
    match stretch.next with
    | .stop => some stretch.turns
    | .fail _ => some turns
    | .go job => if (refused? job.timeout).isSome then some turns else none

section Decided

variable {strategy : Strategy} {registry : Registry} {call : Call} {record : Record}
  {turns after : List Turn} {store : Store}

lemma openedTurns_same (strategy : Strategy) (record : Record) (turns : List Turn) :
    openedTurns strategy (sameLooks record) turns = inject record.summary turns := by
  cases strategy with
  | threshold settings => exact if_pos rfl
  | slidingWindow settings limit positive => rfl

lemma decided_rechecked {plan : Plan} (hplan : (strategy.plan registry call turns).2 = .ok plan)
    (record : Record) :
    Rechecked call (sameLooks record) turns strategy
      (decided plan registry call record turns) := by
  have hchecked := check_checked hplan record
  unfold decided
  dsimp only
  generalize plan.check call record turns = stretch at hchecked ⊢
  cases hchecked with
  | stop =>
    rw [← openedTurns_same strategy record turns]
    exact .stop _
  | fail settings hfault =>
    rw [← openedTurns_same (.threshold settings) record turns]
    exact .fail _ hfault
  | threshold settings limits notices hmeasured =>
    exact recheck_rechecked (sameLooks record) (.threshold settings limits notices hmeasured) registry
  | slidingWindow settings limit positive notices =>
    exact recheck_rechecked (sameLooks record) (.slidingWindow settings limit positive notices)
      registry

lemma inject_ne {summary : Text} (h : inject summary turns ≠ turns) :
    summary ≠ [] ∧ isLed turns = false := by
  rwa [Ne, inject_eq_self, not_or, Bool.not_eq_true] at h

/-- Without the provider a call can only put the summary in front. -/
lemma unasked?_cases (h : unasked? strategy registry call record turns = some after) :
    after = turns ∨ after = inject record.summary turns := by
  unfold unasked? at h
  split at h
  case h_1 => exact Or.inl (Option.some.inj h).symm
  case h_2 plan hplan =>
    have hrechecked := decided_rechecked hplan record
    generalize decided plan registry call record turns = stretch at h hrechecked
    cases hrechecked with
    | stop =>
      rw [openedTurns_same] at h
      exact Or.inr (Option.some.inj h).symm
    | fail => exact Or.inl (Option.some.inj h).symm
    | @go _ _ job _ =>
      dsimp only at h
      split at h
      · exact Or.inl (Option.some.inj h).symm
      · contradiction

lemma unasked?_eq_none : unasked? strategy registry call record turns = none ↔
    ∃ plan job, (strategy.plan registry call turns).2 = .ok plan ∧
      (decided plan registry call record turns).next = .go job ∧ refused? job.timeout = none := by
  unfold unasked?
  cases (strategy.plan registry call turns).2 with
  | error fault => simp
  | ok plan =>
    dsimp only
    cases hnext : (decided plan registry call record turns).next with
    | stop => simp [hnext]
    | fail fault => simp [hnext]
    | go job => cases hrefused : refused? job.timeout <;> simp [hnext, hrefused]

lemma compact_read (hstore : GrantsReads call.agent store) {plan : Plan}
    (hplan : (strategy.plan registry call turns).2 = .ok plan) (provider : Request → Reply) :
    ∃ last, Consulted store last ∧
      silent (strategy.compact registry call provider turns store) =
        silent ((decided plan registry call (recordIn call.agent store) turns).perform call provider
          last) := by
  have honce := lookedAt_consulted call.agent store
  obtain ⟨last, hlast, hrun⟩ := compact_of_same hplan (hstore.recordIn_read honce) provider
  refine ⟨last, ?_, hrun⟩
  rcases hlast with rfl | rfl
  · exact honce
  · exact honce.trans (lookedAt_consulted call.agent _)

lemma compact_unasked (hstore : GrantsReads call.agent store)
    (h : unasked? strategy registry call (recordIn call.agent store) turns = some after)
    (provider : Request → Reply) :
    let run := strategy.compact registry call provider turns store
    run.sent = none ∧ Consulted store run.store ∧
      (run.outcome = .ok none ∧ run.turns = after ∨
        after = turns ∧ ∃ fault, run.outcome = .error fault) := by
  dsimp only
  unfold unasked? at h
  split at h
  case h_1 fault hplan =>
    have hrun : silent (strategy.compact registry call provider turns store) =
        ⟨turns, store, [], none, .error fault⟩ := silent_compact_unplanned hplan
    generalize strategy.compact registry call provider turns store = run at hrun ⊢
    obtain ⟨-, hkept, houtcome⟩ := silent_eq hrun
    rw [hkept, houtcome]
    exact ⟨congrArg Run.sent hrun, .refl store, Or.inr ⟨(Option.some.inj h).symm, fault, rfl⟩⟩
  case h_2 plan hplan =>
    obtain ⟨last, hread, hrun⟩ := compact_read hstore hplan provider
    generalize strategy.compact registry call provider turns store = run at hrun ⊢
    generalize decided plan registry call (recordIn call.agent store) turns = stretch at h hrun
    rcases stretch with ⟨left, notices, _ | fault | job⟩
    · rw [silent_perform_ended rfl] at hrun
      obtain ⟨hturns, hkept, houtcome⟩ := silent_eq hrun
      rw [hkept, hturns]
      exact ⟨congrArg Run.sent hrun, hread, Or.inl ⟨houtcome, Option.some.inj h⟩⟩
    · rw [silent_perform_ended rfl] at hrun
      obtain ⟨-, hkept, houtcome⟩ := silent_eq hrun
      rw [hkept]
      exact ⟨congrArg Run.sent hrun, hread, Or.inr ⟨(Option.some.inj h).symm, fault, houtcome⟩⟩
    · dsimp only at h
      split at h
      case isTrue hsome =>
        obtain ⟨fault, hrefused⟩ := Option.isSome_iff_exists.mp hsome
        rw [silent_perform_go rfl, silent_perform_refused hrefused] at hrun
        obtain ⟨-, hkept, houtcome⟩ := silent_eq hrun
        rw [hkept]
        exact ⟨congrArg Run.sent hrun, hread, Or.inr ⟨(Option.some.inj h).symm, fault, houtcome⟩⟩
      case isFalse => contradiction

/-- What a call that asks the provider comes to. -/
structure Asked (strategy : Strategy) (registry : Registry) (call : Call)
    (provider : Request → Reply) (turns : List Turn) (store : Store) (bound : Nat) (job : Job)
    (run : Run (Option Compaction)) : Prop where
  settled : ∃ plan, (strategy.plan registry call turns).2 = .ok plan ∧
    (decided plan registry call (recordIn call.agent store) turns).next = .go job
  prepared : Prepared strategy.settings call (recordIn call.agent store).summary
    (cutTurns strategy (sameLooks (recordIn call.agent store)) turns) bound job
  sent : run.sent = some job.request
  unanswered : ∀ fault, (job.request.receive job.timeout (provider job.request)).2 = .error fault →
    run.outcome = .error fault
  answered : ∀ summary, (job.request.receive job.timeout (provider job.request)).2 = .ok summary →
    (∃ result, run.outcome = .ok (some result)) ∧ run.turns = job.compacted summary ∧
      ∃ last, Consulted store last ∧ run.store = savedIn call.agent job summary last

lemma compact_asked (hstore : GrantsReads call.agent store)
    (h : unasked? strategy registry call (recordIn call.agent store) turns = none)
    (provider : Request → Reply) :
    ∃ bound job, Asked strategy registry call provider turns store bound job
      (strategy.compact registry call provider turns store) := by
  obtain ⟨plan, job, hplan, hgo, hrefused⟩ := unasked?_eq_none.mp h
  obtain ⟨last, hread, hrun⟩ := compact_read hstore hplan provider
  have hrechecked := decided_rechecked hplan (recordIn call.agent store)
  have hsettled := hgo
  generalize strategy.compact registry call provider turns store = run at hrun ⊢
  generalize decided plan registry call (recordIn call.agent store) turns =
    stretch at hgo hrun hrechecked
  cases hrechecked with
  | stop | fail => contradiction
  | @go notices bound other hjob =>
    cases hgo
    rw [silent_perform_go rfl] at hrun
    cases hreceive : (job.request.receive job.timeout (provider job.request)).2 with
    | error fault =>
      rw [silent_perform_unanswered hrefused hreceive] at hrun
      obtain ⟨-, -, houtcome⟩ := silent_eq hrun
      refine ⟨bound, job, ⟨plan, hplan, hsettled⟩, hjob, congrArg Run.sent hrun, ?_, ?_⟩
      · intro other hother
        rw [houtcome, Except.error.inj (hreceive.symm.trans hother)]
      · intro summary hsummary
        rw [hreceive] at hsummary
        contradiction
    | ok found =>
      rw [silent_perform_answered hrefused hreceive] at hrun
      obtain ⟨hturns, hkept, houtcome⟩ := silent_eq hrun
      rw [concluded, hjob.result_eq] at houtcome
      refine ⟨bound, job, ⟨plan, hplan, hsettled⟩, hjob, congrArg Run.sent hrun, ?_, ?_⟩
      · intro fault hfault
        rw [hreceive] at hfault
        contradiction
      · intro summary hsummary
        obtain rfl : found = summary := Except.ok.inj (hreceive.symm.trans hsummary)
        exact ⟨⟨_, houtcome⟩, hturns, last, hread, hkept⟩

end Decided

/-- The turns that a call of the guard leaves which asks no provider; none if it asks. -/
def passed? (guard : Guard) (registry : Registry) (call : Call) (record : Record)
    (turns : List Turn) : Option (List Turn) :=
  if turns.isEmpty then some turns
  else match guard.strategyFor? call.agent with
  | none => some turns
  | some installed => unasked? installed.strategy registry call record turns

section Guarded

variable {guard : Guard} {registry : Registry} {call : Call} {turns after : List Turn}
  {store : Store}

lemma passed?_cases {record : Record} (h : passed? guard registry call record turns = some after) :
    after = turns ∨ after = inject record.summary turns := by
  unfold passed? at h
  split at h
  case isTrue => exact Or.inl (Option.some.inj h).symm
  case isFalse =>
    split at h
    case h_1 => exact Or.inl (Option.some.inj h).symm
    case h_2 => exact unasked?_cases h

/-- A call that need not ask the provider leaves what is told from the record and the turns. -/
lemma beforeModelCall_passed (hstore : GrantsReads call.agent store)
    (h : passed? guard registry call (recordIn call.agent store) turns = some after)
    (provider : Request → Reply) :
    let run := guard.beforeModelCall registry call provider turns store
    run.sent = none ∧ Consulted store run.store ∧ run.turns = after := by
  dsimp only
  unfold passed? at h
  split at h
  case isTrue hnone =>
    unfold Guard.beforeModelCall
    rw [if_pos hnone]
    exact ⟨rfl, .refl store, Option.some.inj h⟩
  case isFalse hsome =>
    split at h
    case h_1 hnone =>
      unfold Guard.beforeModelCall
      rw [if_neg hsome, hnone]
      exact ⟨rfl, .refl store, Option.some.inj h⟩
    case h_2 installed hinstalled =>
      obtain ⟨hsent, hread, hends⟩ := compact_unasked hstore h provider
      have hguarded := beforeModelCall_guarded (by simpa using hsome) hinstalled registry provider
        store
      generalize guard.beforeModelCall registry call provider turns store = run at hguarded ⊢
      have hfailed : ∀ fault, (installed.strategy.compact registry call provider turns
          store).outcome = .error fault → turns = after := by
        intro fault hfault
        rcases hends with ⟨hnone, -⟩ | ⟨hafter, -⟩
        · rw [hfault] at hnone
          contradiction
        · exact hafter.symm
      cases hguarded with
      | passed notices hresult =>
        refine ⟨hsent, hread, ?_⟩
        rcases hends with ⟨-, hleft⟩ | ⟨-, fault, hfault⟩
        · exact hleft
        · rw [hresult] at hfault
          contradiction
      | failed notices hfault => exact ⟨hsent, hread, hfailed _ hfault⟩
      | cancelled notices hfault => exact ⟨hsent, hread, hfailed _ hfault⟩

lemma beforeModelCall_asked (hstore : GrantsReads call.agent store)
    (h : passed? guard registry call (recordIn call.agent store) turns = none)
    (provider : Request → Reply) :
    ∃ installed bound job, guard.strategyFor? call.agent = some installed ∧ turns ≠ [] ∧
      Asked installed.strategy registry call provider turns store bound job
        (installed.strategy.compact registry call provider turns store) ∧
      Guarded turns (installed.strategy.compact registry call provider turns store)
        (guard.beforeModelCall registry call provider turns store) := by
  unfold passed? at h
  split at h
  case isTrue => contradiction
  case isFalse hsome =>
    split at h
    case h_1 => contradiction
    case h_2 installed hinstalled =>
      have hturns : turns ≠ [] := by simpa using hsome
      obtain ⟨bound, job, hasked⟩ := compact_asked hstore h provider
      exact ⟨installed, bound, job, hinstalled, hturns, hasked,
        beforeModelCall_guarded hturns hinstalled registry provider store⟩

lemma Guarded.sent_eq {run : Run (Option Compaction)} {outer : Run Unit}
    (h : Guarded turns run outer) : outer.sent = run.sent := by
  cases h <;> rfl

lemma Guarded.store_eq {run : Run (Option Compaction)} {outer : Run Unit}
    (h : Guarded turns run outer) : outer.store = run.store := by
  cases h <;> rfl

lemma beforeModelCall_sent (hstore : GrantsReads call.agent store) (provider : Request → Reply) :
    (guard.beforeModelCall registry call provider turns store).sent = none ↔
      passed? guard registry call (recordIn call.agent store) turns ≠ none := by
  cases hpassed : passed? guard registry call (recordIn call.agent store) turns with
  | some after =>
    obtain ⟨hsent, -, -⟩ := beforeModelCall_passed hstore hpassed provider
    simp [hsent]
  | none =>
    obtain ⟨installed, bound, job, -, -, hasked, hguarded⟩ :=
      beforeModelCall_asked hstore hpassed provider
    simp [hguarded.sent_eq, hasked.sent]

end Guarded

end Condense.Proofs
