import Condense.Proofs.FailOpen
import Condense.Proofs.MechanicalSummaries
import Condense.Proofs.StoreWrites

/-!
# Dialogues

A host appends turns to one list and calls the guard on it, in any order. Whatever the store and the
provider do, the list is a part of what was appended, counted from the end, behind at most one
summary.
-/

namespace Condense.Proofs
open Summary

/-- The turns `kept`, or a summary in front of them. -/
inductive Behind (kept : List Turn) : List Turn → Prop where
  | bare : Behind kept kept
  | led {summary : Text} (h : summary ≠ []) : Behind kept (turnOf summary :: kept)

/-- No turn carries a summary. -/
def Plain (turns : List Turn) : Prop := ∀ turn ∈ turns, isSummary turn = false

/-- The given turns, or the turns `kept` behind a summary that one of two looks found. -/
inductive Found (looks : Looks) (kept turns : List Turn) : List Turn → Prop where
  | same : Found looks kept turns turns
  | led {summary : Text} (h : summary ≠ [])
      (hfound : summary = looks.first.summary ∨ summary = looks.second.summary) :
      Found looks kept turns (turnOf summary :: kept)

instance (turns : List Turn) : Decidable (Plain turns) :=
  inferInstanceAs (Decidable (∀ turn ∈ turns, isSummary turn = false))

lemma Plain.not_isLed {turns : List Turn} (h : Plain turns) : isLed turns = false := by
  cases turns with
  | nil => rfl
  | cons first rest => exact h first List.mem_cons_self

lemma Plain.of_eq_append {turns dropped kept : List Turn} (h : Plain turns)
    (hturns : turns = dropped ++ kept) : Plain kept := by
  intro turn hturn
  apply h
  rw [hturns]
  exact List.mem_append_right dropped hturn

lemma Plain.append {front back : List Turn} (hfront : Plain front) (hback : Plain back) :
    Plain (front ++ back) := by
  intro turn hturn
  rcases List.mem_append.mp hturn with hmem | hmem
  · exact hfront turn hmem
  · exact hback turn hmem

section Behind

variable {looks : Looks} {kept turns after : List Turn}

lemma Behind.append (h : Behind kept turns) (more : List Turn) :
    Behind (kept ++ more) (turns ++ more) := by
  cases h with
  | bare => exact .bare
  | led hsummary => exact .led hsummary

lemma Behind.found (h : Behind kept turns) (hafter : Found looks kept turns after) :
    Behind kept after := by
  cases hafter with
  | same => exact h
  | led hsummary hfound => exact .led hsummary

lemma Behind.injected (h : Behind kept turns) (hplain : Plain kept) {summary : Text}
    (hfound : summary = looks.first.summary ∨ summary = looks.second.summary) :
    Found looks kept turns (inject summary turns) := by
  by_cases hnone : summary = []
  · rw [hnone]
    exact .same
  · cases h with
    | bare =>
      rw [inject_of_not_isLed hnone hplain.not_isLed]
      exact .led hnone hfound
    | led hlead =>
      rw [inject_of_isLed summary (isLed_turnOf _ kept)]
      exact .same

lemma Behind.renewed (h : Behind kept turns) (hplain : Plain kept) {summary : Text}
    (hnone : summary ≠ []) : renew summary turns = turnOf summary :: kept := by
  cases h with
  | bare => exact renew_of_not_isLed hnone hplain.not_isLed
  | led hlead => exact renew_of_isSummary kept hnone (isSummary_turnOf _)

lemma Behind.cut (h : Behind kept turns) (hplain : Plain kept) (strategy : Strategy) :
    Found looks kept turns (cutTurns strategy looks turns) := by
  cases strategy with
  | slidingWindow settings limit positive => exact .same
  | threshold settings =>
    have hinject : Found looks kept turns (inject looks.first.summary turns) :=
      h.injected hplain (Or.inl rfl)
    unfold cutTurns
    dsimp only
    split
    · exact hinject
    · by_cases hnone : looks.second.summary = []
      · rw [hnone]
        exact hinject
      · rw [(h.found hinject).renewed hplain hnone]
        exact .led hnone (Or.inr rfl)

lemma Behind.opened (h : Behind kept turns) (hplain : Plain kept) (strategy : Strategy) :
    Found looks kept turns (openedTurns strategy looks turns) := by
  cases strategy with
  | slidingWindow settings limit positive => exact h.injected hplain (Or.inr rfl)
  | threshold settings => exact h.cut hplain (.threshold settings)

lemma Behind.parts {before : List Turn} (h : Behind kept before) (hplain : Plain kept)
    {settings : Settings} {call : Call} {previous : Text} {bound : Nat} {job : Job}
    (hjob : Prepared settings call previous before bound job) :
    job.request.turns ++ job.kept = kept := by
  have htake : ∀ count, (kept.take count).filter (fun turn => !isSummary turn) =
      kept.take count := by
    intro count
    apply List.filter_eq_self.mpr
    intro turn hturn
    simp [hplain turn (List.mem_of_mem_take hturn)]
  have hold := hjob.old
  have hkept := hjob.kept
  cases h with
  | bare =>
    rw [hold, hkept, htake, List.take_append_drop]
  | @led summary hsummary =>
    -- The boundary counts the summary, which is cut off but not asked about.
    cases bound with
    | zero => exact absurd hold hjob.exists_old
    | succ count =>
      rw [List.take_succ_cons, List.filter_cons_of_neg (by simp), htake] at hold
      rw [hold, hkept, List.drop_succ_cons, List.take_append_drop]

end Behind

/-- How a call of the guard leaves a list on which turns stand behind at most one summary: it puts a
summary there that it found, and otherwise only reads; or it compacts. -/
inductive Called (guard : Guard) (call : Call) (provider : Request → Reply)
    (kept turns : List Turn) (store : Store) (run : Run Unit) : Prop where
  | quiet (hturns : Found (looksAt call.agent store) kept turns run.turns)
      (hstore : Consulted store run.store)
  | compacted {installed : Installed}
      (hinstalled : guard.strategyFor? call.agent = some installed) {bound : Nat} {job : Job}
      (hjob : Prepared installed.strategy.settings call (looksAt call.agent store).second.summary
        (cutTurns installed.strategy (looksAt call.agent store) turns) bound job)
      (hparts : job.request.turns ++ job.kept = kept) {summary : Value}
      (hsummary : (job.request.receive job.timeout (provider job.request)).2 = .ok summary)
      (hturns : run.turns = turnOf summary.plain :: job.kept)
      (hstore : run.store =
        savedIn call.agent job summary (looksAt call.agent store).twice)

theorem beforeModelCall_called (guard : Guard) (registry : Registry) (call : Call)
    (provider : Request → Reply) {kept turns : List Turn} (store : Store)
    (h : Behind kept turns) (hplain : Plain kept) :
    Called guard call provider kept turns store
      (guard.beforeModelCall registry call provider turns store) := by
  rcases beforeModelCall_cases guard registry call provider turns store with
    ⟨-, hnothing⟩ | ⟨installed, hinstalled, -, hguarded⟩
  · rw [hnothing]
    exact .quiet .same (.refl store)
  · obtain ⟨honce, htwice⟩ := looksAt_consulted call.agent store
    have hcourse := compact_course installed.strategy registry call provider turns store
    generalize hcompact : installed.strategy.compact registry call provider turns store = run
      at hcourse hguarded
    generalize guard.beforeModelCall registry call provider turns store = whole at hguarded ⊢
    -- Whether it is reported or passed on, a failure has only read the store.
    cases hguarded with
    | failed notices hfault hcancellation =>
      rw [← hcompact] at hfault ⊢
      exact .quiet .same (compact_error hfault).1
    | cancelled notices hfault hcancellation =>
      rw [← hcompact] at hfault ⊢
      exact .quiet .same (compact_error hfault).1
    | passed notices hresult =>
      generalize hlooks : looksAt call.agent store = looks at honce htwice hcourse
      cases hcourse with
      | idle told =>
        refine .quiet ?_ honce
        rw [hlooks]
        exact h.injected hplain (Or.inl rfl)
      | idleAfterAll told =>
        refine .quiet ?_ htwice
        rw [hlooks]
        exact h.opened hplain installed.strategy
      | compacted told hjob hsummary _ =>
        have hparts := (h.found (h.cut hplain installed.strategy)).parts hplain hjob
        subst hlooks
        exact .compacted hinstalled hjob hparts hsummary rfl rfl
      | _ => cases hresult

/-- A list that a host has appended turns to, everything that it appended, and the store. -/
structure Dialogue where
  appended : List Turn := []
  turns : List Turn := []
  store : Store

/-- What a host does: it appends turns, or it calls the guard because it is about to call a model. -/
inductive Event where
  | append (turns : List Turn)
  | call (registry : Registry) (system model : Text) (provider : Request → Reply)

/-- A host does not append summaries. -/
def Event.IsPlain : Event → Prop
  | .append turns => Plain turns
  | .call .. => True

instance (event : Event) : Decidable event.IsPlain :=
  match event with
  | .append turns => inferInstanceAs (Decidable (Plain turns))
  | .call .. => isTrue trivial

namespace Dialogue

def step (guard : Guard) (agent : Text) (dialogue : Dialogue) : Event → Dialogue
  | .append turns =>
    { dialogue with
      appended := dialogue.appended ++ turns
      turns := dialogue.turns ++ turns }
  | .call registry system model provider =>
    let run := guard.beforeModelCall registry ⟨agent, system, model⟩ provider dialogue.turns
      dialogue.store
    { dialogue with turns := run.turns, store := run.store }

def run (guard : Guard) (agent : Text) (dialogue : Dialogue) (events : List Event) : Dialogue :=
  events.foldl (step guard agent) dialogue

/-- What every event preserves holds after all of them. -/
lemma run_invariant {guard : Guard} {agent : Text} {allowed : Event → Prop}
    {invariant : Dialogue → Prop}
    (hstep : ∀ dialogue event, allowed event → invariant dialogue →
      invariant (dialogue.step guard agent event))
    {dialogue : Dialogue} {events : List Event} (hevents : ∀ event ∈ events, allowed event)
    (h : invariant dialogue) : invariant (dialogue.run guard agent events) := by
  induction events generalizing dialogue with
  | nil => exact h
  | cons event rest ih =>
    have hfirst := hstep dialogue event (hevents event List.mem_cons_self) h
    exact ih (fun later hlater => hevents later (List.mem_cons_of_mem event hlater)) hfirst

/-- The list is a part of what was appended, counted from the end, behind at most one summary. -/
structure Grown (dialogue : Dialogue) : Prop where
  plain : Plain dialogue.appended
  behind : ∃ dropped kept, dialogue.appended = dropped ++ kept ∧ Behind kept dialogue.turns

theorem grown_step (guard : Guard) (agent : Text) (dialogue : Dialogue) (event : Event)
    (hevent : event.IsPlain) (h : dialogue.Grown) : (dialogue.step guard agent event).Grown := by
  obtain ⟨hplain, dropped, kept, happended, hbehind⟩ := h
  cases event with
  | append turns =>
    refine ⟨hplain.append hevent, dropped, kept ++ turns, ?_, hbehind.append turns⟩
    rw [← List.append_assoc, ← happended]
    rfl
  | call registry system model provider =>
    have hkept := hplain.of_eq_append happended
    have hcalled := beforeModelCall_called guard registry ⟨agent, system, model⟩ provider
      dialogue.store hbehind hkept
    refine ⟨hplain, ?_⟩
    unfold step
    dsimp only
    cases hcalled with
    | quiet hturns _ => exact ⟨dropped, kept, happended, hbehind.found hturns⟩
    | @compacted _ _ _ job hjob hparts _ hsummary hturns _ =>
      refine ⟨dropped ++ job.request.turns, job.kept, ?_, ?_⟩
      · rw [happended, ← hparts, List.append_assoc]
      · rw [hturns]
        exact .led (plain_ne_nil hsummary hjob.exists_old)

lemma grown_start (store : Store) : Grown { store } :=
  ⟨by simp [Plain], [], [], rfl, .bare⟩

theorem grown_run (guard : Guard) (agent : Text) (store : Store) {events : List Event}
    (hevents : ∀ event ∈ events, event.IsPlain) :
    (run guard agent { store } events).Grown :=
  run_invariant (grown_step guard agent) hevents (grown_start store)

end Dialogue

end Condense.Proofs
