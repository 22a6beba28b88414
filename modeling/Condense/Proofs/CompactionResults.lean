import Condense.Proofs.CompactionSteps

/-!
# What a compaction comes to

Apart from its notices, a compaction is determined by what its strategy decides at the two looks at
the record and by the reply to its request. This file computes it from there, one wait after the
other.
-/

namespace Condense.Proofs
open Summary

/-- A run without its notices. -/
def silent {α : Type} (run : Run α) : Run α := { run with notices := [] }

/-- The outcome of a stretch of work after which nothing follows. -/
def ended? {α : Type} : Next α → Option (Except Fault (Option Compaction))
  | .stop => some (.ok none)
  | .fail fault => some (.error fault)
  | .go _ => none

/-- The outcome of a compaction whose summary has been kept. -/
def concluded (job : Job) (call : Call) (summary : Value) : Except Fault (Option Compaction) :=
  (job.result call summary).map some

section Silent

variable {strategy : Strategy} {registry : Registry} {call : Call} {provider : Request → Reply}
  {turns : List Turn} {store : Store}

lemma silent_eq {α : Type} {run : Run α} {sent : Option Request} {outcome : Except Fault α}
    (h : silent run = ⟨turns, store, [], sent, outcome⟩) :
    run.turns = turns ∧ run.store = store ∧ run.outcome = outcome := by
  cases run
  cases h
  exact ⟨rfl, rfl, rfl⟩

lemma silent_compact_unplanned {fault : Fault}
    (h : (strategy.plan registry call turns).2 = .error fault) :
    silent (strategy.compact registry call provider turns store) =
      ⟨turns, store, [], none, .error fault⟩ := by
  unfold Strategy.compact
  rcases hplan : strategy.plan registry call turns with ⟨notices, why | plan⟩
  · rw [hplan] at h
    cases h
    rfl
  · rw [hplan] at h
    cases h

lemma silent_compact_planned {plan : Plan} (h : (strategy.plan registry call turns).2 = .ok plan) :
    silent (strategy.compact registry call provider turns store) =
      silent ((plan.check call (recordIn call.agent store) turns).confirm registry call provider
        (lookedAt call.agent store)) := by
  unfold Strategy.compact
  rcases hplan : strategy.plan registry call turns with ⟨notices, why | found⟩
  · rw [hplan] at h
    cases h
  · rw [hplan] at h
    cases h
    rfl

lemma silent_confirm_ended {stretch : Stretch Pending}
    {outcome : Except Fault (Option Compaction)} (h : ended? stretch.next = some outcome) :
    silent (stretch.confirm registry call provider store) =
      ⟨stretch.turns, store, [], none, outcome⟩ := by
  rcases stretch with ⟨after, notices, _ | fault | pending⟩
  all_goals cases h
  all_goals rfl

lemma silent_confirm_go {stretch : Stretch Pending} {pending : Pending}
    (h : stretch.next = .go pending) :
    silent (stretch.confirm registry call provider store) =
      silent ((pending.recheck registry call (recordIn call.agent store) stretch.turns).perform call
        provider (lookedAt call.agent store)) := by
  rcases stretch with ⟨after, told, next⟩
  obtain rfl : next = .go pending := h
  obtain ⟨notices, hconfirm⟩ := confirm_go registry provider after told pending store
  rw [hconfirm]
  rfl

lemma silent_perform_ended {stretch : Stretch Job} {outcome : Except Fault (Option Compaction)}
    (h : ended? stretch.next = some outcome) :
    silent (stretch.perform call provider store) = ⟨stretch.turns, store, [], none, outcome⟩ := by
  rcases stretch with ⟨after, notices, _ | fault | job⟩
  all_goals cases h
  all_goals rfl

lemma silent_perform_go {stretch : Stretch Job} {job : Job} (h : stretch.next = .go job) :
    silent (stretch.perform call provider store) =
      silent (job.perform call provider stretch.turns store) := by
  rcases stretch with ⟨after, notices, next⟩
  obtain rfl : next = .go job := h
  rfl

variable {job : Job}

lemma silent_perform_refused {fault : Fault} (h : refused? job.timeout = some fault) :
    silent (job.perform call provider turns store) =
      ⟨turns, store, [], none, .error fault⟩ := by
  unfold Job.perform ask
  rw [h]
  rfl

lemma silent_perform_unanswered {fault : Fault} (h : refused? job.timeout = none)
    (hfault : (job.request.receive job.timeout (provider job.request)).2 = .error fault) :
    silent (job.perform call provider turns store) =
      ⟨turns, store, [], some job.request, .error fault⟩ := by
  unfold Job.perform ask
  rw [h]
  rcases hreceive : job.request.receive job.timeout (provider job.request) with ⟨notices, result⟩
  rw [hreceive] at hfault
  cases hfault
  rfl

lemma silent_perform_answered {summary : Value} (h : refused? job.timeout = none)
    (hsummary : (job.request.receive job.timeout (provider job.request)).2 = .ok summary) :
    silent (job.perform call provider turns store) =
      ⟨job.compacted summary, savedIn call.agent job summary store, [], some job.request,
        concluded job call summary⟩ := by
  unfold Job.perform ask
  rw [h]
  rcases hreceive : job.request.receive job.timeout (provider job.request) with ⟨notices, result⟩
  rw [hreceive] at hsummary
  cases hsummary
  dsimp only
  unfold Job.conclude concluded
  cases job.result call summary <;> rfl

end Silent

section Succeeded

variable {strategy : Strategy} {registry : Registry} {call : Call} {provider : Request → Reply}
  {turns : List Turn} {store : Store} {result : Compaction}

lemma exists_plan
    (h : (strategy.compact registry call provider turns store).outcome = .ok (some result)) :
    ∃ plan, (strategy.plan registry call turns).2 = .ok plan := by
  cases hplan : (strategy.plan registry call turns).2 with
  | error fault =>
    obtain ⟨-, -, houtcome⟩ := silent_eq (silent_compact_unplanned hplan)
    rw [h] at houtcome
    contradiction
  | ok plan => exact ⟨plan, rfl⟩

lemma exists_pending {stretch : Stretch Pending}
    (h : (stretch.confirm registry call provider store).outcome = .ok (some result)) :
    ∃ pending, stretch.next = .go pending := by
  rcases stretch with ⟨after, notices, _ | fault | pending⟩
  · cases h
  · cases h
  · exact ⟨pending, rfl⟩

lemma exists_job {stretch : Stretch Job}
    (h : (stretch.perform call provider store).outcome = .ok (some result)) :
    ∃ job, stretch.next = .go job := by
  rcases stretch with ⟨after, notices, _ | fault | job⟩
  · cases h
  · cases h
  · exact ⟨job, rfl⟩

lemma exists_summary {job : Job}
    (h : (job.perform call provider turns store).outcome = .ok (some result)) :
    ∃ summary, job.result call summary = .ok result ∧
      silent (job.perform call provider turns store) =
        ⟨job.compacted summary, savedIn call.agent job summary store, [], some job.request,
          .ok (some result)⟩ := by
  cases hrefused : refused? job.timeout with
  | some fault =>
    obtain ⟨-, -, houtcome⟩ := silent_eq (silent_perform_refused hrefused)
    rw [h] at houtcome
    contradiction
  | none =>
    cases hreceive : (job.request.receive job.timeout (provider job.request)).2 with
    | error fault =>
      obtain ⟨-, -, houtcome⟩ := silent_eq (silent_perform_unanswered hrefused hreceive)
      rw [h] at houtcome
      contradiction
    | ok summary =>
      have hrun : silent (job.perform call provider turns store) = _ :=
        silent_perform_answered hrefused hreceive
      obtain ⟨-, -, houtcome⟩ := silent_eq hrun
      rw [h] at houtcome
      rw [← houtcome] at hrun
      cases hresult : job.result call summary with
      | error fault =>
        rw [concluded, hresult] at houtcome
        contradiction
      | ok found =>
        rw [concluded, hresult] at houtcome
        cases houtcome
        exact ⟨summary, hresult, hrun⟩

end Succeeded

section Failed

variable {strategy : Strategy} {registry : Registry} {call : Call} {provider : Request → Reply}
  {turns : List Turn} {store : Store} {looks : Looks} {fault : Fault}

lemma perform_failed {stretch : Stretch Job} (h : Rechecked call looks turns strategy stretch)
    (hfault : (stretch.perform call provider store).outcome = .error fault) :
    (stretch.perform call provider store).turns = cutTurns strategy looks turns ∧
      (stretch.perform call provider store).store = store := by
  cases h with
  | stop => contradiction
  | fail => exact ⟨rfl, rfl⟩
  | @go notices bound job hjob =>
    have hrun : silent (Stretch.perform ⟨cutTurns strategy looks turns, notices, .go job⟩ call
        provider store) = silent (job.perform call provider (cutTurns strategy looks turns) store) :=
      silent_perform_go rfl
    cases hrefused : refused? job.timeout with
    | some why =>
      rw [silent_perform_refused hrefused] at hrun
      obtain ⟨hturns, hstore, -⟩ := silent_eq hrun
      exact ⟨hturns, hstore⟩
    | none =>
      cases hreceive : (job.request.receive job.timeout (provider job.request)).2 with
      | error why =>
        rw [silent_perform_unanswered hrefused hreceive] at hrun
        obtain ⟨hturns, hstore, -⟩ := silent_eq hrun
        exact ⟨hturns, hstore⟩
      | ok summary =>
        -- With a summary at hand nothing can fail any more.
        rw [silent_perform_answered hrefused hreceive, concluded, hjob.result_eq] at hrun
        rw [(silent_eq hrun).2.2] at hfault
        contradiction

/-- How far a compaction got before it failed: not even to its record, or to the first look at it,
or to the second. -/
lemma compact_failed
    (h : (strategy.compact registry call provider turns store).outcome = .error fault) :
    let run := strategy.compact registry call provider turns store
    let looks := looksAt call.agent store
    (∃ why, (strategy.plan registry call turns).2 = .error why) ∧ run.turns = turns ∧
        run.store = store ∨
      (∃ plan, (strategy.plan registry call turns).2 = .ok plan) ∧
        ((∃ settings, strategy = .threshold settings) ∧
            run.turns = inject looks.first.summary turns ∧ run.store = looks.once ∨
          run.turns = cutTurns strategy looks turns ∧ run.store = looks.twice) := by
  intro run looks
  cases hplan : (strategy.plan registry call turns).2 with
  | error why =>
    obtain ⟨hturns, hstore, -⟩ := silent_eq (silent_compact_unplanned hplan)
    exact Or.inl ⟨⟨why, rfl⟩, hturns, hstore⟩
  | ok plan =>
    refine Or.inr ⟨⟨plan, rfl⟩, ?_⟩
    have hrun : silent run = _ := silent_compact_planned hplan
    have hfault := (congrArg Run.outcome hrun).symm.trans h
    have hchecked := check_checked hplan looks.first
    have hfirst : looks.first = recordIn call.agent store := by simp only [looks, looksAt]
    rw [← hfirst, ← looksAt_once] at hrun hfault
    generalize plan.check call looks.first turns = stretch at hrun hfault hchecked
    rcases stretch with ⟨after, notices, _ | why | pending⟩
    · contradiction
    · cases hchecked with
      | fail settings =>
        exact Or.inl ⟨⟨settings, rfl⟩, congrArg Run.turns hrun, congrArg Run.store hrun⟩
    · rw [silent_confirm_go rfl, looksAt_once, ← looksAt_second, ← looksAt_twice] at hrun
      have hfault := (congrArg Run.outcome hrun).symm.trans h
      obtain ⟨hturns, hstore⟩ := perform_failed (recheck_rechecked looks hchecked registry) hfault
      exact Or.inr ⟨(congrArg Run.turns hrun).trans hturns, (congrArg Run.store hrun).trans hstore⟩

end Failed

end Condense.Proofs
