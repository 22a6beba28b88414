import Condense.Proofs.OwnLists
import Condense.Proofs.StoreWrites
import Condense.Proofs.SummarizedTurns

/-!
# Failed compactions

A strategy that fails has not rewritten the turns, but the threshold strategy has put the summary in
front of them that it found, long before anything could fail. A sliding window leaves them as they
are. The same holds of calls that share a world with others and that may be cancelled, as long as
each of them works on a list of its own.
-/

namespace Condense.Proofs
open Summary

lemma Fronted.unled_eq {turns before : List Turn} (h : Fronted turns before) :
    unled before = unled turns := by
  cases h with
  | same => rfl
  | added hsummary hbare => simp [unled, hbare]
  | renewed rest hsummary hlead =>
    have hled : ∀ lead : Turn, isSummary lead = true → unled (lead :: rest) = rest :=
      fun lead hlead => if_pos hlead
    rw [hled _ hlead, hled _ (isSummary_turnOf _)]

/-- The turns are still there. A sliding window has not touched them at all, and the threshold
strategy has put at most a summary in front of them or in place of the one that led them. -/
structure Spared (strategy : Strategy) (turns after : List Turn) : Prop where
  fronted : Fronted turns after
  unled : unled after = unled turns
  window : ∀ settings limit positive, strategy = .slidingWindow settings limit positive →
    after = turns

lemma Abandoned.spared {looks : Looks} {strategy : Strategy} {turns after : List Turn}
    (h : Abandoned looks turns strategy after) : Spared strategy turns after := by
  have hfronted : Fronted turns after := by
    cases h with
    | untouched => exact .same turns
    | opened settings => exact inject_fronted _ turns
    | cut => exact cutTurns_fronted strategy looks turns
  refine ⟨hfronted, hfronted.unled_eq, fun settings limit positive hstrategy => ?_⟩
  subst hstrategy
  cases h with
  | untouched => rfl
  | cut => rfl

section Compactions

variable {strategy : Strategy} {registry : Registry} {call : Call} {provider : Request → Reply}
  {turns : List Turn} {store : Store} {looks : Looks} {fault : Fault}

lemma compact_abandoned
    (h : (strategy.compact registry call provider turns store).outcome = .error fault) :
    Abandoned (looksAt call.agent store) turns strategy
      (strategy.compact registry call provider turns store).turns := by
  rcases compact_failed h with ⟨-, hturns, -⟩ | ⟨-, ⟨⟨settings, rfl⟩, hturns, -⟩ | ⟨hturns, -⟩⟩
  · rw [hturns]
    exact .untouched strategy
  · rw [hturns]
    exact .opened settings
  · rw [hturns]
    exact .cut strategy

end Compactions

/-- When a strategy fails, the turns that it was given are still there, but the threshold strategy
has put the summary of the record in front of them; they are exactly what they were if and only if
it did not get as far as the record, or there is no summary, or one leads the turns already. A call
among others that works on a list of its own spares its turns as well, whenever it fails or is
cancelled. -/
theorem failed_compactions_spare (installed : Installed) (turns : List Turn) :
    (∀ (registry : Registry) (call : Call) (provider : Request → Reply) (store : Store)
      (fault : Fault),
      let run := installed.strategy.compact registry call provider turns store
      let found := (recordIn call.agent store).summary
      run.outcome = .error fault →
      Spared installed.strategy turns run.turns ∧
        ∀ settings, installed.strategy = .threshold settings → Steady call.agent store →
          (run.turns = turns ∨ run.turns = inject found turns) ∧
          (run.turns = turns ↔
            (∃ why, (installed.strategy.plan registry call turns).2 = .error why) ∨ found = [] ∨
              isLed turns = true)) ∧
    ∀ (pool : Pool) (id : Nat) (task : Task),
      pool.tasks[id]? = some task → task.guarded = false → task.installed = some installed →
      task.phase.isReady = true → OwnList pool id task.list → pool.world.turns task.list = turns →
      ∀ (moves : List Move) (fault : Fault),
      phase? (pool.run moves) id = some (.finished (.error fault)) →
      Spared installed.strategy turns ((pool.run moves).world.turns task.list) := by
  constructor
  · intro registry call provider store fault run found hfault
    refine ⟨(compact_abandoned hfault).spared, fun settings hstrategy hsteady => ?_⟩
    have hagree := looks_agree hsteady
    have hfound : (looksAt call.agent store).first.summary = found := by
      simp only [looksAt, found]
    have hfailed : (∃ why, (installed.strategy.plan registry call turns).2 = .error why) ∧
          run.turns = turns ∨
        (∃ plan, (installed.strategy.plan registry call turns).2 = .ok plan) ∧
          run.turns = inject found turns := by
      rcases compact_failed hfault with
        ⟨hunplanned, hturns, -⟩ | ⟨hplan, ⟨-, hturns, -⟩ | ⟨hturns, -⟩⟩
      · exact Or.inl ⟨hunplanned, hturns⟩
      · exact Or.inr ⟨hplan, hturns.trans (by rw [hfound])⟩
      · -- Both looks found the same summary, so that the turns were opened once only.
        have hcut : cutTurns installed.strategy (looksAt call.agent store) turns =
            inject (looksAt call.agent store).first.summary turns := by
          rw [hstrategy]
          exact if_pos hagree
        exact Or.inr ⟨hplan, hturns.trans (by rw [hcut, hfound])⟩
    rcases hfailed with ⟨hunplanned, hturns⟩ | ⟨⟨plan, hplan⟩, hturns⟩
    · exact ⟨Or.inl hturns, fun _ => Or.inl hunplanned, fun _ => hturns⟩
    · refine ⟨Or.inr hturns, ?_⟩
      rw [hturns, inject_eq_self]
      simp [hplan]
  · rintro pool id task htask hdirect hinstalled hready hown rfl moves fault hfailed
    have hpursued := (pursued_start htask hdirect hinstalled hready hown).run moves
    obtain ⟨before, phase, hnow, hstands⟩ := hpursued.now
    rw [phase?, hnow] at hfailed
    obtain rfl : phase = .finished (.error fault) := Option.some.inj hfailed
    obtain ⟨looks, habandoned⟩ := hstands
    exact habandoned.spared

/-- A table that holds a summary of the agent. -/
def summaryTable : Store := .memory { entries := [(summaryPlace "a", .text "S")] }

/-- Three turns that reach the threshold of eight tokens. -/
def threeTurns : List Turn := [
  .ofText "user" "one two three", .ofText "user" "four five six", .ofText "user" "seven"]

/-- A call of the threshold strategy and a call of a window, each on a list of its own. -/
def mixedPool : Pool where
  world := { lists := [("t", threeTurns), ("u", threeTurns)], stores := [("s", summaryTable)] }
  tasks := [
    { call := { agent := "a" }
      list := "t"
      store := "s"
      installed := some ⟨0, .threshold wholeSettings⟩
      guarded := false },
    { call := { agent := "a" }
      list := "u"
      store := "s"
      installed := some ⟨1, .slidingWindow wholeSettings 2 (by decide)⟩
      guarded := false }]

/-- The provider fails, and the three turns are four. So they are if the call is cancelled while it
stands in line. -/
theorem failedThreshold_leads :
    (let run := Strategy.compact (.threshold wholeSettings) {} { agent := "a" }
      (fun _ => .failed "overloaded") threeTurns summaryTable
    (∃ fault, run.outcome = .error fault) ∧ run.turns = turnOf "S" :: threeTurns ∧
      run.turns ≠ threeTurns) ∧
    let moves := [.step 0, .step 1, .step 0, .step 1, .cancel 0]
    Spared (.threshold wholeSettings) threeTurns ((mixedPool.run moves).world.turns "t") ∧
      ((mixedPool.run moves).world.turns "t").length = 4 := by
  constructor
  · intro run
    have hfails : run.outcome.isOk = false := by decide +kernel
    obtain ⟨fault, hfault⟩ : ∃ fault, run.outcome = .error fault := by
      cases houtcome : run.outcome with
      | error fault => exact ⟨fault, rfl⟩
      | ok result =>
        rw [houtcome] at hfails
        contradiction
    have hfound : (recordIn "a" summaryTable).summary = "S" := by decide +kernel
    have hsteady : Steady "a" summaryTable := fun _ _ => rfl
    have hplan : ¬∃ why, ((Strategy.threshold wholeSettings).plan {} { agent := "a" }
        threeTurns).2 = .error why := by
      rintro ⟨why, hwhy⟩
      have hplanned : ((Strategy.threshold wholeSettings).plan {} { agent := "a" }
        threeTurns).2.toOption.isSome = true := by decide +kernel
      rw [hwhy] at hplanned
      contradiction
    obtain ⟨-, hthreshold⟩ :=
      (failed_compactions_spare ⟨0, .threshold wholeSettings⟩ threeTurns).1 _ _ _ _ fault hfault
    obtain ⟨hturns, hsame⟩ := hthreshold wholeSettings rfl hsteady
    have hother : run.turns ≠ threeTurns := by
      intro hturns
      rcases hsame.mp hturns with hunplanned | hnothing | hled
      · exact hplan hunplanned
      · rw [hfound] at hnothing
        contradiction
      · contradiction
    refine ⟨⟨fault, hfault⟩, ?_, hother⟩
    rw [hturns.resolve_left hother, hfound]
    rfl
  · intro moves
    have hfailed : phase? (mixedPool.run moves) 0 = some (.finished (.error (.cancelled []))) := rfl
    exact ⟨(failed_compactions_spare ⟨0, .threshold wholeSettings⟩ threeTurns).2 mixedPool 0 _ rfl
      rfl rfl rfl (ownList_of_nodup rfl (by decide)) rfl moves _ hfailed, by decide +kernel⟩

end Condense.Proofs
