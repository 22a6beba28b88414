import Condense.Proofs.Dialogue
import Condense.Proofs.WindowRivals
import Condense.Proofs.SerialRuns

/-!
# What a sliding window counts

A sliding window keeps the length that the list had when it was compacted, and takes the turns beyond
that length for those that came since. But the compaction has made the list shorter. Until it has
grown back the window starts from zero, and from there on it misses as many turns as the compaction
removed.
-/

namespace Condense.Proofs
open Summary

/-- A conversation that a sliding window compacts in place, next to what its host can count: the
turns that arrived since the last compaction, and the lengths of the list before and after it. -/
structure Tally where
  turns : List Turn := []
  store : Store
  arrived : Nat := 0
  counted : Nat := 0
  left : Nat := 0

namespace Tally

def step (strategy : Strategy) (agent : Text) (tally : Tally) : Event → Tally
  | .append turns =>
    { tally with
      turns := tally.turns ++ turns
      arrived := tally.arrived + turns.length }
  | .call registry system model provider =>
    let run := strategy.compact registry ⟨agent, system, model⟩ provider tally.turns tally.store
    match compaction? run with
    | none => { tally with turns := run.turns, store := run.store }
    | some _ =>
      { turns := run.turns
        store := run.store
        arrived := 0
        counted := tally.turns.length
        left := run.turns.length }

def run (strategy : Strategy) (agent : Text) (tally : Tally) (events : List Event) : Tally :=
  events.foldl (step strategy agent) tally

end Tally

/-- Apart from being due, a compaction lacks nothing: the turns can be measured and cut, something
is old, and a summary of it can be asked for and comes. -/
def isFeasible (settings : Settings) (limit : Nat) (registry : Registry) (call : Call)
    (provider : Request → Reply) (previous : Text) (turns : List Turn) : Bool :=
  match measure call turns, Pending.boundary settings limit turns.length turns with
  | .ok _, .ok index =>
    let old := (cut turns index).1
    !old.isEmpty &&
      match Pending.requestFor settings previous old (settings.window registry call.model).2 with
      | .ok request =>
        (refused? settings.timeout).isNone &&
          (request.receive settings.timeout (provider request)).2.isOk
      | .error _ => false
  | _, _ => false

section Calls

variable {settings : Settings} {limit : Nat} {positive : 0 < limit} {registry : Registry}
  {call : Call} {provider : Request → Reply} {turns : List Turn} {store : Store}

lemma go_of_isFeasible {previous : Text}
    (h : isFeasible settings limit registry call provider previous turns = true) :
    ∃ job summary,
      (Pending.summarizeBefore settings limit turns.length registry call previous turns).next =
        .go job ∧
      refused? job.timeout = none ∧
      (job.request.receive job.timeout (provider job.request)).2 = .ok summary := by
  unfold isFeasible at h
  split at h
  case h_1 tokens index hmeasure hbound =>
    dsimp only at h
    rw [Bool.and_eq_true, Bool.not_eq_true', List.isEmpty_eq_false_iff] at h
    obtain ⟨hold, h⟩ := h
    split at h
    case h_1 request hrequest =>
      rw [Bool.and_eq_true, Option.isNone_iff_eq_none] at h
      obtain ⟨hrefused, hreceived⟩ := h
      cases hreceive : (request.receive settings.timeout (provider request)).2 with
      | error fault =>
        rw [hreceive] at hreceived
        contradiction
      | ok summary =>
        have hgo := summarizeBefore_go.mpr
          ⟨tokens, index, request, hmeasure, hbound, hold, hrequest, rfl⟩
        exact ⟨_, summary, hgo, hrefused, hreceive⟩
    case h_2 => contradiction
  case h_2 => contradiction

lemma decided_window_few {record : Record} (h : turnsSince turns.length record.turnsAt ≤ limit) :
    decided (.slidingWindow settings limit turns.length) registry call record turns =
      ⟨inject record.summary turns, [], .stop⟩ := by
  unfold decided Plan.check
  simp only [h, if_true]

lemma decided_window_many {record : Record} (h : ¬turnsSince turns.length record.turnsAt ≤ limit) :
    decided (.slidingWindow settings limit turns.length) registry call record turns =
      Pending.summarizeBefore settings limit turns.length registry call record.summary turns := by
  unfold decided Plan.check
  simp only [h, if_false, Pending.recheck]

/-- What a call of a sliding window does to its conversation: nothing, or it compacts because the
window is due. -/
inductive WindowCall (settings : Settings) (limit : Nat) (call : Call) (turns : List Turn)
    (store : Store) : Run (Option Compaction) → Prop where
  | quiet {run : Run (Option Compaction)} (hnone : compaction? run = none)
      (hturns : run.turns = turns) (hstore : Alike call.agent run.store store) :
      WindowCall settings limit call turns store run
  | moved {run : Run (Option Compaction)} {result : Compaction} {bound : Nat} {job : Job}
      {summary : Value} {last : Store} (hsome : compaction? run = some result)
      (hdue : limit < turnsSince turns.length (recordIn call.agent store).turnsAt)
      (hjob : Prepared settings call (recordIn call.agent store).summary turns bound job)
      (hcount : job.turnCount = some turns.length)
      (hturns : run.turns = job.compacted summary) (hlast : Alike call.agent last store)
      (hstore : run.store = savedIn call.agent job summary last) :
      WindowCall settings limit call turns store run

lemma WindowCall.of_silent {run : Run (Option Compaction)} {last : Store} {sent : Option Request}
    {outcome : Except Fault (Option Compaction)}
    (h : silent run = ⟨turns, last, [], sent, outcome⟩) (hlast : Alike call.agent last store)
    (houtcome : ∀ result, outcome ≠ .ok (some result)) :
    WindowCall settings limit call turns store run := by
  obtain ⟨hturns, rfl, hresult⟩ := silent_eq h
  refine .quiet ?_ hturns hlast
  unfold compaction?
  rcases outcome with fault | _ | result
  · rw [hresult]
  · rw [hresult]
  · exact absurd rfl (houtcome result)

lemma window_call (positive : 0 < limit) (registry : Registry) (provider : Request → Reply)
    (hstore : Dependable call.agent store)
    (hinject : inject (recordIn call.agent store).summary turns = turns) :
    WindowCall settings limit call turns store
      ((Strategy.slidingWindow settings limit positive).compact registry call provider turns
        store) := by
  have hplan : ((Strategy.slidingWindow settings limit positive).plan registry call turns).2 =
      .ok (.slidingWindow settings limit turns.length) := rfl
  obtain ⟨last, hlast, hrun⟩ := compact_decided hplan (Alike.refl hstore) provider
  generalize (Strategy.slidingWindow settings limit positive).compact registry call provider turns
    store = run at hrun ⊢
  by_cases hfew : turnsSince turns.length (recordIn call.agent store).turnsAt ≤ limit
  · rw [decided_window_few hfew, silent_perform_ended rfl, hinject] at hrun
    exact .of_silent hrun hlast nofun
  · rw [decided_window_many hfew] at hrun
    -- The first look does not matter to a window that is due.
    let looks : Looks := ⟨recordIn call.agent store, store, recordIn call.agent store, store⟩
    have hrechecked := summarizeBefore_rechecked settings limit positive registry call looks turns
    have hcount : ∀ job, (Pending.summarizeBefore settings limit turns.length registry call
        looks.second.summary turns).next = .go job → job.turnCount = some turns.length := by
      intro job hgo
      obtain ⟨tokens, index, request, -, -, -, -, rfl⟩ := summarizeBefore_go.mp hgo
      rfl
    change silent run = silent ((Pending.summarizeBefore settings limit turns.length registry call
      looks.second.summary turns).perform call provider last) at hrun
    generalize Pending.summarizeBefore settings limit turns.length registry call
      looks.second.summary turns = stretch at hrun hrechecked hcount
    cases hrechecked with
    | stop notices =>
      rw [silent_perform_ended rfl] at hrun
      change silent run = ⟨inject (recordIn call.agent store).summary turns, _, _, _, _⟩ at hrun
      rw [hinject] at hrun
      exact .of_silent hrun hlast nofun
    | fail notices hfault =>
      rw [silent_perform_ended rfl] at hrun
      exact .of_silent hrun hlast nofun
    | @go notices bound job hjob =>
      rw [silent_perform_go rfl] at hrun
      cases hrefused : refused? job.timeout with
      | some fault =>
        rw [silent_perform_refused hrefused] at hrun
        exact .of_silent hrun hlast nofun
      | none =>
        cases hreceive : (job.request.receive job.timeout (provider job.request)).2 with
        | error fault =>
          rw [silent_perform_unanswered hrefused hreceive] at hrun
          exact .of_silent hrun hlast nofun
        | ok summary =>
          rw [silent_perform_answered hrefused hreceive] at hrun
          obtain ⟨hturns, hkept, houtcome⟩ := silent_eq hrun
          have hsome : ∃ result, compaction? run = some result := by
            unfold compaction?
            rw [houtcome, concluded, hjob.result_eq]
            exact ⟨_, rfl⟩
          obtain ⟨result, hresult⟩ := hsome
          exact .moved hresult (Nat.not_le.mp hfew) hjob (hcount job rfl) hturns hlast hkept

/-- A window that is due compacts if nothing else is lacking. -/
lemma compacts_of_due {record : Record} {last : Store} {run : Run (Option Compaction)}
    (hrun : silent run = silent ((decided (.slidingWindow settings limit turns.length) registry call
      record turns).perform call provider last))
    (hfeasible : isFeasible settings limit registry call provider record.summary turns = true)
    (positive : 0 < limit) (hdue : limit < turnsSince turns.length record.turnsAt) :
    ∃ result, run.outcome = .ok (some result) := by
  obtain ⟨job, summary, hgo, hrefused, hreceive⟩ := go_of_isFeasible hfeasible
  rw [decided_window_many (Nat.not_le.mpr hdue), silent_perform_go hgo,
    silent_perform_answered hrefused hreceive] at hrun
  obtain ⟨-, -, houtcome⟩ := silent_eq hrun
  obtain ⟨bound, hjob⟩ := summarizeBefore_prepared positive hgo
  rw [houtcome, concluded, hjob.result_eq]
  exact ⟨_, rfl⟩

lemma window_moves (positive : 0 < limit)
    (hfeasible : isFeasible settings limit registry call provider
      (recordIn call.agent store).summary turns = true)
    (hstore : Dependable call.agent store)
    (hdue : limit < turnsSince turns.length (recordIn call.agent store).turnsAt) :
    ∃ result, ((Strategy.slidingWindow settings limit positive).compact registry call provider turns
      store).outcome = .ok (some result) := by
  have hplan : ((Strategy.slidingWindow settings limit positive).plan registry call turns).2 =
      .ok (.slidingWindow settings limit turns.length) := rfl
  obtain ⟨last, -, hrun⟩ := compact_decided hplan (Alike.refl hstore) provider
  exact compacts_of_due hrun hfeasible positive hdue

end Calls

/-- The record holds what the host counts, and a summary in it leads the list. -/
structure Tallied (agent : Text) (tally : Tally) : Prop where
  dependable : Dependable agent tally.store
  counted : (recordIn agent tally.store).turnsAt = tally.counted
  led : (recordIn agent tally.store).summary = [] ∨ isLed tally.turns = true
  length : tally.turns.length = tally.left + tally.arrived
  left_le : tally.left ≤ tally.counted

section Tallied

variable {settings : Settings} {limit : Nat} {positive : 0 < limit} {agent : Text} {tally : Tally}

lemma Tallied.injected (h : Tallied agent tally) :
    inject (recordIn agent tally.store).summary tally.turns = tally.turns := by
  rcases h.led with hnone | hled
  · rw [hnone, inject_nil]
  · rw [inject_of_isLed _ hled]

lemma isLed_append {turns : List Turn} (h : isLed turns = true) (more : List Turn) :
    isLed (turns ++ more) = true := by
  cases turns with
  | nil => contradiction
  | cons lead rest => exact h

/-- A compaction makes the list no longer than it was. -/
lemma length_compacted {call : Call} {previous : Text} {turns : List Turn} {bound : Nat} {job : Job}
    (h : Prepared settings call previous turns bound job) (summary : Value) :
    (job.compacted summary).length ≤ turns.length := by
  have hbound : 0 < bound := h.pos
  have hsome : turns ≠ [] := by
    rintro rfl
    have hold := h.old
    rw [List.take_nil, List.filter_nil] at hold
    exact h.exists_old hold
  have hturns : 0 < turns.length := List.length_pos_iff.mpr hsome
  unfold Job.compacted replace
  rw [h.kept, List.length_cons, List.length_drop]
  omega

/-- Every event leaves the record with what the host counts. -/
lemma Tallied.step (h : Tallied agent tally) (event : Event) :
    Tallied agent (tally.step (.slidingWindow settings limit positive) agent event) := by
  cases event with
  | append turns =>
    refine ⟨h.dependable, h.counted, h.led.imp_right fun hled => isLed_append hled turns, ?_,
      h.left_le⟩
    change (tally.turns ++ turns).length = tally.left + (tally.arrived + turns.length)
    rw [List.length_append, h.length, Nat.add_assoc]
  | call registry system model provider =>
    have hcall : WindowCall settings limit ⟨agent, system, model⟩ tally.turns tally.store
        ((Strategy.slidingWindow settings limit positive).compact registry ⟨agent, system, model⟩
          provider tally.turns tally.store) :=
      window_call positive registry provider h.dependable h.injected
    unfold Tally.step
    dsimp only
    generalize (Strategy.slidingWindow settings limit positive).compact registry
      ⟨agent, system, model⟩ provider tally.turns tally.store = run at hcall ⊢
    cases hcall with
    | quiet hnone hturns hstore =>
      rw [hnone]
      dsimp only
      rw [hturns]
      exact {
        dependable := hstore.left
        counted := by rw [hstore.record]; exact h.counted
        led := by rw [hstore.record]; exact h.led
        length := h.length
        left_le := h.left_le }
    | @moved result bound job summary last hsome hdue hjob hcount hturns hlast hstore =>
      rw [hsome]
      dsimp only
      rw [hturns, hstore]
      have hsaved : Dependable agent (job.saveSummary agent summary last).2 :=
        hlast.left.savedSummary job summary
      refine ⟨hsaved.savedTurns job, ?_, ?_, rfl, length_compacted hjob summary⟩
      · unfold savedIn
        rw [hsaved.recordIn_savedTurns hcount]
      · exact Or.inr (isLed_turnOf _ _)

lemma tallied_run {store : Store} (hstore : Dependable agent store)
    (hfresh : recordIn agent store = {}) (events : List Event) :
    Tallied agent (Tally.run (.slidingWindow settings limit positive) agent { store } events) := by
  have hstart : Tallied agent { store } := by
    refine ⟨hstore, ?_, Or.inl ?_, rfl, Nat.le_refl 0⟩
    · rw [hfresh]
    · rw [hfresh]
  unfold Tally.run
  generalize ({ store } : Tally) = tally at hstart
  induction events generalizing tally with
  | nil => exact hstart
  | cons event rest ih => exact ih _ (hstart.step event)

lemma lt_turnsSince {limit count counted : Nat} :
    limit < turnsSince count counted ↔
      (limit < count ∧ count < counted) ∨ counted + limit < count := by
  unfold turnsSince
  split <;> omega

lemma Tallied.compacts_iff (h : Tallied agent tally) {registry : Registry} {system model : Text}
    {provider : Request → Reply}
    (hfeasible : isFeasible settings limit registry ⟨agent, system, model⟩ provider
      (recordIn agent tally.store).summary tally.turns = true) :
    (∃ result, ((Strategy.slidingWindow settings limit positive).compact registry
        ⟨agent, system, model⟩ provider tally.turns tally.store).outcome = .ok (some result)) ↔
      limit < turnsSince tally.turns.length tally.counted := by
  rw [← h.counted]
  constructor
  · rintro ⟨result, hresult⟩
    have hcall : WindowCall settings limit ⟨agent, system, model⟩ tally.turns tally.store
        ((Strategy.slidingWindow settings limit positive).compact registry ⟨agent, system, model⟩
          provider tally.turns tally.store) :=
      window_call positive registry provider h.dependable h.injected
    generalize (Strategy.slidingWindow settings limit positive).compact registry
      ⟨agent, system, model⟩ provider tally.turns tally.store = run at hresult hcall
    cases hcall with
    | quiet hnone =>
      unfold compaction? at hnone
      rw [hresult] at hnone
      contradiction
    | moved hsome hdue => exact hdue
  · intro hdue
    exact window_moves positive hfeasible h.dependable hdue

/-- A sliding window compacts, if nothing else is lacking, as long as the list is shorter than it was
when it was counted, and again once it is longer than that by more than the limit. The turns that
arrived since then do not decide it: the list went on from a shorter length. -/
theorem window_compacts_iff {settings : Settings} {limit : Nat} {positive : 0 < limit} {agent : Text}
    {store : Store} (hstore : Dependable agent store) (hfresh : recordIn agent store = {})
    (events : List Event) (registry : Registry) (system model : Text) (provider : Request → Reply) :
    let strategy := Strategy.slidingWindow settings limit positive
    let tally := Tally.run strategy agent { store } events
    isFeasible settings limit registry ⟨agent, system, model⟩ provider
        (recordIn agent tally.store).summary tally.turns = true →
      tally.left ≤ tally.counted ∧
      ((∃ result, (strategy.compact registry ⟨agent, system, model⟩ provider tally.turns
          tally.store).outcome = .ok (some result)) ↔
        (limit < tally.left + tally.arrived ∧ tally.left + tally.arrived < tally.counted) ∨
          tally.counted + limit < tally.left + tally.arrived) := by
  intro strategy tally hfeasible
  have htally : Tallied agent tally := tallied_run hstore hfresh events
  rw [← htally.length, ← lt_turnsSince]
  exact ⟨htally.left_le, htally.compacts_iff hfeasible⟩

end Tallied

/-- Five turns are compacted to four, to which four more are added. -/
def regrownEvents : List Event := [
  .append (["a", "b", "c", "d", "e"].map (.ofText "user")),
  .call {} [] [] fun _ => .answer { content := .text "S" },
  .append (["f", "g", "h", "i"].map (.ofText "user"))]

/-- The four turns that arrived are more than three, but the list is not longer by more than three
than it was before. -/
theorem regrown_window_misses :
    let strategy := Strategy.slidingWindow wholeSettings 3 (by decide)
    let tally := Tally.run strategy "a" { store := .memory {} } regrownEvents
    tally.arrived = 4 ∧
      isFeasible wholeSettings 3 {} { agent := "a" } (fun _ => .answer { content := .text "T" })
        (recordIn "a" tally.store).summary tally.turns = true ∧
      ∀ result, (strategy.compact {} { agent := "a" } (fun _ => .answer { content := .text "T" })
        tally.turns tally.store).outcome ≠ .ok (some result) := by
  intro strategy tally
  have hstore : Dependable "a" (.memory {}) := Granting.dependable (fun _ _ => rfl) "a"
  have hfeasible : isFeasible wholeSettings 3 {} { agent := "a" }
      (fun _ => .answer { content := .text "T" }) (recordIn "a" tally.store).summary tally.turns =
      true := by decide +kernel
  obtain ⟨-, hcompacts⟩ := window_compacts_iff hstore (by decide +kernel) regrownEvents {} [] []
    (fun _ => .answer { content := .text "T" }) hfeasible
  refine ⟨by decide +kernel, hfeasible, fun result hresult => ?_⟩
  have hdue := hcompacts.mp ⟨result, hresult⟩
  revert hdue
  decide +kernel

end Condense.Proofs
