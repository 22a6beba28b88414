import Condense.Proofs.Cancellations

/-!
# Calls on lists of their own

Calls that share a world with others, are made of a strategy by itself and may be cancelled, as long
as no other call works on the same list. Whatever else moves, the phase of such a call tells what
has become of its turns: they are as they were given, or opened with a summary, or cut, or compacted.
-/

namespace Condense.Proofs
open Summary

/-- The turns of a compaction that did not come to an end. -/
inductive Abandoned (looks : Looks) (turns : List Turn) : Strategy → List Turn → Prop where
  | untouched (strategy : Strategy) : Abandoned looks turns strategy turns
  | opened (settings : Settings) :
      Abandoned looks turns (.threshold settings) (inject looks.first.summary turns)
  | cut (strategy : Strategy) : Abandoned looks turns strategy (cutTurns strategy looks turns)

section Frames

variable {list : Text} {world later after : World}

lemma Framed.refl (list : Text) (world : World) : Framed list world world :=
  ⟨rfl, rfl, fun _ _ => rfl⟩

lemma Framed.trans (h : Framed list world later) (h' : Framed list later after) :
    Framed list world after where
  registry := h'.registry.trans h.registry
  otherwise := h'.otherwise.trans h.otherwise
  turns := fun name hname => (h'.turns name hname).trans (h.turns name hname)

variable (task : Task) (id : Nat)

lemma framed_finish (h : Framed task.list world later)
    (outcome : Except Fault (Option Compaction)) :
    Framed task.list world (task.finish id later outcome).1 := by
  unfold Task.finish
  split
  case h_1 => exact h
  case h_2 installed hinstalled =>
    split
    case isTrue =>
      have hback := framed_setTurns (later.leave installed.lock id) task.list
      exact h.trans ⟨rfl, rfl, (hback _).turns⟩
    case isFalse => exact h.trans ⟨rfl, rfl, fun _ _ => rfl⟩

lemma framed_conclude (h : Framed task.list world later) (job : Job) (summary : Value) :
    Framed task.list world (task.conclude id later job summary).1 := by
  have hset := h.trans (framed_setTurns later task.list (job.compacted summary))
  unfold Task.conclude
  dsimp only
  cases job.result task.call summary with
  | error fault => exact framed_finish task id hset _
  | ok result =>
    refine framed_finish task id ?_ _
    exact hset.trans ⟨rfl, rfl, fun _ _ => rfl⟩

lemma framed_start (world : World) : Framed task.list world (task.start id world).1 := by
  have hfinish : ∀ later outcome, Framed task.list world later → Framed task.list world
      (({ task with before := world.turns task.list } : Task).finish id later outcome).1 :=
    fun later outcome h => framed_finish { task with before := world.turns task.list } id h outcome
  unfold Task.start
  dsimp only
  split
  case h_1 => exact hfinish _ _ (.refl task.list world)
  case h_2 =>
    split
    case isTrue => exact .refl task.list world
    case isFalse =>
      split
      case h_1 =>
        refine hfinish _ _ ?_
        exact ⟨rfl, rfl, fun _ _ => rfl⟩
      case h_2 => exact ⟨rfl, rfl, fun _ _ => rfl⟩

/-- What follows a look at the record stays within the list of the call. -/
lemma framed_carryOn {α : Type} {further : α → World × Task} (next : Next α)
    (h : Framed task.list world later)
    (hfurther : ∀ value, Framed task.list world (further value).1) :
    Framed task.list world (carryOn task id later further next).1 := by
  cases next with
  | stop => exact framed_finish task id h _
  | fail fault => exact framed_finish task id h _
  | go value => exact hfurther value

/-- A call changes no list but its own. -/
lemma framed_step (world : World) : Framed task.list world (task.step id world).1 := by
  cases hphase : task.phase with
  | ready =>
    unfold Task.step
    rw [hphase]
    exact framed_start task id world
  | loading plan =>
    generalize hstretch : plan.check task.call
      (recordIn task.call.agent (world.store task.store)) (world.turns task.list) = stretch
    have hopened := framed_opened (errandOf task) world stretch.turns stretch.notices
    rw [loading_eq task id world hphase hstretch]
    generalize opened (errandOf task) world stretch.turns stretch.notices = later at hopened ⊢
    refine framed_carryOn task id _ hopened fun pending => ?_
    cases task.installed with
    | none => exact hopened
    | some installed => exact hopened.trans ⟨rfl, rfl, fun _ _ => rfl⟩
  | queued pending =>
    unfold Task.step
    rw [hphase]
    dsimp only
    split <;> exact .refl task.list world
  | reloading pending =>
    generalize hstretch : pending.recheck world.registry task.call
      (recordIn task.call.agent (world.store task.store)) (world.turns task.list) = stretch
    have hopened := framed_opened (errandOf task) world stretch.turns stretch.notices
    rw [reloading_eq task id world hphase hstretch]
    generalize opened (errandOf task) world stretch.turns stretch.notices = later at hopened ⊢
    refine framed_carryOn task id _ hopened fun job => ?_
    unfold Task.ask
    split
    case h_1 => exact framed_finish task id hopened _
    case h_2 => exact hopened.trans ⟨rfl, rfl, fun _ _ => rfl⟩
  | asking job reply =>
    unfold Task.step
    rw [hphase]
    dsimp only
    split
    case h_1 =>
      refine framed_finish task id ?_ _
      exact ⟨rfl, rfl, fun _ _ => rfl⟩
    case h_2 => exact ⟨rfl, rfl, fun _ _ => rfl⟩
  | saving job summary =>
    unfold Task.step
    rw [hphase]
    dsimp only
    split
    case h_1 => exact ⟨rfl, rfl, fun _ _ => rfl⟩
    case h_2 =>
      refine framed_conclude task id ?_ job summary
      exact ⟨rfl, rfl, fun _ _ => rfl⟩
  | counting job summary =>
    unfold Task.step
    rw [hphase]
    refine framed_conclude task id ?_ job summary
    exact ⟨rfl, rfl, fun _ _ => rfl⟩
  | finished outcome =>
    unfold Task.step
    rw [hphase]
    exact .refl task.list world

lemma framed_cancel (world : World) : Framed task.list world (task.cancel id world).1 := by
  unfold Task.cancel
  cases task.phase with
  | ready | finished => exact .refl task.list world
  | saving | counting =>
    refine framed_finish task id ?_ _
    exact ⟨rfl, rfl, fun _ _ => rfl⟩
  | loading | queued | reloading | asking => exact framed_finish task id (.refl task.list world) _

end Frames

/-- The turns of a compaction that came to an end with a summary. -/
def Completed (strategy : Strategy) (call : Call) (turns : List Turn) (result : Compaction)
    (after : List Turn) : Prop :=
  ∃ looks bound job summary,
    Prepared strategy.settings call looks.second.summary (cutTurns strategy looks turns) bound job ∧
      job.result call summary = .ok result ∧ after = job.compacted summary

/-- What has become of the turns of a call, by the phase in which it is. -/
def Stands (strategy : Strategy) (call : Call) (turns : List Turn) : Phase → List Turn → Prop
  | .ready, after => after = turns
  | .loading plan, after =>
    after = turns ∧ ∃ registry, (strategy.plan registry call turns).2 = .ok plan
  | .queued pending, after | .reloading pending, after =>
    ∃ first notices, Checked call first turns strategy ⟨after, notices, .go pending⟩
  | .asking job _, after | .saving job _, after | .counting job _, after =>
    ∃ looks bound, after = cutTurns strategy looks turns ∧
      Prepared strategy.settings call looks.second.summary after bound job
  | .finished (.error _), after => ∃ looks, Abandoned looks turns strategy after
  | .finished (.ok none), _ => True
  | .finished (.ok (some result)), after => Completed strategy call turns result after

section Calls

variable {strategy : Strategy} {call : Call} {turns after : List Turn} {phase : Phase}

/-- Wherever a call gives up, its turns are spared. -/
lemma Stands.abandoned (h : Stands strategy call turns phase after)
    (hrunning : phase.isFinished = false) : ∃ looks, Abandoned looks turns strategy after := by
  have hnothing : Looks := ⟨{}, .empty, {}, .empty⟩
  cases phase with
  | ready =>
    obtain rfl : after = turns := h
    exact ⟨hnothing, .untouched strategy⟩
  | loading plan =>
    obtain ⟨rfl, -⟩ := h
    exact ⟨hnothing, .untouched strategy⟩
  | queued pending | reloading pending =>
    obtain ⟨first, notices, hchecked⟩ := h
    cases hchecked with
    | threshold settings => exact ⟨⟨first, .empty, {}, .empty⟩, .opened settings⟩
    | slidingWindow => exact ⟨hnothing, .untouched _⟩
  | asking job reply | saving job summary | counting job summary =>
    obtain ⟨looks, bound, rfl, -⟩ := h
    exact ⟨looks, .cut strategy⟩
  | finished outcome => contradiction

lemma stands_concluded {job : Job} {looks : Looks} {bound : Nat}
    (hjob : Prepared strategy.settings call looks.second.summary (cutTurns strategy looks turns)
      bound job) (summary : Value) :
    Stands strategy call turns (.finished (concluded job call summary)) (job.compacted summary) := by
  have hresult := hjob.result_eq summary
  rw [concluded, hresult]
  exact ⟨looks, bound, job, summary, hjob, hresult, rfl⟩

lemma Rechecked.stands_ended {looks : Looks} {stretch : Stretch Job}
    {outcome : Except Fault (Option Compaction)}
    (h : Rechecked call looks turns strategy stretch) (hended : ended? stretch.next = some outcome) :
    Stands strategy call turns (.finished outcome) stretch.turns := by
  cases h with
  | stop =>
    cases hended
    trivial
  | fail =>
    cases hended
    exact ⟨looks, .cut strategy⟩
  | go => contradiction

lemma Rechecked.stands_go {looks : Looks} {stretch : Stretch Job} {job : Job}
    (h : Rechecked call looks turns strategy stretch) (hgo : stretch.next = .go job) :
    ∃ bound, stretch.turns = cutTurns strategy looks turns ∧
      Prepared strategy.settings call looks.second.summary stretch.turns bound job := by
  cases h with
  | stop | fail => contradiction
  | @go notices bound found hjob =>
    obtain rfl : found = job := Next.go.inj hgo
    exact ⟨bound, rfl, hjob⟩

lemma Stands.rechecked {pending : Pending}
    (h : Stands strategy call turns (.reloading pending) after) (registry : Registry)
    (record : Record) :
    ∃ looks, Rechecked call looks turns strategy (pending.recheck registry call record after) := by
  obtain ⟨first, notices, hchecked⟩ := h
  exact ⟨_, recheck_rechecked ⟨first, .empty, record, .empty⟩ hchecked registry⟩

lemma Stepped.stands {registry : Registry} {otherwise : Reply} {id : Nat} {view later : View}
    {next : Phase} (h : Stepped strategy registry otherwise call id view phase later next)
    (hstands : Stands strategy call turns phase view.turns) :
    Stands strategy call turns next later.turns := by
  cases h with
  | finished | waits | admitted | answered | counts => exact hstands
  | unplanned => exact Stands.abandoned hstands rfl
  | planned hplan =>
    have hsame : view.turns = turns := hstands
    exact ⟨hsame, registry, hsame ▸ hplan⟩
  | @checked plan stretch outcome hstretch hended =>
    obtain ⟨hsame, other, hplan⟩ := hstands
    have hchecked := check_checked hplan (recordIn call.agent view.store)
    rw [hsame] at hstretch
    rw [hstretch] at hchecked
    cases hchecked with
    | stop =>
      cases hended
      trivial
    | fail settings =>
      cases hended
      exact ⟨⟨recordIn call.agent view.store, .empty, {}, .empty⟩, .opened settings⟩
    | threshold | slidingWindow => contradiction
  | @enters plan stretch pending hstretch hgo =>
    obtain ⟨hsame, other, hplan⟩ := hstands
    have hchecked := check_checked hplan (recordIn call.agent view.store)
    rw [hsame] at hstretch
    rw [hstretch] at hchecked
    rcases stretch with ⟨after, notices, found⟩
    obtain rfl : found = .go pending := hgo
    exact ⟨_, notices, hchecked⟩
  | rechecked hstretch hended =>
    obtain ⟨looks, hrechecked⟩ := hstands.rechecked registry (recordIn call.agent view.store)
    rw [hstretch] at hrechecked
    exact hrechecked.stands_ended hended
  | refused hstretch hgo =>
    obtain ⟨looks, hrechecked⟩ := hstands.rechecked registry (recordIn call.agent view.store)
    rw [hstretch] at hrechecked
    obtain ⟨bound, hturns, -⟩ := hrechecked.stands_go hgo
    exact ⟨looks, hturns ▸ .cut strategy⟩
  | asks hstretch hgo =>
    obtain ⟨looks, hrechecked⟩ := hstands.rechecked registry (recordIn call.agent view.store)
    rw [hstretch] at hrechecked
    obtain ⟨bound, hturns, hjob⟩ := hrechecked.stands_go hgo
    exact ⟨looks, bound, hturns, hjob⟩
  | unanswered => exact Stands.abandoned hstands rfl
  | saved summary =>
    obtain ⟨looks, bound, hcut, hjob⟩ := hstands
    exact stands_concluded (hcut ▸ hjob) summary
  | counted job summary =>
    obtain ⟨looks, bound, hcut, hjob⟩ := hstands
    exact stands_concluded (hcut ▸ hjob) summary

end Calls

/-- No other call works on the list. -/
def OwnList (pool : Pool) (id : Nat) (list : Text) : Prop :=
  ∀ other task, other ≠ id → pool.tasks[other]? = some task → task.list ≠ list

lemma ownList_of_nodup {pool : Pool} {id : Nat} {task : Task} (htask : pool.tasks[id]? = some task)
    (h : (pool.tasks.map Task.list).Nodup) : OwnList pool id task.list := by
  intro other found hother hfound hsame
  have hlist : (pool.tasks.map Task.list)[other]? = (pool.tasks.map Task.list)[id]? := by
    rw [List.getElem?_map, List.getElem?_map, htask, hfound, Option.map_some, Option.map_some, hsame]
  have hlt : other < (pool.tasks.map Task.list).length := by
    rw [List.length_map]
    exact (List.getElem?_eq_some_iff.mp hfound).1
  exact hother ((List.getElem?_inj hlt h).mp hlist)

/-- A call of a strategy by itself that works on a list of its own, some moves after its start. -/
structure Pursued (installed : Installed) (errand : Errand) (id : Nat) (turns : List Turn)
    (pool : Pool) : Prop where
  own : OwnList pool id errand.list
  now : ∃ before phase, pool.tasks[id]? = some (callAt installed errand before phase) ∧
    Stands installed.strategy errand.call turns phase (pool.world.turns errand.list)

section Moves

variable {installed : Installed} {errand : Errand} {id other : Nat} {turns before : List Turn}
  {pool : Pool} {task : Task} {result : World × Task}

lemma OwnList.update {list : Text} (h : OwnList pool id list) (htask : pool.tasks[other]? = some task)
    (hsame : result.2.list = task.list) : OwnList (pool.update other task result) id list := by
  intro third found hthird hfound
  by_cases hmoved : other = third
  · subst hmoved
    rw [update_self htask] at hfound
    cases hfound
    rw [hsame]
    exact h other task hthird htask
  · rw [update_of_ne hmoved] at hfound
    exact h third found hthird hfound

/-- What other calls do is no concern of a call that works on a list of its own. -/
lemma Pursued.foreign (h : Pursued installed errand id turns pool) (hother : other ≠ id)
    (htask : pool.tasks[other]? = some task) (hadvances : Advances task pool.world before result)
    (hframed : Framed task.list pool.world result.1) :
    Pursued installed errand id turns (pool.update other task result) := by
  obtain ⟨phase, -, hresult⟩ := hadvances.same
  obtain ⟨before, phase, hnow, hstands⟩ := h.now
  have hturns : (pool.update other task result).world.turns errand.list =
      pool.world.turns errand.list := hframed.turns _ (h.own other task hother htask).symm
  refine ⟨h.own.update htask (by rw [hresult]), before, phase, ?_, ?_⟩
  · rw [update_of_ne hother]
    exact hnow
  · rw [hturns]
    exact hstands

lemma Pursued.moved {phase next : Phase} {later : List Turn} (hown : OwnList pool id errand.list)
    (htask : pool.tasks[id]? = some (callAt installed errand before phase))
    (hresult : result.2 = callAt installed errand later next)
    (hstands : Stands installed.strategy errand.call turns next (result.1.turns errand.list)) :
    Pursued installed errand id turns
      (pool.update id (callAt installed errand before phase) result) := by
  refine ⟨hown.update htask (by rw [hresult]; rfl), later, next, ?_, hstands⟩
  rw [update_self htask, hresult]

lemma callAt_cancel {phase : Phase} (hrunning : phase.isFinished = false) (world : World) :
    ∃ after, (callAt installed errand before phase).cancel id world =
        (after, callAt installed errand before (.finished (.error (.cancelled [])))) ∧
      after.turns errand.list = world.turns errand.list := by
  cases phase with
  | finished outcome => contradiction
  | _ => exact ⟨_, rfl, rfl⟩

lemma Pursued.step (h : Pursued installed errand id turns pool) :
    Pursued installed errand id turns (pool.move (.step id)) := by
  obtain ⟨before, phase, hnow, hstands⟩ := h.now
  obtain ⟨later, next, hresult, -, hstepped⟩ := step_leads installed errand before id pool.world phase
  rw [move_step hnow]
  exact Pursued.moved h.own hnow hresult (hstepped.stands hstands)

lemma Pursued.cancel (h : Pursued installed errand id turns pool) :
    Pursued installed errand id turns (pool.move (.cancel id)) := by
  obtain ⟨before, phase, hnow, hstands⟩ := h.now
  rw [move_cancel hnow]
  cases hrunning : phase.isFinished with
  | false =>
    obtain ⟨after, hcancel, hturns⟩ := callAt_cancel hrunning pool.world
    rw [hcancel]
    refine Pursued.moved h.own hnow rfl ?_
    dsimp only
    rw [hturns]
    exact hstands.abandoned hrunning
  | true =>
    cases phase with
    | finished outcome => exact Pursued.moved h.own hnow rfl hstands
    | _ => contradiction

lemma Pursued.move (h : Pursued installed errand id turns pool) (move : Move) :
    Pursued installed errand id turns (pool.move move) := by
  cases move with
  | step other =>
    by_cases hother : other = id
    · rw [hother]
      exact h.step
    · cases htask : pool.tasks[other]? with
      | none => simpa only [Pool.move, htask] using h
      | some task =>
        rw [move_step htask]
        exact h.foreign hother htask (step_advances task other pool.world)
          (framed_step task other pool.world)
  | cancel other =>
    by_cases hother : other = id
    · rw [hother]
      exact h.cancel
    · cases htask : pool.tasks[other]? with
      | none => simpa only [Pool.move, htask] using h
      | some task =>
        rw [move_cancel htask]
        exact h.foreign hother htask (cancel_advances task other pool.world)
          (framed_cancel task other pool.world)

lemma Pursued.run (h : Pursued installed errand id turns pool) (moves : List Move) :
    Pursued installed errand id turns (pool.run moves) := by
  -- What stands is told by the phase of the call, whoever moves.
  induction moves generalizing pool with
  | nil => exact h
  | cons move rest ih => exact ih (h.move move)

lemma pursued_start (htask : pool.tasks[id]? = some task) (hdirect : task.guarded = false)
    (hinstalled : task.installed = some installed) (hready : task.phase.isReady = true)
    (hown : OwnList pool id task.list) :
    Pursued installed (errandOf task) id (pool.world.turns task.list) pool := by
  have hphase : task.phase = .ready := by
    cases hphase : task.phase with
    | ready => rfl
    | _ =>
      rw [hphase] at hready
      contradiction
  refine ⟨hown, task.before, .ready, ?_, rfl⟩
  rw [htask, callAt, ← hdirect, ← hinstalled, ← hphase]
  rfl

end Moves

end Condense.Proofs
