import Condense.Proofs.PoolSteps
import Condense.Proofs.StoreReads

/-!
# Cancelled calls

A call of the guard may be cancelled at any of its waits, whatever other calls do beside it. The
conversation is then what it was when the call started, and the call stands in no line any more. The
record is untouched unless the call was about to keep a summary: what is being written at that
moment is written nonetheless, and what was written before stays.
-/

namespace Condense.Proofs
open Summary

section Stores

/-- All stores but one are left alone. -/
def OnlyIn (name : Text) (world after : World) : Prop :=
  ∀ other ≠ name, after.store other = world.store other

lemma OnlyIn.of_stores {name : Text} {world after : World} (h : after.stores = world.stores) :
    OnlyIn name world after := by
  intro other _
  unfold World.store
  rw [h]

lemma OnlyIn.trans {name : Text} {first second third : World} (h : OnlyIn name first second)
    (h' : OnlyIn name second third) : OnlyIn name first third := fun other hother =>
  (h' other hother).trans (h other hother)

lemma onlyIn_setStore (world : World) (name : Text) (store : Store) :
    OnlyIn name world (world.setStore name store) := by
  intro other hother
  unfold World.store World.setStore
  rw [Assoc.get?_put_of_ne store world.stores hother]

lemma store_setStore (world : World) (name : Text) (store : Store) :
    (world.setStore name store).store name = store := by
  unfold World.store World.setStore
  rw [Assoc.get?_put_self, Option.getD_some]

end Stores

section Finishing

variable (task : Task) (id : Nat) (world : World)

lemma finish_stores (outcome : Except Fault (Option Compaction)) :
    (task.finish id world outcome).1.stores = world.stores := by
  unfold Task.finish
  split
  case h_1 => rfl
  case h_2 => split <;> rfl

lemma finish_task (outcome : Except Fault (Option Compaction)) :
    ∃ result, (task.finish id world outcome).2 = { task with phase := .finished result } := by
  unfold Task.finish
  split
  case h_1 => exact ⟨_, rfl⟩
  case h_2 => split <;> exact ⟨_, rfl⟩

lemma conclude_eq_finish (job : Job) (summary : Value) :
    ∃ later outcome, later.stores = world.stores ∧
      task.conclude id world job summary = task.finish id later outcome := by
  unfold Task.conclude
  dsimp only
  cases job.result task.call summary with
  | error fault => exact ⟨world.setTurns task.list (job.compacted summary), _, rfl, rfl⟩
  | ok result =>
    exact ⟨(world.setTurns task.list (job.compacted summary)).report
      [result.notice task.call.agent], _, rfl, rfl⟩

end Finishing

/-- How a call left its store, by the phase in which it is: up to the summary it only reads. -/
def StoredAt (agent : Text) (start : Store) : Phase → Store → Prop
  | .counting job summary, store =>
    ∃ read, Consulted start read ∧ store = (job.saveSummary agent summary read).2
  | .finished _, _ => True
  | _, store => Consulted start store

/-- What a call does in one move: it stays the same call, it does nothing to the stores of others,
and leaves its own as its new phase has it. -/
structure Advances (task : Task) (world : World) (before : List Turn) (result : World × Task) :
    Prop where
  same : ∃ phase, phase.isReady = false ∧ result.2 = { task with before, phase }
  elsewhere : OnlyIn task.store world result.1
  stored : ∀ start, StoredAt task.call.agent start task.phase (world.store task.store) →
    StoredAt task.call.agent start result.2.phase (result.1.store task.store)

section Steps

variable (task : Task) (id : Nat) (world : World)

lemma advances_finish {later : World} {before : List Turn} (hstores : OnlyIn task.store world later)
    (outcome : Except Fault (Option Compaction)) :
    Advances task world before (({ task with before } : Task).finish id later outcome) := by
  obtain ⟨result, htask⟩ := finish_task { task with before } id later outcome
  have hlater := finish_stores { task with before } id later outcome
  refine ⟨⟨.finished result, rfl, htask⟩, hstores.trans (.of_stores hlater), fun start _ => ?_⟩
  rw [htask]
  trivial

lemma advances_conclude {later : World} {before : List Turn}
    (hstores : OnlyIn task.store world later) (job : Job) (summary : Value) :
    Advances task world before (({ task with before } : Task).conclude id later job summary) := by
  obtain ⟨last, outcome, hsame, heq⟩ :=
    conclude_eq_finish { task with before } id later job summary
  rw [heq]
  exact advances_finish task id world (hstores.trans (.of_stores hsame)) outcome

/-- A call goes on to a phase in which it has written nothing yet. -/
lemma advances_read {later : World} {before : List Turn} {phase : Phase}
    (hstores : OnlyIn task.store world later) (hphase : phase.isReady = false)
    (hstored : ∀ start, StoredAt task.call.agent start task.phase (world.store task.store) →
      StoredAt task.call.agent start phase (later.store task.store)) :
    Advances task world before (later, { task with before, phase }) :=
  ⟨⟨phase, hphase, rfl⟩, hstores, hstored⟩

lemma start_advances (hready : task.phase = .ready) :
    Advances task world (world.turns task.list) (task.start id world) := by
  unfold Task.start
  dsimp only
  split
  case h_1 => exact advances_finish task id world (.of_stores rfl) _
  case h_2 installed _ =>
    split
    case isTrue =>
      exact advances_read task world (.of_stores rfl) rfl fun _ _ => trivial
    case isFalse =>
      rcases hplan : installed.strategy.plan world.registry task.call (world.turns task.list) with
        ⟨notices, fault | plan⟩
      · refine advances_finish task id world ?_ _
        exact .of_stores rfl
      · refine advances_read task world (.of_stores rfl) rfl fun start hstored => ?_
        rw [hready] at hstored
        exact hstored

lemma opened_elsewhere (turns : List Turn) (notices : List Notice) :
    OnlyIn task.store world (opened (errandOf task) world turns notices) :=
  onlyIn_setStore world task.store (lookedAt task.call.agent (world.store task.store))

lemma opened_consulted (turns : List Turn) (notices : List Notice) :
    Consulted (world.store task.store)
      ((opened (errandOf task) world turns notices).store task.store) := by
  have hstore : (opened (errandOf task) world turns notices).store task.store =
      lookedAt task.call.agent (world.store task.store) := store_setStore world task.store _
  rw [hstore]
  exact lookedAt_consulted _ _

lemma loading_advances {plan : Plan} (hphase : task.phase = .loading plan) :
    Advances task world task.before (task.step id world) := by
  generalize hstretch : plan.check task.call
    (recordIn task.call.agent (world.store task.store)) (world.turns task.list) = stretch
  have helsewhere := opened_elsewhere task world stretch.turns stretch.notices
  have hread := opened_consulted task world stretch.turns stretch.notices
  rw [loading_eq task id world hphase hstretch]
  generalize opened (errandOf task) world stretch.turns stretch.notices = later at helsewhere hread ⊢
  cases stretch.next with
  | stop => exact advances_finish task id world helsewhere _
  | fail fault => exact advances_finish task id world helsewhere _
  | go pending =>
    have hentered : (task.installed.elim later fun installed =>
        later.enter installed.lock id).stores = later.stores := by cases task.installed <;> rfl
    have hstore : (task.installed.elim later fun installed =>
        later.enter installed.lock id).store task.store = later.store task.store := by
      unfold World.store
      rw [hentered]
    refine advances_read task world (helsewhere.trans (.of_stores hentered)) rfl
      fun start hstored => ?_
    rw [hphase] at hstored
    rw [hstore]
    exact hstored.trans hread

lemma reloading_advances {pending : Pending} (hphase : task.phase = .reloading pending) :
    Advances task world task.before (task.step id world) := by
  generalize hstretch : pending.recheck world.registry task.call
    (recordIn task.call.agent (world.store task.store)) (world.turns task.list) = stretch
  have helsewhere := opened_elsewhere task world stretch.turns stretch.notices
  have hread := opened_consulted task world stretch.turns stretch.notices
  rw [reloading_eq task id world hphase hstretch]
  generalize opened (errandOf task) world stretch.turns stretch.notices = later at helsewhere hread ⊢
  cases stretch.next with
  | stop => exact advances_finish task id world helsewhere _
  | fail fault => exact advances_finish task id world helsewhere _
  | go job =>
    change Advances task world task.before (task.ask id later job)
    unfold Task.ask
    split
    case h_1 => exact advances_finish task id world helsewhere _
    case h_2 =>
      refine advances_read task world ?_ rfl fun start hstored => ?_
      · exact helsewhere.trans (.of_stores rfl)
      · rw [hphase] at hstored
        exact hstored.trans hread

lemma saving_advances {job : Job} {summary : Value} (hphase : task.phase = .saving job summary) :
    Advances task world task.before (task.step id world) := by
  have helsewhere := onlyIn_setStore world task.store
    (job.saveSummary task.call.agent summary (world.store task.store)).2
  unfold Task.step
  rw [hphase]
  dsimp only
  split
  case h_1 =>
    refine advances_read task world ?_ rfl fun start hstored => ?_
    · exact helsewhere
    · rw [hphase] at hstored
      exact ⟨_, hstored, store_setStore world task.store _⟩
  case h_2 =>
    refine advances_conclude task id world ?_ job summary
    exact helsewhere

lemma asking_advances {job : Job} {reply : Reply} (hphase : task.phase = .asking job reply) :
    Advances task world task.before (task.step id world) := by
  unfold Task.step
  rw [hphase]
  dsimp only
  cases (job.request.receive job.timeout reply).2 with
  | error fault =>
    refine advances_finish task id world ?_ _
    exact .of_stores rfl
  | ok summary =>
    refine advances_read task world ?_ rfl fun start hstored => ?_
    · exact .of_stores rfl
    · rw [hphase] at hstored
      exact hstored

lemma queued_advances {pending : Pending} (hphase : task.phase = .queued pending) :
    Advances task world task.before (task.step id world) := by
  unfold Task.step
  rw [hphase]
  dsimp only
  split
  case isTrue =>
    refine advances_read task world (.of_stores rfl) rfl fun start hstored => ?_
    rw [hphase] at hstored
    exact hstored
  case isFalse =>
    exact advances_read task world (.of_stores rfl) (by rw [hphase]; rfl) fun _ hstored => hstored

/-- What a call does with one step. -/
lemma step_advances :
    Advances task world (if task.phase.isReady then world.turns task.list else task.before)
      (task.step id world) := by
  cases hphase : task.phase with
  | ready =>
    unfold Task.step
    rw [hphase]
    exact start_advances task id world hphase
  | loading plan => exact loading_advances task id world hphase
  | queued pending => exact queued_advances task id world hphase
  | reloading pending => exact reloading_advances task id world hphase
  | asking job reply => exact asking_advances task id world hphase
  | saving job summary => exact saving_advances task id world hphase
  | counting job summary =>
    unfold Task.step
    rw [hphase]
    refine advances_conclude task id world ?_ job summary
    exact onlyIn_setStore world task.store _
  | finished outcome =>
    unfold Task.step
    rw [hphase]
    exact advances_read task world (.of_stores rfl) (by rw [hphase]; rfl) fun _ hstored => hstored

/-- What a call does when it is cancelled. -/
lemma cancel_advances : Advances task world task.before (task.cancel id world) := by
  unfold Task.cancel
  cases hphase : task.phase with
  | ready =>
    refine advances_read task world (.of_stores rfl) rfl fun _ _ => ?_
    trivial
  | finished outcome =>
    exact advances_read task world (.of_stores rfl) (by rw [hphase]; rfl) fun _ hstored => hstored
  | saving job summary =>
    refine advances_finish task id world ?_ _
    exact onlyIn_setStore world task.store _
  | counting job summary =>
    refine advances_finish task id world ?_ _
    exact onlyIn_setStore world task.store _
  | loading plan => exact advances_finish task id world (.of_stores rfl) _
  | queued pending => exact advances_finish task id world (.of_stores rfl) _
  | reloading pending => exact advances_finish task id world (.of_stores rfl) _
  | asking job reply => exact advances_finish task id world (.of_stores rfl) _

end Steps

section Moves

variable {pool : Pool}

/-- A move does nothing, or one call advances by it. -/
lemma move_advances (pool : Pool) (move : Move) : pool.move move = pool ∨
    ∃ other task before result, pool.tasks[other]? = some task ∧
      (task.phase.isReady = false → before = task.before) ∧
      Advances task pool.world before result ∧ pool.move move = pool.update other task result := by
  cases move with
  | step other =>
    cases htask : pool.tasks[other]? with
    | none => exact Or.inl (by simp only [Pool.move, htask])
    | some task =>
      refine Or.inr ⟨other, task, _, _, htask, fun hready => ?_,
        step_advances task other pool.world, move_step htask⟩
      rw [hready, if_neg Bool.false_ne_true]
  | cancel other =>
    cases htask : pool.tasks[other]? with
    | none => exact Or.inl (by simp only [Pool.move, htask])
    | some task =>
      exact Or.inr ⟨other, task, _, _, htask, fun _ => rfl, cancel_advances task other pool.world,
        move_cancel htask⟩

/-- No other call uses the store. -/
def SoleUser (pool : Pool) (id : Nat) (store : Text) : Prop :=
  ∀ other task, other ≠ id → pool.tasks[other]? = some task → task.store ≠ store

/-- A call that was started in a pool, some moves later. -/
structure OnItsWay (start : Pool) (id : Nat) (task : Task) (pool : Pool) : Prop where
  now : ∃ phase, phase.isReady = false ∧
    pool.tasks[id]? = some { task with before := start.world.turns task.list, phase }
  sole : SoleUser start id task.store → SoleUser pool id task.store
  stored : SoleUser start id task.store → ∀ phase, phase? pool id = some phase →
    StoredAt task.call.agent (start.world.store task.store) phase (pool.world.store task.store)

lemma SoleUser.update {id other : Nat} {store : Text} (h : SoleUser pool id store) {task : Task}
    {before : List Turn} {result : World × Task} (htask : pool.tasks[other]? = some task)
    (hadvances : Advances task pool.world before result) :
    SoleUser (pool.update other task result) id store := by
  intro third found hthird hfound
  by_cases hsame : other = third
  · subst hsame
    obtain ⟨phase, -, hresult⟩ := hadvances.same
    rw [update_self htask, hresult] at hfound
    cases hfound
    exact h other task hthird htask
  · rw [update_of_ne hsame] at hfound
    exact h third found hthird hfound

/-- Every move leaves the call under way. -/
lemma OnItsWay.move {start : Pool} {id : Nat} {task : Task} (h : OnItsWay start id task pool)
    (move : Move) : OnItsWay start id task (pool.move move) := by
  rcases move_advances pool move with
    hsame | ⟨other, moved, before, result, htask, hbefore, hadvances, hmove⟩
  · rw [hsame]
    exact h
  · obtain ⟨phase, hready, hnow⟩ := h.now
    have hsole := fun hstart => (h.sole hstart).update htask hadvances
    rw [hmove]
    by_cases hother : other = id
    · subst hother
      rw [hnow] at htask
      cases htask
      obtain ⟨next, hnext, hresult⟩ := hadvances.same
      rw [hbefore hready] at hresult
      have hlater := update_self hnow result
      rw [hresult] at hlater
      refine ⟨⟨next, hnext, hlater⟩, hsole, fun hstart found hfound => ?_⟩
      rw [phase?, hlater] at hfound
      cases hfound
      have hstored := hadvances.stored _ (h.stored hstart phase (by rw [phase?, hnow]; rfl))
      rw [hresult] at hstored
      exact hstored
    · have hlater : (pool.update other moved result).tasks[id]? = pool.tasks[id]? :=
        update_of_ne hother result
      refine ⟨⟨phase, hready, hlater.trans hnow⟩, hsole, fun hstart found hfound => ?_⟩
      have hstore : (pool.update other moved result).world.store task.store =
          pool.world.store task.store :=
        hadvances.elsewhere _ (h.sole hstart other moved hother htask).symm
      rw [phase?, hlater] at hfound
      rw [hstore]
      exact h.stored hstart found hfound

lemma OnItsWay.run {start : Pool} {id : Nat} {task : Task} (h : OnItsWay start id task pool)
    (moves : List Move) : OnItsWay start id task (pool.run moves) := by
  induction moves generalizing pool with
  | nil => exact h
  | cons move rest ih => exact ih (h.move move)

/-- The first step of a call puts it under way. -/
lemma onItsWay_start {id : Nat} {task : Task} (htask : pool.tasks[id]? = some task)
    (hready : task.phase.isReady = true) : OnItsWay pool id task (pool.move (.step id)) := by
  have hadvances := step_advances task id pool.world
  rw [if_pos hready] at hadvances
  obtain ⟨phase, hphase, hresult⟩ := hadvances.same
  have hlater := update_self htask (task.step id pool.world)
  rw [hresult] at hlater
  rw [move_step htask]
  refine ⟨⟨phase, hphase, hlater⟩, fun hsole => hsole.update htask hadvances,
    fun hsole found hfound => ?_⟩
  rw [phase?, hlater] at hfound
  cases hfound
  have hstart : StoredAt task.call.agent (pool.world.store task.store) task.phase
      (pool.world.store task.store) := by
    cases htaskPhase : task.phase with
    | ready => exact .refl _
    | _ =>
      rw [htaskPhase] at hready
      contradiction
  have hstored := hadvances.stored _ hstart
  rw [hresult] at hstored
  exact hstored

end Moves

/-- What a cancelled call leaves in its store, by the phase in which it is cancelled. The values of
the record, and all others, are those from before unless a summary was about to be kept. -/
def Leaves (agent : Text) (start : Store) : Phase → Store → Prop
  | .saving job summary, after =>
    ∃ read, Consulted start read ∧ after = (job.saveSummary agent summary read).2
  | .counting job summary, after =>
    ∃ read, Consulted start read ∧ after = savedIn agent job summary read
  | _, after => Consulted start after ∧ ∀ key, found? key after = found? key start

section Cancelled

variable (task : Task) (id : Nat) {installed : Installed}

/-- A cancelled call of the guard ends with its cancellation, and with the turns that it found. -/
lemma finish_cancelled (hguarded : task.guarded = true)
    (hinstalled : task.installed = some installed) (world : World) :
    ∃ after, task.finish id world (.error (.cancelled [])) =
        (after, { task with phase := .finished (.error (.cancelled [])) }) ∧
      after.stores = world.stores ∧ after.turns task.list = task.before ∧
      after.line installed.lock = (world.line installed.lock).filter (· != id) := by
  have hfinish : task.finish id world (.error (.cancelled [])) =
      ((((world.leave installed.lock id).setTurns task.list task.before).report []),
        { task with phase := .finished (.error (.cancelled [])) }) := by
    unfold Task.finish
    rw [hinstalled]
    dsimp only
    rw [if_pos hguarded]
    rfl
  refine ⟨_, hfinish, rfl, ?_, ?_⟩
  · change (Assoc.get? task.list (Assoc.put task.list task.before world.lists)).getD [] =
      task.before
    rw [Assoc.get?_put_self, Option.getD_some]
  · exact line_put _

/-- Cancelling a call ends it, once what is being written has been written. -/
lemma cancel_eq_finish {phase : Phase} (hphase : task.phase = phase)
    (hready : phase.isReady = false) (hrunning : phase.isFinished = false) (world : World) :
    ∃ later : World, task.cancel id world = task.finish id later (.error (.cancelled [])) ∧
      later.lines = world.lines ∧
      ∀ start, StoredAt task.call.agent start phase (world.store task.store) →
        Leaves task.call.agent start phase (later.store task.store) := by
  unfold Task.cancel
  rw [hphase]
  cases phase with
  | ready => contradiction
  | finished outcome => contradiction
  | saving job summary =>
    exact ⟨_, rfl, rfl, fun start hstored => ⟨_, hstored, store_setStore world task.store _⟩⟩
  | counting job summary =>
    refine ⟨_, rfl, rfl, fun start hstored => ?_⟩
    obtain ⟨read, hread, hstore⟩ := hstored
    refine ⟨read, hread, ?_⟩
    rw [hstore]
    exact store_setStore world task.store _
  | loading plan => exact ⟨world, rfl, rfl, fun _ hstored => ⟨hstored, hstored.held⟩⟩
  | queued pending => exact ⟨world, rfl, rfl, fun _ hstored => ⟨hstored, hstored.held⟩⟩
  | reloading pending => exact ⟨world, rfl, rfl, fun _ hstored => ⟨hstored, hstored.held⟩⟩
  | asking job reply => exact ⟨world, rfl, rfl, fun _ hstored => ⟨hstored, hstored.held⟩⟩

end Cancelled

/-- A call of the guard that is cancelled at one of its waits, after any moves of all calls, ends
with the cancellation. Its conversation has the turns again that the call found, and the call stands
in no line for its lock. If no other call uses its store, the record in it is the one from before,
except where a summary was being kept. -/
theorem cancellation_restores (pool : Pool) {id : Nat} {task : Task} {installed : Installed}
    (htask : pool.tasks[id]? = some task) (hguarded : task.guarded = true)
    (hinstalled : task.installed = some installed) (hready : task.phase.isReady = true)
    (moves : List Move) {phase : Phase}
    (hphase : phase? ((pool.move (.step id)).run moves) id = some phase)
    (hrunning : phase.isFinished = false) :
    let late := (pool.move (.step id)).run moves
    let after := late.move (.cancel id)
    phase? after id = some (.finished (.error (.cancelled []))) ∧
      after.world.turns task.list = pool.world.turns task.list ∧
      after.world.line installed.lock = (late.world.line installed.lock).filter (· != id) ∧
      (SoleUser pool id task.store →
        Leaves task.call.agent (pool.world.store task.store) phase
          (after.world.store task.store)) := by
  intro late after
  have honway : OnItsWay pool id task late := (onItsWay_start htask hready).run moves
  obtain ⟨found, hfound, hnow⟩ := honway.now
  obtain rfl : found = phase := by
    rw [phase?, hnow] at hphase
    exact Option.some.inj hphase
  generalize hstanding :
    ({ task with before := pool.world.turns task.list, phase := found } : Task) = standing at hnow
  -- The call as it stands differs from the call at the start in its turns and its phase only.
  have hguarded : standing.guarded = true := hstanding ▸ hguarded
  have hinstalled : standing.installed = some installed := hstanding ▸ hinstalled
  obtain ⟨later, hcancel, hlines, hleaves⟩ :=
    cancel_eq_finish standing id (hstanding ▸ rfl) hfound hrunning late.world
  obtain ⟨last, hfinish, hstores, hturns, hline⟩ :=
    finish_cancelled standing id hguarded hinstalled later
  have hmove : after = late.update id standing (last,
      { standing with phase := .finished (.error (.cancelled [])) }) := by
    rw [← hfinish, ← hcancel]
    exact move_cancel hnow
  have hworld : after.world = last := by
    rw [hmove]
    rfl
  refine ⟨?_, ?_, ?_, fun hsole => ?_⟩
  · rw [hmove, phase?, update_self hnow]
    rfl
  · rw [hworld]
    rw [← hstanding] at hturns
    exact hturns
  · rw [hworld, hline]
    unfold World.line
    rw [hlines]
  · have hstore : last.store task.store = later.store task.store := by
      unfold World.store
      rw [hstores]
    have hstored := honway.stored hsole found (by rw [phase?, hnow, ← hstanding]; rfl)
    rw [← hstanding] at hleaves
    rw [hworld, hstore]
    exact hleaves _ hstored

/-- A call of a guard with a sliding window on five turns. -/
def windowPool : Pool where
  world := {
    lists := [("t", ["a", "b", "c", "d", "e"].map (.ofText "user"))]
    stores := [("s", .memory {})]
    script := [.answer { content := .text "S" }] }
  tasks := [{
    call := { agent := "a" }
    list := "t"
    store := "s"
    installed := some ⟨0, .slidingWindow wholeSettings 4 (by decide)⟩
    guarded := true }]

/-- The call is cancelled while it counts its turns: they are those from before, but the summary
that it has kept stays. -/
theorem counted_summary_stays :
    let late := (windowPool.move (.step 0)).run (List.replicate 5 (.step 0))
    let after := late.move (.cancel 0)
    after.world.turns "t" = windowPool.world.turns "t" ∧
      recordIn "a" (windowPool.world.store "s") = {} ∧
      (recordIn "a" (after.world.store "s")).summary = "S" := by
  intro late after
  have hlate : (phase? late 0).map Phase.isFinished = some false := by decide +kernel
  obtain ⟨phase, hphase, hrunning⟩ := Option.map_eq_some_iff.mp hlate
  obtain ⟨-, hturns, -, -⟩ := cancellation_restores windowPool rfl rfl rfl rfl
    (List.replicate 5 (.step 0)) hphase hrunning
  exact ⟨hturns, by decide +kernel, by decide +kernel⟩

end Condense.Proofs
