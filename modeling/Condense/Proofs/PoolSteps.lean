import Condense.Session
import Condense.Proofs.CompactionResults

/-!
# Steps of concurrent calls

Calls of one strategy on one store, each on a list of its own. This file says once what a single
step of such a call can do, in terms of what the call sees of the world: its own turns, the store,
the line for the lock, and the provider. Only the first in line gets past the lock, so that no two
calls are inside at a time.
-/

namespace Condense.Proofs
open Summary

/-- What a call sees of the world. -/
structure View where
  turns : List Turn
  store : Store
  line : List Nat
  script : List Reply
  sent : List Request

/-- A call gives up its place in the line. -/
def View.left (view : View) (id : Nat) : View :=
  { view with line := view.line.filter (· != id) }

def viewOf (lock : Nat) (errand : Errand) (world : World) : View where
  turns := world.turns errand.list
  store := world.store errand.store
  line := world.line lock
  script := world.script
  sent := world.sent

/-- What one step of a call can do, by the phase in which the call is. -/
inductive Stepped (strategy : Strategy) (registry : Registry) (otherwise : Reply) (call : Call)
    (id : Nat) (view : View) : Phase → View → Phase → Prop where
  | finished (outcome : Except Fault (Option Compaction)) :
      Stepped strategy registry otherwise call id view (.finished outcome) view (.finished outcome)
  -- Up to the first look at the record.
  | unplanned {fault : Fault} (hplan : (strategy.plan registry call view.turns).2 = .error fault) :
      Stepped strategy registry otherwise call id view .ready (view.left id)
        (.finished (.error fault))
  | planned {plan : Plan} (hplan : (strategy.plan registry call view.turns).2 = .ok plan) :
      Stepped strategy registry otherwise call id view .ready view (.loading plan)
  | checked {plan : Plan} {stretch : Stretch Pending} {outcome : Except Fault (Option Compaction)}
      (hstretch : plan.check call (recordIn call.agent view.store) view.turns = stretch)
      (hended : ended? stretch.next = some outcome) :
      Stepped strategy registry otherwise call id view (.loading plan)
        ({ view with turns := stretch.turns, store := lookedAt call.agent view.store }.left id)
        (.finished outcome)
  -- In the line for the lock.
  | enters {plan : Plan} {stretch : Stretch Pending} {pending : Pending}
      (hstretch : plan.check call (recordIn call.agent view.store) view.turns = stretch)
      (hgo : stretch.next = .go pending) :
      Stepped strategy registry otherwise call id view (.loading plan)
        { view with
          turns := stretch.turns, store := lookedAt call.agent view.store,
          line := view.line ++ [id] }
        (.queued pending)
  | waits (pending : Pending) (hturn : view.line.head? ≠ some id) :
      Stepped strategy registry otherwise call id view (.queued pending) view (.queued pending)
  | admitted (pending : Pending) (hturn : view.line.head? = some id) :
      Stepped strategy registry otherwise call id view (.queued pending) view (.reloading pending)
  -- Inside, with the second look at the record.
  | rechecked {pending : Pending} {stretch : Stretch Job}
      {outcome : Except Fault (Option Compaction)}
      (hstretch : pending.recheck registry call (recordIn call.agent view.store) view.turns = stretch)
      (hended : ended? stretch.next = some outcome) :
      Stepped strategy registry otherwise call id view (.reloading pending)
        ({ view with turns := stretch.turns, store := lookedAt call.agent view.store }.left id)
        (.finished outcome)
  | refused {pending : Pending} {stretch : Stretch Job} {job : Job} {fault : Fault}
      (hstretch : pending.recheck registry call (recordIn call.agent view.store) view.turns = stretch)
      (hgo : stretch.next = .go job) (hrefused : refused? job.timeout = some fault) :
      Stepped strategy registry otherwise call id view (.reloading pending)
        ({ view with turns := stretch.turns, store := lookedAt call.agent view.store }.left id)
        (.finished (.error fault))
  | asks {pending : Pending} {stretch : Stretch Job} {job : Job}
      (hstretch : pending.recheck registry call (recordIn call.agent view.store) view.turns = stretch)
      (hgo : stretch.next = .go job) (hrefused : refused? job.timeout = none) :
      Stepped strategy registry otherwise call id view (.reloading pending)
        { view with
          turns := stretch.turns, store := lookedAt call.agent view.store,
          script := view.script.tail, sent := view.sent ++ [job.request] }
        (.asking job (view.script.headD otherwise))
  | unanswered {job : Job} {reply : Reply} {fault : Fault}
      (hfault : (job.request.receive job.timeout reply).2 = .error fault) :
      Stepped strategy registry otherwise call id view (.asking job reply) (view.left id)
        (.finished (.error fault))
  | answered {job : Job} {reply : Reply} {summary : Value}
      (hsummary : (job.request.receive job.timeout reply).2 = .ok summary) :
      Stepped strategy registry otherwise call id view (.asking job reply) view
        (.saving job summary)
  -- A summary has come and is kept.
  | saved {job : Job} (summary : Value) (hcount : job.turnCount = none) :
      Stepped strategy registry otherwise call id view (.saving job summary)
        ({ view with
          turns := job.compacted summary
          store := (job.saveSummary call.agent summary view.store).2 }.left id)
        (.finished (concluded job call summary))
  | counts {job : Job} (summary : Value) {count : Nat} (hcount : job.turnCount = some count) :
      Stepped strategy registry otherwise call id view (.saving job summary)
        { view with store := (job.saveSummary call.agent summary view.store).2 }
        (.counting job summary)
  | counted (job : Job) (summary : Value) :
      Stepped strategy registry otherwise call id view (.counting job summary)
        ({ view with
          turns := job.compacted summary
          store := (job.saveTurns call.agent view.store).2 }.left id)
        (.finished (concluded job call summary))

/-- What a call on a list leaves alone. -/
structure Framed (list : Text) (world after : World) : Prop where
  registry : after.registry = world.registry
  otherwise : after.otherwise = world.otherwise
  turns : ∀ name ≠ list, after.turns name = world.turns name

section Worlds

variable {lock : Nat} {errand : Errand} {world : World}

lemma framed_setTurns (world : World) (list : Text) (turns : List Turn) :
    Framed list world (world.setTurns list turns) := by
  refine ⟨rfl, rfl, fun name hname => ?_⟩
  unfold World.turns World.setTurns
  rw [Assoc.get?_put_of_ne turns world.lists hname]

lemma viewOf_setTurns (turns : List Turn) :
    viewOf lock errand (world.setTurns errand.list turns) =
      { viewOf lock errand world with turns } := by
  have hturns : (world.setTurns errand.list turns).turns errand.list = turns := by
    unfold World.turns World.setTurns
    rw [Assoc.get?_put_self, Option.getD_some]
  unfold viewOf
  rw [hturns]
  rfl

lemma viewOf_setStore (store : Store) :
    viewOf lock errand (world.setStore errand.store store) =
      { viewOf lock errand world with store } := by
  have hstore : (world.setStore errand.store store).store errand.store = store := by
    unfold World.store World.setStore
    rw [Assoc.get?_put_self, Option.getD_some]
  unfold viewOf
  rw [hstore]
  rfl

lemma line_put (line : List Nat) :
    World.line { world with lines := Assoc.put lock line world.lines } lock = line := by
  unfold World.line
  rw [Assoc.get?_put_self, Option.getD_some]

lemma viewOf_enter (id : Nat) :
    viewOf lock errand (world.enter lock id) =
      { viewOf lock errand world with line := (viewOf lock errand world).line ++ [id] } := by
  unfold viewOf World.enter
  rw [line_put]
  rfl

lemma viewOf_leave (id : Nat) :
    viewOf lock errand (world.leave lock id) = (viewOf lock errand world).left id := by
  unfold viewOf World.leave View.left
  rw [line_put]
  rfl

lemma viewOf_report (notices : List Notice) :
    viewOf lock errand (world.report notices) = viewOf lock errand world := rfl

lemma viewOf_send (request : Request) :
    viewOf lock errand (world.send request) =
      { viewOf lock errand world with
        script := (viewOf lock errand world).script.tail
        sent := (viewOf lock errand world).sent ++ [request] } := rfl

end Worlds

/-- The world after a look at the record and the stretch of work behind it. -/
def opened (errand : Errand) (world : World) (turns : List Turn) (notices : List Notice) : World :=
  ((world.load errand.store errand.call.agent).1.setTurns errand.list turns).report notices

/-- How a call goes on behind a stretch of work. -/
def carryOn {α : Type} (task : Task) (id : Nat) (world : World) (further : α → World × Task) :
    Next α → World × Task
  | .stop => task.finish id world (.ok none)
  | .fail fault => task.finish id world (.error fault)
  | .go value => further value

def errandOf (task : Task) : Errand := ⟨task.call, task.list, task.store⟩

section Looks

variable (task : Task) (id : Nat) (world : World)

lemma loading_eq {plan : Plan} {stretch : Stretch Pending} (hphase : task.phase = .loading plan)
    (hstretch : plan.check task.call (recordIn task.call.agent (world.store task.store))
      (world.turns task.list) = stretch) :
    task.step id world =
      carryOn task id (opened (errandOf task) world stretch.turns stretch.notices)
        (fun pending => (task.installed.elim
            (opened (errandOf task) world stretch.turns stretch.notices) fun installed =>
              (opened (errandOf task) world stretch.turns stretch.notices).enter installed.lock id,
          { task with phase := .queued pending })) stretch.next := by
  have hnext := congrArg Stretch.next hstretch
  unfold Task.step
  rw [hphase]
  dsimp only
  split
  case h_1 hstop =>
    rw [hnext.symm.trans hstop, ← hstretch]
    rfl
  case h_2 fault hfail =>
    rw [hnext.symm.trans hfail, ← hstretch]
    rfl
  case h_3 value hgo =>
    rw [hnext.symm.trans hgo, ← hstretch]
    cases task.installed <;> rfl

lemma reloading_eq {pending : Pending} {stretch : Stretch Job}
    (hphase : task.phase = .reloading pending)
    (hstretch : pending.recheck world.registry task.call
      (recordIn task.call.agent (world.store task.store)) (world.turns task.list) = stretch) :
    task.step id world =
      carryOn task id (opened (errandOf task) world stretch.turns stretch.notices)
        (task.ask id (opened (errandOf task) world stretch.turns stretch.notices))
        stretch.next := by
  have hnext := congrArg Stretch.next hstretch
  unfold Task.step
  rw [hphase]
  dsimp only
  split
  case h_1 hstop =>
    rw [hnext.symm.trans hstop, ← hstretch]
    rfl
  case h_2 fault hfail =>
    rw [hnext.symm.trans hfail, ← hstretch]
    rfl
  case h_3 value hgo =>
    rw [hnext.symm.trans hgo, ← hstretch]
    rfl

end Looks

/-- A call of a strategy by itself, in some phase. -/
def callAt (installed : Installed) (errand : Errand) (before : List Turn) (phase : Phase) : Task where
  call := errand.call
  list := errand.list
  store := errand.store
  installed := some installed
  guarded := false
  before := before
  phase := phase

/-- A step leads to the next phase of a call, and to a world that the call sees in another way. -/
def Leads (installed : Installed) (errand : Errand) (id : Nat) (world : World) (phase : Phase)
    (result : World × Task) : Prop :=
  ∃ before next, result.2 = callAt installed errand before next ∧
    Framed errand.list world result.1 ∧
    Stepped installed.strategy world.registry world.otherwise errand.call id
      (viewOf installed.lock errand world) phase (viewOf installed.lock errand result.1) next

section Step

variable (installed : Installed) (errand : Errand) (before : List Turn) (id : Nat) (world : World)

lemma step_ready :
    Leads installed errand id world .ready
      ((callAt installed errand before .ready).step id world) := by
  unfold Task.step Task.start
  dsimp only [callAt, Bool.false_and]
  rcases hplan : installed.strategy.plan world.registry errand.call (world.turns errand.list) with
    ⟨notices, fault | plan⟩
  · refine ⟨_, _, rfl, ⟨rfl, rfl, fun _ _ => rfl⟩, ?_⟩
    have hfault : Stepped installed.strategy world.registry world.otherwise errand.call id
        (viewOf installed.lock errand world) .ready
        ((viewOf installed.lock errand world).left id) (.finished (.error fault)) :=
      .unplanned (congrArg Prod.snd hplan)
    rwa [← viewOf_leave] at hfault
  · exact ⟨_, _, rfl, ⟨rfl, rfl, fun _ _ => rfl⟩, .planned (congrArg Prod.snd hplan)⟩

lemma framed_opened (turns : List Turn) (notices : List Notice) :
    Framed errand.list world (opened errand world turns notices) := by
  obtain ⟨hregistry, hotherwise, hturns⟩ := framed_setTurns world errand.list turns
  exact ⟨hregistry, hotherwise, hturns⟩

lemma viewOf_opened (turns : List Turn) (notices : List Notice) :
    viewOf installed.lock errand (opened errand world turns notices) =
      { viewOf installed.lock errand world with
        turns, store := lookedAt errand.call.agent (world.store errand.store) } := by
  unfold opened
  rw [viewOf_report, viewOf_setTurns]
  unfold World.load
  rw [viewOf_report, viewOf_setStore]
  rfl

/-- What follows a look at the record, if the call ends behind it. -/
lemma leads_ended {phase next : Phase} {outcome : Except Fault (Option Compaction)}
    (turns : List Turn) (notices : List Notice)
    (h : Stepped installed.strategy world.registry world.otherwise errand.call id
      (viewOf installed.lock errand world) phase
      ({ viewOf installed.lock errand world with
        turns, store := lookedAt errand.call.agent (world.store errand.store) }.left id)
      (.finished outcome)) :
    Leads installed errand id world phase ((callAt installed errand before next).finish id
      (opened errand world turns notices) outcome) := by
  have hframed := framed_opened errand world turns notices
  refine ⟨before, .finished outcome, rfl, ⟨hframed.registry, hframed.otherwise, hframed.turns⟩, ?_⟩
  change Stepped _ _ _ _ _ _ _
    (viewOf _ errand ((opened errand world turns notices).leave installed.lock id)) _
  rw [viewOf_leave, viewOf_opened]
  exact h

lemma step_loading (plan : Plan) :
    Leads installed errand id world (.loading plan)
      ((callAt installed errand before (.loading plan)).step id world) := by
  generalize hstretch : plan.check errand.call
    (recordIn errand.call.agent (world.store errand.store)) (world.turns errand.list) = stretch
  rw [loading_eq (callAt installed errand before (.loading plan)) id world rfl hstretch]
  rcases hnext : stretch.next with _ | fault | pending
  · exact leads_ended installed errand before id world stretch.turns stretch.notices
      (.checked hstretch (by rw [hnext]; rfl))
  · exact leads_ended installed errand before id world stretch.turns stretch.notices
      (.checked hstretch (by rw [hnext]; rfl))
  · change Leads installed errand id world (.loading plan)
      ((opened errand world stretch.turns stretch.notices).enter installed.lock id,
        callAt installed errand before (.queued pending))
    have hframed := framed_opened errand world stretch.turns stretch.notices
    refine ⟨_, _, rfl, ⟨hframed.registry, hframed.otherwise, hframed.turns⟩, ?_⟩
    rw [viewOf_enter, viewOf_opened]
    exact .enters hstretch hnext

lemma step_queued (pending : Pending) :
    Leads installed errand id world (.queued pending)
      ((callAt installed errand before (.queued pending)).step id world) := by
  have hstep : (callAt installed errand before (.queued pending)).step id world =
      if (world.line installed.lock).head? == some id then
        (world, callAt installed errand before (.reloading pending))
      else (world, callAt installed errand before (.queued pending)) := rfl
  rw [hstep]
  by_cases hturn : (world.line installed.lock).head? = some id
  · rw [if_pos (by simpa using hturn)]
    exact ⟨_, _, rfl, ⟨rfl, rfl, fun _ _ => rfl⟩, .admitted pending hturn⟩
  · rw [if_neg (by simpa using hturn)]
    exact ⟨_, _, rfl, ⟨rfl, rfl, fun _ _ => rfl⟩, .waits pending hturn⟩

lemma step_reloading (pending : Pending) :
    Leads installed errand id world (.reloading pending)
      ((callAt installed errand before (.reloading pending)).step id world) := by
  generalize hstretch : pending.recheck world.registry errand.call
    (recordIn errand.call.agent (world.store errand.store)) (world.turns errand.list) = stretch
  rw [reloading_eq (callAt installed errand before (.reloading pending)) id world rfl hstretch]
  rcases hnext : stretch.next with _ | fault | job
  · exact leads_ended installed errand before id world stretch.turns stretch.notices
      (.rechecked hstretch (by rw [hnext]; rfl))
  · exact leads_ended installed errand before id world stretch.turns stretch.notices
      (.rechecked hstretch (by rw [hnext]; rfl))
  · change Leads _ _ _ _ _ (Task.ask _ id (opened errand world stretch.turns stretch.notices) job)
    unfold Task.ask
    cases hrefused : refused? job.timeout with
    | some fault =>
      exact leads_ended installed errand before id world stretch.turns stretch.notices
        (.refused hstretch hnext hrefused)
    | none =>
      change Leads installed errand id world (.reloading pending)
        ((opened errand world stretch.turns stretch.notices).send job.request,
          callAt installed errand before (.asking job world.nextReply))
      have hframed := framed_opened errand world stretch.turns stretch.notices
      refine ⟨_, _, rfl, ⟨hframed.registry, hframed.otherwise, hframed.turns⟩, ?_⟩
      rw [viewOf_send, viewOf_opened]
      exact .asks hstretch hnext hrefused

lemma step_asking (job : Job) (reply : Reply) :
    Leads installed errand id world (.asking job reply)
      ((callAt installed errand before (.asking job reply)).step id world) := by
  unfold Task.step
  dsimp only [callAt]
  rcases hreceive : job.request.receive job.timeout reply with ⟨notices, fault | summary⟩
  · refine ⟨_, _, rfl, ⟨rfl, rfl, fun _ _ => rfl⟩, ?_⟩
    have hfault : Stepped installed.strategy world.registry world.otherwise errand.call id
        (viewOf installed.lock errand world) (.asking job reply)
        ((viewOf installed.lock errand world).left id) (.finished (.error fault)) :=
      .unanswered (congrArg Prod.snd hreceive)
    rwa [← viewOf_leave] at hfault
  · exact ⟨_, _, rfl, ⟨rfl, rfl, fun _ _ => rfl⟩, .answered (congrArg Prod.snd hreceive)⟩

lemma conclude_callAt (phase : Phase) (job : Job) (summary : Value) :
    ∃ notices, (callAt installed errand before phase).conclude id world job summary =
      (((world.setTurns errand.list (job.compacted summary)).report notices).leave installed.lock id,
        callAt installed errand before (.finished (concluded job errand.call summary))) := by
  unfold Task.conclude concluded
  dsimp only [callAt]
  cases job.result errand.call summary with
  | error fault =>
    refine ⟨[], ?_⟩
    have hsame : ∀ world : World, world.report [] = world := by
      intro world
      unfold World.report
      rw [List.append_nil]
    rw [hsame]
    rfl
  | ok result => exact ⟨[result.notice errand.call.agent], rfl⟩

/-- What follows a write, if a call ends behind it. -/
lemma leads_conclude {phase next : Phase} {job : Job} {summary : Value} (store : Store)
    (notices : List Notice)
    (h : Stepped installed.strategy world.registry world.otherwise errand.call id
      (viewOf installed.lock errand world) phase
      ({ viewOf installed.lock errand world with turns := job.compacted summary, store }.left id)
      (.finished (concluded job errand.call summary))) :
    Leads installed errand id world phase ((callAt installed errand before next).conclude id
      ((world.setStore errand.store store).report notices) job summary) := by
  obtain ⟨told, hconclude⟩ := conclude_callAt installed errand before id
    ((world.setStore errand.store store).report notices) next job summary
  rw [hconclude]
  have hframed := framed_setTurns world errand.list (job.compacted summary)
  refine ⟨_, _, rfl, ⟨rfl, rfl, hframed.turns⟩, ?_⟩
  rw [viewOf_leave, viewOf_report, viewOf_setTurns, viewOf_report, viewOf_setStore]
  exact h

lemma step_saving (job : Job) (summary : Value) :
    Leads installed errand id world (.saving job summary)
      ((callAt installed errand before (.saving job summary)).step id world) := by
  rcases hsave : job.saveSummary errand.call.agent summary (world.store errand.store) with
    ⟨notices, store⟩
  have hstore : (job.saveSummary errand.call.agent summary (world.store errand.store)).2 = store :=
    congrArg Prod.snd hsave
  unfold Task.step
  dsimp only [callAt]
  rw [hsave]
  dsimp only
  cases hcount : job.turnCount with
  | none =>
    apply leads_conclude
    rw [← hstore]
    exact .saved summary hcount
  | some count =>
    refine ⟨_, _, rfl, ⟨rfl, rfl, fun _ _ => rfl⟩, ?_⟩
    dsimp only
    rw [viewOf_report, viewOf_setStore, ← hstore]
    exact .counts summary hcount

lemma step_counting (job : Job) (summary : Value) :
    Leads installed errand id world (.counting job summary)
      ((callAt installed errand before (.counting job summary)).step id world) := by
  rcases hsave : job.saveTurns errand.call.agent (world.store errand.store) with ⟨notices, store⟩
  have hstore : (job.saveTurns errand.call.agent (world.store errand.store)).2 = store :=
    congrArg Prod.snd hsave
  unfold Task.step
  dsimp only [callAt]
  rw [hsave]
  apply leads_conclude
  rw [← hstore]
  exact .counted job summary

/-- Every step of a call is one of those. -/
theorem step_leads (phase : Phase) :
    Leads installed errand id world phase
      ((callAt installed errand before phase).step id world) := by
  cases phase with
  | ready => exact step_ready installed errand before id world
  | loading plan => exact step_loading installed errand before id world plan
  | queued pending => exact step_queued installed errand before id world pending
  | reloading pending => exact step_reloading installed errand before id world pending
  | asking job reply => exact step_asking installed errand before id world job reply
  | saving job summary => exact step_saving installed errand before id world job summary
  | counting job summary => exact step_counting installed errand before id world job summary
  | finished outcome => exact ⟨_, _, rfl, ⟨rfl, rfl, fun _ _ => rfl⟩, .finished outcome⟩

end Step

/-- The phase of a call. -/
def phase? (pool : Pool) (id : Nat) : Option Phase := (pool.tasks[id]?).map Task.phase

section Updates

variable {pool : Pool} {id other : Nat} {task : Task}

lemma move_step (h : pool.tasks[id]? = some task) :
    pool.move (.step id) = pool.update id task (task.step id pool.world) := by
  simp only [Pool.move, h]

lemma move_cancel (h : pool.tasks[id]? = some task) :
    pool.move (.cancel id) = pool.update id task (task.cancel id pool.world) := by
  simp only [Pool.move, h]

lemma update_self (h : pool.tasks[id]? = some task) (moved : World × Task) :
    (pool.update id task moved).tasks[id]? = some moved.2 :=
  List.getElem?_set_self (List.getElem?_eq_some_iff.mp h).1

lemma update_of_ne (h : id ≠ other) (moved : World × Task) :
    (pool.update id task moved).tasks[other]? = pool.tasks[other]? :=
  List.getElem?_set_ne h

end Updates

/-- The calls of a pool are those that some errands make of one strategy. -/
structure Crew (installed : Installed) (errands : List Errand) (pool : Pool) : Prop where
  size : pool.tasks.length = errands.length
  call : ∀ (id : Nat) (errand : Errand), errands[id]? = some errand →
    ∃ before phase, pool.tasks[id]? = some (callAt installed errand before phase)

/-- What one move does to a pool. -/
structure Moved (installed : Installed) (errand : Errand) (id : Nat) (pool after : Pool)
    (phase next : Phase) : Prop where
  now : phase? pool id = some phase
  later : phase? after id = some next
  others : ∀ other ≠ id, phase? after other = phase? pool other
  framed : Framed errand.list pool.world after.world
  stepped : Stepped installed.strategy pool.world.registry pool.world.otherwise errand.call id
    (viewOf installed.lock errand pool.world) phase (viewOf installed.lock errand after.world) next

lemma Moved.phase_cases {installed : Installed} {errand : Errand} {id : Nat} {pool after : Pool}
    {phase next : Phase} (h : Moved installed errand id pool after phase next) {other : Nat}
    {found : Phase} (hfound : phase? after other = some found) :
    other = id ∧ found = next ∨ other ≠ id ∧ phase? pool other = some found := by
  by_cases hother : other = id
  · subst hother
    rw [h.later] at hfound
    exact Or.inl ⟨rfl, (Option.some.inj hfound).symm⟩
  · rw [h.others other hother] at hfound
    exact Or.inr ⟨hother, hfound⟩

section Moves

variable {installed : Installed} {errands : List Errand} {pool : Pool}

lemma Crew.errand_of_phase (h : Crew installed errands pool) {id : Nat} {phase : Phase}
    (hphase : phase? pool id = some phase) : ∃ errand, errands[id]? = some errand := by
  unfold phase? at hphase
  obtain ⟨task, htask, -⟩ := Option.map_eq_some_iff.mp hphase
  have hlt : id < errands.length := by
    rw [← h.size]
    exact (List.getElem?_eq_some_iff.mp htask).1
  exact ⟨errands[id], List.getElem?_eq_getElem hlt⟩

lemma Crew.move_of_none (h : Crew installed errands pool) {id : Nat} (hid : errands[id]? = none) :
    pool.move (.step id) = pool := by
  have htask : pool.tasks[id]? = none := by
    rw [List.getElem?_eq_none_iff] at hid ⊢
    rw [h.size]
    exact hid
  simp only [Pool.move, htask]

/-- A move of a call is a step of it, and the other calls stay where they are. -/
theorem Crew.move (h : Crew installed errands pool) {id : Nat} {errand : Errand}
    (herrand : errands[id]? = some errand) :
    Crew installed errands (pool.move (.step id)) ∧
      ∃ phase next, Moved installed errand id pool (pool.move (.step id)) phase next := by
  obtain ⟨before, phase, htask⟩ := h.call id errand herrand
  obtain ⟨later, next, hnext, hframed, hstepped⟩ :=
    step_leads installed errand before id pool.world phase
  rw [move_step htask]
  have hlater := update_self htask ((callAt installed errand before phase).step id pool.world)
  rw [hnext] at hlater
  refine ⟨⟨?_, fun other others hother => ?_⟩, phase, next, ?_, ?_, fun other hother => ?_,
    hframed, hstepped⟩
  · exact List.length_set.trans h.size
  · by_cases hsame : id = other
    · subst hsame
      rw [herrand] at hother
      cases hother
      exact ⟨later, next, hlater⟩
    · rw [update_of_ne hsame]
      exact h.call other others hother
  · rw [phase?, htask]
    rfl
  · rw [phase?, hlater]
    rfl
  · rw [phase?, phase?, update_of_ne hother.symm]

end Moves

/-- A call in this phase is past the lock. -/
def isInside : Phase → Bool
  | .reloading _ | .asking .. | .saving .. | .counting .. => true
  | _ => false

/-- Whoever is past the lock is the first in line for it. -/
def Orderly (lock : Nat) (pool : Pool) : Prop :=
  ∀ id phase, phase? pool id = some phase → isInside phase = true →
    (pool.world.line lock).head? = some id

/-- At most one call is past the lock. -/
lemma Orderly.unique {lock : Nat} {pool : Pool} (h : Orderly lock pool) {id other : Nat}
    {phase phase' : Phase} (hphase : phase? pool id = some phase) (hinside : isInside phase = true)
    (hphase' : phase? pool other = some phase') (hinside' : isInside phase' = true) :
    id = other := by
  have hid := h id phase hphase hinside
  rw [h other phase' hphase' hinside'] at hid
  exact (Option.some.inj hid).symm

lemma head_left {line : List Nat} {id other : Nat} (h : line.head? = some other)
    (hother : other ≠ id) : (line.filter (· != id)).head? = some other := by
  cases line with
  | nil => contradiction
  | cons first rest =>
    obtain rfl : first = other := Option.some.inj h
    rw [List.filter_cons_of_pos (by simpa using hother)]
    rfl

lemma head_enters {line : List Nat} {id other : Nat} (h : line.head? = some other) :
    (line ++ [id]).head? = some other := by
  cases line with
  | nil => contradiction
  | cons first rest => exact h

lemma Stepped.head_of_ne {strategy : Strategy} {registry : Registry} {otherwise : Reply}
    {call : Call} {id other : Nat} {view after : View} {phase next : Phase}
    (h : Stepped strategy registry otherwise call id view phase after next)
    (hhead : view.line.head? = some other) (hother : other ≠ id) :
    after.line.head? = some other := by
  cases h with
  | enters hstretch hgo => exact head_enters hhead
  | finished | planned | waits | admitted | asks | answered | counts => exact hhead
  | _ => exact head_left hhead hother

lemma Stepped.head_self {strategy : Strategy} {registry : Registry} {otherwise : Reply}
    {call : Call} {id : Nat} {view after : View} {phase next : Phase}
    (h : Stepped strategy registry otherwise call id view phase after next)
    (hhead : isInside phase = true → view.line.head? = some id) (hnext : isInside next = true) :
    after.line.head? = some id := by
  cases h with
  | admitted pending hturn => exact hturn
  | asks | answered | counts => exact hhead rfl
  | _ => contradiction

/-- The order is kept by every move. -/
theorem Orderly.move {installed : Installed} {errand : Errand} {id : Nat} {pool after : Pool}
    {phase next : Phase} (h : Orderly installed.lock pool)
    (hmoved : Moved installed errand id pool after phase next) : Orderly installed.lock after := by
  intro other found hfound hinside
  rcases hmoved.phase_cases hfound with ⟨rfl, rfl⟩ | ⟨hother, hphase⟩
  · exact hmoved.stepped.head_self (h other phase hmoved.now) hinside
  · exact hmoved.stepped.head_of_ne (h other found hphase hinside) hother

end Condense.Proofs
