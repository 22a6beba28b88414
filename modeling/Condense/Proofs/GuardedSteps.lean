import Condense.Proofs.Cancellations
import Condense.Proofs.ThresholdRivals
import Condense.Proofs.WindowRivals

/-!
# Steps of the guard's calls

What one step of a call does to the things that it shares with other calls of its agent: the store
and the lines for the locks. It does not matter to that whether the guard has the last word about the
turns.
-/

namespace Condense.Proofs
open Summary

/-- What the calls of an agent share. -/
structure Shared where
  store : Store
  lines : Nat → List Nat

def sharedIn (name : Text) (world : World) : Shared := ⟨world.store name, world.line⟩

/-- A call gives up its place in the line for a lock. -/
def Shared.left (now : Shared) (lock id : Nat) : Shared :=
  { now with lines := Function.update now.lines lock ((now.lines lock).filter (· != id)) }

def Shared.entered (now : Shared) (lock id : Nat) : Shared :=
  { now with lines := Function.update now.lines lock (now.lines lock ++ [id]) }

def Shared.looked (now : Shared) (agent : Text) : Shared :=
  { now with store := lookedAt agent now.store }

/-- What one step of a call under a lock does, by the phase in which the call is. -/
inductive Goes (agent : Text) (lock id : Nat) (now : Shared) : Phase → Shared → Phase → Prop where
  -- Up to the line for the lock.
  | opens (phase : Phase) (hphase : isInside phase = false) :
      Goes agent lock id now .ready now phase
  | fails (outcome : Except Fault (Option Compaction)) :
      Goes agent lock id now .ready (now.left lock id) (.finished outcome)
  | passes (plan : Plan) (outcome : Except Fault (Option Compaction)) :
      Goes agent lock id now (.loading plan) ((now.looked agent).left lock id) (.finished outcome)
  | enters (plan : Plan) (pending : Pending) :
      Goes agent lock id now (.loading plan) ((now.looked agent).entered lock id) (.queued pending)
  | waits (pending : Pending) : Goes agent lock id now (.queued pending) now (.queued pending)
  | admitted (pending : Pending) (hturn : (now.lines lock).head? = some id) :
      Goes agent lock id now (.queued pending) now (.reloading pending)
  -- The second look ends the call, or the summary that it finds goes into a request.
  | stops (pending : Pending) (outcome : Except Fault (Option Compaction)) :
      Goes agent lock id now (.reloading pending) ((now.looked agent).left lock id)
        (.finished outcome)
  | asks (pending : Pending) {job : Job} (reply : Reply)
      (hprevious : job.request.previous = (recordIn agent now.store).summary) :
      Goes agent lock id now (.reloading pending) (now.looked agent) (.asking job reply)
  | unanswered (job : Job) (reply : Reply) (outcome : Except Fault (Option Compaction)) :
      Goes agent lock id now (.asking job reply) (now.left lock id) (.finished outcome)
  | answered {job : Job} {reply : Reply} {summary : Value}
      (hsummary : (job.request.receive job.timeout reply).2 = .ok summary) :
      Goes agent lock id now (.asking job reply) now (.saving job summary)
  -- A summary has come and is kept.
  | counts (job : Job) (summary : Value) :
      Goes agent lock id now (.saving job summary)
        { now with store := (job.saveSummary agent summary now.store).2 } (.counting job summary)
  | saved (job : Job) (summary : Value) (outcome : Except Fault (Option Compaction)) :
      Goes agent lock id now (.saving job summary)
        ({ now with store := (job.saveSummary agent summary now.store).2 }.left lock id)
        (.finished outcome)
  | counted (job : Job) (summary : Value) (outcome : Except Fault (Option Compaction)) :
      Goes agent lock id now (.counting job summary)
        ({ now with store := (job.saveTurns agent now.store).2 }.left lock id) (.finished outcome)
  | finished (outcome : Except Fault (Option Compaction)) :
      Goes agent lock id now (.finished outcome) now (.finished outcome)

section Worlds

variable (name : Text) (world : World)

lemma line_put_eq (lock : Nat) (line : List Nat) :
    World.line { world with lines := Assoc.put lock line world.lines } =
      Function.update world.line lock line := by
  funext other
  by_cases hsame : other = lock
  · subst hsame
    rw [line_put, Function.update_self]
  · unfold World.line
    rw [Assoc.get?_put_of_ne line world.lines hsame, Function.update_of_ne hsame]

lemma sharedIn_leave (lock id : Nat) :
    sharedIn name (world.leave lock id) = (sharedIn name world).left lock id :=
  congrArg (Shared.mk (world.store name)) (line_put_eq world lock ((world.line lock).filter (· != id)))

lemma sharedIn_enter (lock id : Nat) :
    sharedIn name (world.enter lock id) = (sharedIn name world).entered lock id :=
  congrArg (Shared.mk (world.store name)) (line_put_eq world lock (world.line lock ++ [id]))

lemma sharedIn_setStore (store : Store) :
    sharedIn name (world.setStore name store) = { sharedIn name world with store } := by
  have hstore := store_setStore world name store
  unfold sharedIn
  rw [hstore]
  rfl

lemma sharedIn_opened {errand : Errand} (hname : errand.store = name) (turns : List Turn)
    (notices : List Notice) :
    sharedIn name (opened errand world turns notices) =
      (sharedIn name world).looked errand.call.agent := by
  subst hname
  exact sharedIn_setStore errand.store world (lookedAt errand.call.agent (world.store errand.store))

end Worlds

/-- A request is about some turns, and it continues the summary in the record that the second look
finds. -/
lemma recheck_request {pending : Pending} {registry : Registry} {call : Call} {record : Record}
    {turns : List Turn} {job : Job}
    (h : (pending.recheck registry call record turns).next = .go job) :
    job.request.turns ≠ [] ∧ job.request.previous = record.summary := by
  have hover : ∀ {settings limits tokens turns}, (Pending.summarizeOver settings limits call
      record.summary tokens turns).next = .go job →
      job.request.turns ≠ [] ∧ job.request.previous = record.summary := by
    intro settings limits tokens turns hgo
    obtain ⟨hprevious, -, hturns, -⟩ := summarizeOver_go hgo
    exact ⟨hturns, hprevious⟩
  cases pending with
  | threshold settings limits seen tokens =>
    unfold Pending.recheck at h
    dsimp only at h
    split at h
    case isTrue => exact hover h
    case isFalse =>
      split at h
      · contradiction
      · split at h
        · contradiction
        · exact hover h
  | slidingWindow settings limit count =>
    unfold Pending.recheck at h
    dsimp only at h
    split at h
    case isTrue => contradiction
    case isFalse =>
      obtain ⟨tokens, index, request, -, -, hold, hrequest, rfl⟩ := summarizeBefore_go.mp h
      simp only [Pending.requestFor, Request.make, bind_eq_ok, mapError_eq_ok] at hrequest
      obtain ⟨window, -, buffer, -, size, -, hpure⟩ := hrequest
      cases hpure
      exact ⟨hold, rfl⟩

/-- A call under a lock goes on to a world and a phase. -/
def Proceeds (task : Task) (installed : Installed) (id : Nat) (world : World)
    (result : World × Task) : Prop :=
  Goes task.call.agent installed.lock id (sharedIn task.store world) task.phase
    (sharedIn task.store result.1) result.2.phase

section Step

variable {task : Task} {installed : Installed} (id : Nat) (world : World)

lemma sharedIn_finish (name : Text) (hinstalled : task.installed = some installed)
    (outcome : Except Fault (Option Compaction)) :
    sharedIn name (task.finish id world outcome).1 =
      (sharedIn name world).left installed.lock id := by
  rw [← sharedIn_leave]
  unfold Task.finish
  rw [hinstalled]
  dsimp only
  split <;> rfl

variable (hinstalled : task.installed = some installed)

include hinstalled

lemma proceeds_finish (before : List Turn) (later : World)
    (h : ∀ outcome, Goes task.call.agent installed.lock id (sharedIn task.store world) task.phase
      ((sharedIn task.store later).left installed.lock id) (.finished outcome))
    (outcome : Except Fault (Option Compaction)) :
    Proceeds task installed id world (({ task with before } : Task).finish id later outcome) := by
  obtain ⟨result, htask⟩ := finish_task { task with before } id later outcome
  unfold Proceeds
  have hshared : sharedIn task.store (({ task with before } : Task).finish id later outcome).1 =
      (sharedIn task.store later).left installed.lock id :=
    @sharedIn_finish { task with before } installed id later task.store hinstalled outcome
  rw [hshared, htask]
  exact h result

lemma start_proceeds (hphase : task.phase = .ready) :
    Proceeds task installed id world (task.start id world) := by
  unfold Task.start
  dsimp only
  split
  case h_1 hnone => cases hinstalled.symm.trans hnone
  case h_2 found hfound =>
    cases hinstalled.symm.trans hfound
    split
    case isTrue =>
      unfold Proceeds
      rw [hphase]
      exact .opens _ rfl
    case isFalse =>
      rcases hplan : installed.strategy.plan world.registry task.call (world.turns task.list) with
        ⟨notices, fault | plan⟩
      · refine proceeds_finish id world hinstalled _ _ (fun outcome => ?_) _
        rw [hphase]
        exact .fails outcome
      · unfold Proceeds
        rw [hphase]
        exact .opens (.loading plan) rfl

lemma loading_proceeds {plan : Plan} (hphase : task.phase = .loading plan) :
    Proceeds task installed id world (task.step id world) := by
  generalize hstretch : plan.check task.call
    (recordIn task.call.agent (world.store task.store)) (world.turns task.list) = stretch
  have hopened : sharedIn task.store (opened (errandOf task) world stretch.turns stretch.notices) =
      (sharedIn task.store world).looked task.call.agent :=
    sharedIn_opened task.store world rfl stretch.turns stretch.notices
  rw [loading_eq task id world hphase hstretch]
  generalize opened (errandOf task) world stretch.turns stretch.notices = later at hopened ⊢
  have hended : ∀ outcome, Goes task.call.agent installed.lock id (sharedIn task.store world)
      task.phase ((sharedIn task.store later).left installed.lock id) (.finished outcome) := by
    intro outcome
    rw [hopened, hphase]
    exact .passes plan outcome
  cases stretch.next with
  | stop => exact proceeds_finish id world hinstalled task.before _ hended _
  | fail fault => exact proceeds_finish id world hinstalled task.before _ hended _
  | go pending =>
    unfold Proceeds carryOn
    rw [hinstalled, Option.elim_some, sharedIn_enter, hopened, hphase]
    exact .enters plan pending

lemma queued_proceeds {pending : Pending} (hphase : task.phase = .queued pending) :
    Proceeds task installed id world (task.step id world) := by
  unfold Task.step Proceeds
  rw [hphase]
  dsimp only
  rw [hinstalled, Option.any_some]
  split
  case isTrue hturn =>
    have hhead : (world.line installed.lock).head? = some id := by simpa [World.holds] using hturn
    exact .admitted pending hhead
  case isFalse =>
    rw [hphase]
    exact .waits pending

lemma reloading_proceeds {pending : Pending} (hphase : task.phase = .reloading pending) :
    Proceeds task installed id world (task.step id world) := by
  generalize hstretch : pending.recheck world.registry task.call
    (recordIn task.call.agent (world.store task.store)) (world.turns task.list) = stretch
  have hopened : sharedIn task.store (opened (errandOf task) world stretch.turns stretch.notices) =
      (sharedIn task.store world).looked task.call.agent :=
    sharedIn_opened task.store world rfl stretch.turns stretch.notices
  rw [reloading_eq task id world hphase hstretch]
  generalize opened (errandOf task) world stretch.turns stretch.notices = later at hopened ⊢
  have hended : ∀ outcome, Goes task.call.agent installed.lock id (sharedIn task.store world)
      task.phase ((sharedIn task.store later).left installed.lock id) (.finished outcome) := by
    intro outcome
    rw [hopened, hphase]
    exact .stops pending outcome
  cases hnext : stretch.next with
  | stop => exact proceeds_finish id world hinstalled task.before _ hended _
  | fail fault => exact proceeds_finish id world hinstalled task.before _ hended _
  | go job =>
    change Proceeds task installed id world (task.ask id later job)
    unfold Task.ask
    cases refused? job.timeout with
    | some fault => exact proceeds_finish id world hinstalled task.before _ hended _
    | none =>
      have hprevious : job.request.previous =
          (recordIn task.call.agent (world.store task.store)).summary := by
        rw [← hstretch] at hnext
        exact (recheck_request hnext).2
      have hsent : sharedIn task.store (later.send job.request) = sharedIn task.store later := rfl
      unfold Proceeds
      dsimp only
      rw [hsent, hopened, hphase]
      exact .asks pending later.nextReply hprevious

lemma asking_proceeds {job : Job} {reply : Reply} (hphase : task.phase = .asking job reply) :
    Proceeds task installed id world (task.step id world) := by
  unfold Task.step
  rw [hphase]
  dsimp only
  cases hreceive : (job.request.receive job.timeout reply).2 with
  | error fault =>
    refine proceeds_finish id world hinstalled task.before _ (fun outcome => ?_) _
    rw [hphase]
    exact .unanswered job reply outcome
  | ok summary =>
    unfold Proceeds
    rw [hphase]
    exact .answered hreceive

lemma conclude_proceeds {later : World} (job : Job) (summary : Value)
    (h : ∀ outcome, Goes task.call.agent installed.lock id (sharedIn task.store world) task.phase
      ((sharedIn task.store later).left installed.lock id) (.finished outcome)) :
    Proceeds task installed id world (task.conclude id later job summary) := by
  unfold Task.conclude
  dsimp only
  cases job.result task.call summary with
  | error fault =>
    exact proceeds_finish id world hinstalled task.before
      (later.setTurns task.list (job.compacted summary)) h _
  | ok result =>
    exact proceeds_finish id world hinstalled task.before
      ((later.setTurns task.list (job.compacted summary)).report
        [result.notice task.call.agent]) h _

lemma saving_proceeds {job : Job} {summary : Value} (hphase : task.phase = .saving job summary) :
    Proceeds task installed id world (task.step id world) := by
  unfold Task.step
  rw [hphase]
  dsimp only
  generalize hsaved : job.saveSummary task.call.agent summary (world.store task.store) = saved
  cases job.turnCount with
  | some count =>
    unfold Proceeds
    change Goes _ _ _ _ _ (sharedIn task.store (world.setStore task.store saved.2)) _
    rw [sharedIn_setStore, hphase, ← hsaved]
    exact .counts job summary
  | none =>
    refine conclude_proceeds id world hinstalled job summary fun outcome => ?_
    change Goes _ _ _ _ _ ((sharedIn task.store (world.setStore task.store saved.2)).left _ _) _
    rw [sharedIn_setStore, hphase, ← hsaved]
    exact .saved job summary outcome

lemma counting_proceeds {job : Job} {summary : Value}
    (hphase : task.phase = .counting job summary) :
    Proceeds task installed id world (task.step id world) := by
  unfold Task.step
  rw [hphase]
  dsimp only
  generalize hsaved : job.saveTurns task.call.agent (world.store task.store) = saved
  refine conclude_proceeds id world hinstalled job summary fun outcome => ?_
  change Goes _ _ _ _ _ ((sharedIn task.store (world.setStore task.store saved.2)).left _ _) _
  rw [sharedIn_setStore, hphase, ← hsaved]
  exact .counted job summary outcome

theorem step_proceeds : Proceeds task installed id world (task.step id world) := by
  cases hphase : task.phase with
  | ready =>
    have hstart : task.step id world = task.start id world := by
      unfold Task.step
      rw [hphase]
    rw [hstart]
    exact start_proceeds id world hinstalled hphase
  | loading plan => exact loading_proceeds id world hinstalled hphase
  | queued pending => exact queued_proceeds id world hinstalled hphase
  | reloading pending => exact reloading_proceeds id world hinstalled hphase
  | asking job reply => exact asking_proceeds id world hinstalled hphase
  | saving job summary => exact saving_proceeds id world hinstalled hphase
  | counting job summary => exact counting_proceeds id world hinstalled hphase
  | finished outcome =>
    unfold Task.step Proceeds
    rw [hphase]
    dsimp only
    rw [hphase]
    exact .finished outcome

end Step

end Condense.Proofs
