import Condense.Proofs.DependableStores
import Condense.Proofs.PoolSteps
import Condense.Proofs.PreviousSummaries

/-!
# Rivals

Calls of one strategy that run beside one another: each has a list of its own, and they share one
agent's record in a dependable store. They take their steps in any order.
-/

namespace Condense.Proofs
open Summary

/-- An answer, if it is one, says its content in text. -/
def Textual (reply : Reply) : Prop :=
  ∀ answer, reply = .answer answer → ∀ octets, answer.content ≠ .bytes octets

/-- Errands of one agent on one store, each on a list of its own. -/
structure Rivals (session : Session) (errands : List Errand) (agent store : Text)
    (installed : Installed) : Prop where
  agents : ∀ errand ∈ errands, errand.call.agent = agent
  stores : ∀ errand ∈ errands, errand.store = store
  lists : (errands.map Errand.list).Nodup
  installed : session.guard.strategyFor? agent = some installed
  dependable : Dependable agent (session.world.store store)
  replies : ∀ reply ∈ session.world.script, Textual reply
  otherwise : Textual session.world.otherwise

/-- The calls of the strategies themselves, before any of them has started. -/
def sideBySide (session : Session) (errands : List Errand) : Pool :=
  session.pool (errands.map fun errand => (errand, false))

/-- The pool after some calls took a step each, one after the other. -/
def steps (pool : Pool) (ids : List Nat) : Pool := pool.run (ids.map .step)

section Rivals

variable {session : Session} {errands : List Errand} {agent store : Text} {installed : Installed}

lemma Rivals.list_ne (h : Rivals session errands agent store installed) {id other : Nat}
    {errand rival : Errand} (herrand : errands[id]? = some errand)
    (hrival : errands[other]? = some rival) (hne : other ≠ id) : rival.list ≠ errand.list := by
  intro hlist
  apply hne
  have hlt : other < (errands.map Errand.list).length := by
    rw [List.length_map]
    exact (List.getElem?_eq_some_iff.mp hrival).1
  apply (List.getElem?_inj hlt h.lists).mp
  rw [List.getElem?_map, List.getElem?_map, herrand, hrival, Option.map_some, Option.map_some, hlist]

lemma Rivals.agent_eq (h : Rivals session errands agent store installed) {id : Nat}
    {errand : Errand} (herrand : errands[id]? = some errand) : errand.call.agent = agent :=
  h.agents errand (List.mem_of_getElem? herrand)

lemma Rivals.store_eq (h : Rivals session errands agent store installed) {id : Nat}
    {errand : Errand} (herrand : errands[id]? = some errand) : errand.store = store :=
  h.stores errand (List.mem_of_getElem? herrand)

lemma Rivals.view_store (h : Rivals session errands agent store installed) {id : Nat}
    {errand : Errand} (herrand : errands[id]? = some errand) (lock : Nat) (world : World) :
    (viewOf lock errand world).store = world.store store := by
  rw [← h.store_eq herrand]
  rfl

lemma Rivals.task_eq (h : Rivals session errands agent store installed) {errand : Errand}
    (herrand : errand ∈ errands) : session.task errand false = callAt installed errand [] .ready := by
  unfold Session.task callAt
  rw [h.agents errand herrand, h.installed]

lemma Rivals.start (h : Rivals session errands agent store installed) {id : Nat} {errand : Errand}
    (herrand : errands[id]? = some errand) :
    (sideBySide session errands).tasks[id]? = some (callAt installed errand [] .ready) := by
  unfold sideBySide Session.pool
  rw [List.map_map, List.getElem?_map, herrand, ← h.task_eq (List.mem_of_getElem? herrand)]
  rfl

lemma Rivals.crew (h : Rivals session errands agent store installed) :
    Crew installed errands (sideBySide session errands) := by
  refine ⟨by simp [sideBySide, Session.pool], fun id errand herrand => ?_⟩
  exact ⟨[], .ready, h.start herrand⟩

lemma Rivals.phase_start (h : Rivals session errands agent store installed) {id : Nat}
    {phase : Phase} (hphase : phase? (sideBySide session errands) id = some phase) :
    phase = .ready := by
  obtain ⟨errand, herrand⟩ := h.crew.errand_of_phase hphase
  rw [phase?, h.start herrand] at hphase
  exact (Option.some.inj hphase).symm

lemma Rivals.orderly (h : Rivals session errands agent store installed) :
    Orderly installed.lock (sideBySide session errands) := by
  intro id phase hphase hinside
  rw [h.phase_start hphase] at hinside
  contradiction

end Rivals

/-- A call in this phase is about to write. -/
def isWriting : Phase → Bool
  | .saving .. | .counting .. => true
  | _ => false

section Stepped

variable {strategy : Strategy} {registry : Registry} {otherwise : Reply} {call : Call} {id : Nat}
  {view after : View} {phase next : Phase}

lemma Stepped.dependable (h : Stepped strategy registry otherwise call id view phase after next)
    (hstore : Dependable call.agent view.store) : Dependable call.agent after.store := by
  cases h with
  | finished | unplanned | planned | waits | admitted | unanswered | answered => exact hstore
  | checked | enters | rechecked | refused | asks => exact hstore.looked
  | saved | counts => exact hstore.savedSummary _ _
  | counted => exact hstore.savedTurns _

/-- Only a write changes the record. -/
lemma Stepped.record_eq (h : Stepped strategy registry otherwise call id view phase after next)
    (hstore : Dependable call.agent view.store) (hphase : isWriting phase = false) :
    recordIn call.agent after.store = recordIn call.agent view.store := by
  cases h with
  | finished | unplanned | planned | waits | admitted | unanswered | answered => rfl
  | checked | enters | rechecked | refused | asks => exact hstore.recordIn_lookedAt
  | saved | counts | counted => contradiction

lemma Stepped.script_subset (h : Stepped strategy registry otherwise call id view phase after next) :
    ∀ reply ∈ after.script, reply ∈ view.script := by
  intro reply hreply
  cases h with
  | asks => exact List.mem_of_mem_tail hreply
  | _ => exact hreply

lemma Stepped.of_finished {outcome : Except Fault (Option Compaction)}
    (h : Stepped strategy registry otherwise call id view (.finished outcome) after next) :
    next = .finished outcome ∧ after = view := by
  cases h
  exact ⟨rfl, rfl⟩

/-- A second look that finds nothing due ends the call. -/
lemma Stepped.stopped {pending : Pending} {stretch : Stretch Job}
    (h : Stepped strategy registry otherwise call id view (.reloading pending) after next)
    (hstretch : pending.recheck registry call (recordIn call.agent view.store) view.turns = stretch)
    (hstop : stretch.next = .stop) :
    next = .finished (.ok none) ∧ after.turns = stretch.turns := by
  cases h with
  | rechecked hfound hended =>
    obtain rfl := hfound.symm.trans hstretch
    rw [hstop] at hended
    cases hended
    exact ⟨rfl, rfl⟩
  | refused hfound hgo | asks hfound hgo =>
    obtain rfl := hfound.symm.trans hstretch
    rw [hstop] at hgo
    contradiction

end Stepped

section Moved

variable {session : Session} {errands : List Errand} {agent store : Text} {installed : Installed}
  {errand : Errand} {id : Nat} {pool after : Pool} {phase next : Phase}

lemma Rivals.dependable_move (h : Rivals session errands agent store installed)
    (herrand : errands[id]? = some errand)
    (hmoved : Moved installed errand id pool after phase next)
    (hstore : Dependable agent (pool.world.store store)) :
    Dependable agent (after.world.store store) := by
  have hafter := hmoved.stepped.dependable (by rwa [h.agent_eq herrand, h.view_store herrand])
  rwa [h.agent_eq herrand, h.view_store herrand] at hafter

lemma Rivals.record_move (h : Rivals session errands agent store installed)
    (herrand : errands[id]? = some errand)
    (hmoved : Moved installed errand id pool after phase next)
    (hstore : Dependable agent (pool.world.store store)) (hphase : isWriting phase = false) :
    recordIn agent (after.world.store store) = recordIn agent (pool.world.store store) := by
  have hrecord := hmoved.stepped.record_eq (by rwa [h.agent_eq herrand, h.view_store herrand]) hphase
  rwa [h.agent_eq herrand, h.view_store herrand, h.view_store herrand] at hrecord

lemma Rivals.turns_move (h : Rivals session errands agent store installed)
    (herrand : errands[id]? = some errand)
    (hmoved : Moved installed errand id pool after phase next) {other : Nat} {rival : Errand}
    (hrival : errands[other]? = some rival) (hother : other ≠ id) :
    after.world.turns rival.list = pool.world.turns rival.list :=
  hmoved.framed.turns rival.list (h.list_ne herrand hrival hother)

end Moved

/-- A call has ended and left its list so. -/
structure Ended (pool : Pool) (id : Nat) (errand : Errand)
    (outcome : Except Fault (Option Compaction)) (turns : List Turn) : Prop where
  phase : phase? pool id = some (.finished outcome)
  turns : pool.world.turns errand.list = turns

section Ended

variable {session : Session} {errands : List Errand} {agent store : Text} {installed : Installed}
  {errand : Errand} {id : Nat} {pool : Pool} {outcome : Except Fault (Option Compaction)}
  {turns : List Turn}

lemma Rivals.ended_moved (h : Rivals session errands agent store installed)
    (herrand : errands[id]? = some errand) {mover : Errand} {other : Nat} {after : Pool}
    {phase next : Phase} (hmover : errands[other]? = some mover)
    (hmoved : Moved installed mover other pool after phase next)
    (hended : Ended pool id errand outcome turns) : Ended after id errand outcome turns := by
  by_cases hid : id = other
  · subst hid
    rw [hmover] at herrand
    cases herrand
    obtain rfl := Option.some.inj (hmoved.now.symm.trans hended.phase)
    obtain ⟨rfl, hview⟩ := hmoved.stepped.of_finished
    exact ⟨hmoved.later, (congrArg View.turns hview).trans hended.turns⟩
  · refine ⟨(hmoved.others id hid).trans hended.phase, ?_⟩
    rw [h.turns_move hmover hmoved herrand hid]
    exact hended.turns

end Ended

end Condense.Proofs
