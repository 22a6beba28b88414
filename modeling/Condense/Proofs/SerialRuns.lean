import Condense.Proofs.FailOpen
import Condense.Proofs.Rivals

/-!
# Calls one after the other

What a call of a strategy comes to when no other one is on its way: both of its looks find the same
record, so that it is decided from one record what is done. A host that makes its calls in some order
collects how each of them ended.
-/

namespace Condense.Proofs
open Summary

/-- Two stores that nothing tells apart that is done to an agent's record. -/
structure Alike (agent : Text) (store other : Store) : Prop where
  left : Dependable agent store
  right : Dependable agent other
  record : recordIn agent store = recordIn agent other
  stored : ∀ name, found? (.text name) store = found? (.text name) other

section Alike

variable {agent : Text} {store other : Store}

lemma Alike.refl (h : Dependable agent store) : Alike agent store store :=
  ⟨h, h, rfl, fun _ => rfl⟩

lemma Alike.lookedLeft (h : Alike agent store other) : Alike agent (lookedAt agent store) other where
  left := h.left.looked
  right := h.right
  record := h.left.recordIn_lookedAt.trans h.record
  stored name := ((lookedAt_consulted agent store).held _).trans (h.stored name)

lemma Alike.lookedRight (h : Alike agent store other) :
    Alike agent store (lookedAt agent other) where
  left := h.left
  right := h.right.looked
  record := h.record.trans h.right.recordIn_lookedAt.symm
  stored name := (h.stored name).trans ((lookedAt_consulted agent other).held _).symm

lemma Alike.saved (h : Alike agent store other) (job : Job) (summary : Value) :
    Alike agent (job.saveSummary agent summary store).2 (job.saveSummary agent summary other).2 where
  left := h.left.savedSummary job summary
  right := h.right.savedSummary job summary
  record := by
    rw [h.left.recordIn_savedSummary, h.right.recordIn_savedSummary, h.record]
  stored name := by
    rw [h.left.found?_savedSummary, h.right.found?_savedSummary, h.stored]

end Alike

/-- What is decided if both looks find the same record. -/
def decided (plan : Plan) (registry : Registry) (call : Call) (record : Record)
    (turns : List Turn) : Stretch Job :=
  let stretch := plan.check call record turns
  match stretch.next with
  | .stop => ⟨stretch.turns, [], .stop⟩
  | .fail fault => ⟨stretch.turns, [], .fail fault⟩
  | .go pending => pending.recheck registry call record stretch.turns

section Decided

variable {plan : Plan} {registry : Registry} {call : Call} {record : Record} {turns : List Turn}

lemma decided_of_ended (registry : Registry) {stretch : Stretch Pending}
    {outcome : Except Fault (Option Compaction)}
    (hstretch : plan.check call record turns = stretch) (h : ended? stretch.next = some outcome) :
    (decided plan registry call record turns).turns = stretch.turns ∧
      ended? (decided plan registry call record turns).next = some outcome := by
  unfold decided
  rw [hstretch]
  rcases stretch with ⟨after, notices, _ | fault | pending⟩
  · exact ⟨rfl, h⟩
  · exact ⟨rfl, h⟩
  · contradiction

lemma decided_of_go {pending : Pending} (h : (plan.check call record turns).next = .go pending) :
    decided plan registry call record turns =
      pending.recheck registry call record (plan.check call record turns).turns := by
  unfold decided
  dsimp only
  rw [h]

/-- A call whose looks find the same record does what is decided from that record. -/
lemma compact_of_same {strategy : Strategy} {store : Store}
    (hplan : (strategy.plan registry call turns).2 = .ok plan)
    (hsame : recordIn call.agent (lookedAt call.agent store) = recordIn call.agent store)
    (provider : Request → Reply) :
    ∃ after, (after = lookedAt call.agent store ∨
        after = lookedAt call.agent (lookedAt call.agent store)) ∧
      silent (strategy.compact registry call provider turns store) =
        silent ((decided plan registry call (recordIn call.agent store) turns).perform call provider
          after) := by
  rw [silent_compact_planned hplan]
  generalize hstretch : plan.check call (recordIn call.agent store) turns = stretch
  cases hnext : stretch.next with
  | go pending =>
    refine ⟨_, Or.inr rfl, ?_⟩
    rw [silent_confirm_go hnext, hsame, decided_of_go (by rw [hstretch, hnext]), hstretch]
  | stop =>
    have hended : ended? stretch.next = some (.ok none) := by rw [hnext]; rfl
    obtain ⟨hturns, hdecided⟩ := decided_of_ended registry hstretch hended
    refine ⟨_, Or.inl rfl, ?_⟩
    rw [silent_confirm_ended hended, silent_perform_ended hdecided, hturns]
  | fail fault =>
    have hended : ended? stretch.next = some (.error fault) := by rw [hnext]; rfl
    obtain ⟨hturns, hdecided⟩ := decided_of_ended registry hstretch hended
    refine ⟨_, Or.inl rfl, ?_⟩
    rw [silent_confirm_ended hended, silent_perform_ended hdecided, hturns]

/-- On a dependable store a call does what is decided from the record in it. -/
lemma compact_decided {strategy : Strategy} {store other : Store}
    (hplan : (strategy.plan registry call turns).2 = .ok plan) (h : Alike call.agent store other)
    (provider : Request → Reply) :
    ∃ after, Alike call.agent after other ∧
      silent (strategy.compact registry call provider turns store) =
        silent ((decided plan registry call (recordIn call.agent other) turns).perform call provider
          after) := by
  obtain ⟨after, hafter, hrun⟩ := compact_of_same hplan h.left.recordIn_lookedAt provider
  rw [h.record] at hrun
  refine ⟨after, ?_, hrun⟩
  rcases hafter with rfl | rfl
  · exact h.lookedLeft
  · exact h.lookedLeft.lookedLeft

end Decided

/-- A host that made some calls, and how each of them ended. -/
structure Serial where
  session : Session
  outcomes : List (Nat × Option (Except Fault (Option Compaction))) := []

/-- The host makes one more call. -/
def Serial.make (errands : List Errand) (serial : Serial) (id : Nat) : Serial :=
  match errands[id]? with
  | none => serial
  | some errand =>
    let (session, outcome) := serial.session.compact errand
    { session, outcomes := serial.outcomes ++ [(id, outcome)] }

/-- What a call of a strategy leaves behind, as far as other calls notice it. -/
structure Passed (errand : Errand) (session after : Session) (turns : List Turn) (store : Store)
    (asked : Bool) : Prop where
  guard : after.guard = session.guard
  registry : after.world.registry = session.world.registry
  otherwise : after.world.otherwise = session.world.otherwise
  turns : after.world.turns errand.list = turns
  others : ∀ name ≠ errand.list, after.world.turns name = session.world.turns name
  store : after.world.store errand.store = store
  script : after.world.script =
    if asked then session.world.script.tail else session.world.script

/-- How a call ends and what it leaves behind does not depend on its notices. -/
lemma compact_passed {session : Session} {errand : Errand} {installed : Installed}
    (hinstalled : session.guard.strategyFor? errand.call.agent = some installed) {turns : List Turn}
    {store : Store} {sent : Option Request} {outcome : Except Fault (Option Compaction)}
    (h : silent (installed.strategy.compact session.world.registry errand.call
      (fun _ => session.world.nextReply) (session.world.turns errand.list)
      (session.world.store errand.store)) = ⟨turns, store, [], sent, outcome⟩) :
    (session.compact errand).2 = some outcome ∧
      Passed errand session (session.compact errand).1 turns store sent.isSome := by
  unfold Session.compact
  rw [hinstalled]
  dsimp only
  generalize installed.strategy.compact session.world.registry errand.call
    (fun _ => session.world.nextReply) (session.world.turns errand.list)
    (session.world.store errand.store) = run at h ⊢
  obtain ⟨after, kept, notices, asked, result⟩ := run
  cases h
  refine ⟨rfl, ?_, ?_, ?_, ?_, fun name hname => ?_, ?_, ?_⟩
  · rfl
  · unfold Session.absorb
    cases asked <;> rfl
  · unfold Session.absorb
    cases asked <;> rfl
  · rw [turns_absorb, if_pos rfl]
  · rw [turns_absorb, if_neg hname]
  · rw [store_absorb, if_pos rfl]
  · unfold Session.absorb
    cases asked <;> rfl

end Condense.Proofs
