import Condense.Proofs.FullHistories
import Condense.Proofs.GuardedSteps
import Condense.Proofs.ValidSettings

/-!
# Summaries that last

A provider may have nothing to say, but a summary of some turns always says something: where the
budget can be computed, what comes back is a text that is not empty. So no call of the guard, however
many there are and however their steps are mixed, takes an agent's summary away.
-/

namespace Condense.Proofs
open Json Summary

section Answers

/-- A summary of some turns, from its budget to the reply of the provider. -/
def summarize (tuning : Tuning) (model : Text) (turns : List Turn) (previous : Text)
    (buffer : Quantity) (limit : Option Quantity) (provider : Request → Reply) :
    Except Fault Value := do
  let request ← (Request.make tuning model turns previous buffer).mapError .budget
  (ask request limit provider).2.2

/-- An answer that reports no failure: it says a text or nothing at all, and gives sizes by name. -/
structure Spoken (answer : Answer) : Prop where
  fine : answer.isError = false
  content : answer.content = .null ∨ ∃ t, answer.content = .text t
  usage : ∃ sizes, answer.usage = .dict sizes

/-- What an answer says, without the blanks at its ends. -/
def wording (answer : Answer) : Text :=
  match answer.content with
  | .text t => Text.trim t
  | _ => []

/-- An answer that says nothing, or a text of blanks. -/
def Speechless (answer : Answer) : Prop :=
  ∀ t, answer.content = .text t → ∀ p ∈ t, p.is Text.isBlank = true

variable {answer : Answer}

lemma trim_eq_nil {t : Text} : Text.trim t = [] ↔ ∀ p ∈ t, p.is Text.isBlank = true := by
  unfold Text.trim Text.trimWith
  rw [List.reverse_eq_nil_iff, List.dropWhile_eq_nil_iff]
  refine ⟨fun h => ?_, fun h p hp => h p ?_⟩
  · rw [← List.dropWhile_eq_nil_iff]
    by_contra hsome
    have hhead := List.head_dropWhile_not (CodePoint.is Text.isBlank) hsome
    rw [h _ (List.mem_reverse.mpr (List.head_mem hsome))] at hhead
    contradiction
  · exact (List.dropWhile_sublist _).mem (List.mem_reverse.mp hp)

lemma wording_eq_nil : wording answer = [] ↔ Speechless answer := by
  unfold wording Speechless
  split
  case h_1 t ht =>
    rw [trim_eq_nil]
    refine ⟨fun h s hs => ?_, fun h => h t ht⟩
    rw [ht] at hs
    rwa [← Value.text.inj hs]
  case h_2 hother => exact iff_of_true rfl fun t ht => absurd ht (hother t)

lemma Spoken.content_eq (h : Spoken answer) :
    Request.content answer = .ok (.text (wording answer)) := by
  unfold Request.content wording
  rcases h.content with hnone | ⟨t, ht⟩
  · rw [hnone]
    rfl
  · rw [ht]

lemma Spoken.sizeNotice (h : Spoken answer) (request : Request) (summary : Value) :
    ∃ notices, request.sizeNotice answer summary = .ok notices := by
  obtain ⟨sizes, hsizes⟩ := h.usage
  unfold Request.sizeNotice
  rw [hsizes]
  cases sizes <;> exact ⟨_, rfl⟩

/-- An answer without a word is replaced by excerpts, and any other is the summary. -/
lemma Spoken.receive (h : Spoken answer) {request : Request} {chars : Int}
    (hchars : request.excerptChars.integer? = some chars) (limit : Option Quantity) :
    (request.receive limit (.answer answer)).2 = .ok (.text
      (if wording answer = [] then Summary.fallback chars request.turns request.previous
      else wording answer)) := by
  have hfallback : request.fallback =
      .ok (Summary.fallback chars request.turns request.previous) := by
    unfold Request.fallback
    rw [hchars]
  unfold Request.receive Request.accept
  dsimp only
  rw [h.fine, h.content_eq]
  dsimp only
  by_cases hblank : wording answer = []
  · rw [if_pos hblank, hblank, hfallback]
    rfl
  · have htruthy : (Value.text (wording answer)).isTruthy = true := by
      simpa [Value.isTruthy] using hblank
    obtain ⟨notices, hnotices⟩ := h.sizeNotice request (.text (wording answer))
    rw [if_neg hblank, htruthy, hnotices]
    rfl

lemma lines_excerpts_ne_nil (chars : Int) {turns : List Turn} (h : turns ≠ []) :
    lines (excerpts chars turns) ≠ [] := by
  obtain ⟨line, hmem, hline⟩ := exists_excerpt chars h
  intro hnone
  have hinfix : line <:+: lines (excerpts chars turns) := infix_join _ hmem
  rw [hnone] at hinfix
  exact hline (List.infix_nil.mp hinfix)

/-- Excerpts continue a summary, if there is one. -/
lemma fallback_eq (chars : Int) {turns : List Turn} (h : turns ≠ []) (previous : Text) :
    Summary.fallback chars turns previous =
      if previous = [] then lines (excerpts chars turns)
      else previous ++ fallbackSeparator ++ lines (excerpts chars turns) := by
  have hbody : (lines (excerpts chars turns)).isEmpty = false := by
    simpa using lines_excerpts_ne_nil chars h
  unfold Summary.fallback
  dsimp only
  rw [hbody]
  by_cases hnone : previous = []
  · simp [hnone]
  · simp [hnone]

lemma summarize_eq {tuning : Tuning} {buffer : Quantity} {size : Tuning.SummarySize}
    (hsize : tuning.summarySize buffer = .ok size) {limit : Option Quantity}
    (hlimit : refused? limit = none) (model : Text) (turns : List Turn) (previous : Text)
    (provider : Request → Reply) :
    summarize tuning model turns previous buffer limit provider =
      let request : Request := ⟨model, turns, previous, size, tuning.excerptChars⟩
      (request.receive limit (provider request)).2 := by
  unfold summarize Request.make ask
  rw [hsize, hlimit]
  rfl

/-- An answer that reports no failure leads to a summary that is not empty: to its own words if it
has any, and else to the summary so far and excerpts from the turns. -/
lemma Spoken.summarize (h : Spoken answer) {tuning : Tuning} {buffer : Quantity}
    {size : Tuning.SummarySize} (hsize : tuning.summarySize buffer = .ok size)
    {limit : Option Quantity} (hlimit : refused? limit = none) {chars : Int}
    (hchars : tuning.excerptChars.integer? = some chars) {turns : List Turn} (hturns : turns ≠ [])
    (model previous : Text) :
    ∃ summary, summary ≠ [] ∧
      Proofs.summarize tuning model turns previous buffer limit (fun _ => .answer answer) =
        .ok (.text summary) ∧
      (¬Speechless answer → summary = wording answer) ∧
      (Speechless answer → lines (excerpts chars turns) ≠ [] ∧
        summary = if previous = [] then lines (excerpts chars turns)
          else previous ++ fallbackSeparator ++ lines (excerpts chars turns)) := by
  have hbody := lines_excerpts_ne_nil chars hturns
  have hreceive := fun request hchars => @Spoken.receive answer h request chars hchars limit
  rw [summarize_eq hsize hlimit]
  dsimp only
  rw [hreceive _ hchars, fallback_eq chars hturns, ← wording_eq_nil]
  by_cases hblank : wording answer = []
  · refine ⟨_, ?_, congrArg (Except.ok ∘ Value.text) (if_pos hblank), fun hwords => absurd hblank hwords,
      fun _ => ⟨hbody, rfl⟩⟩
    split
    · exact hbody
    · simp [hbody]
  · exact ⟨wording answer, hblank, congrArg (Except.ok ∘ Value.text) (if_neg hblank), fun _ => rfl,
      fun hnone => absurd hnone hblank⟩

end Answers

/-- A store holds a summary of an agent, and not an empty one. -/
def Worded (agent : Text) (store : Store) : Prop :=
  ∃ t, t ≠ [] ∧ found? (summaryPlace agent) store = some (.text t)

section Stores

variable {agent : Text} {store after : Store}

/-- A key in front of an agent's name can be spelled, so that only the name itself may have another
spelling in a document. -/
lemma respell_entryName (agent : Text) {key : Text} (hkey : key ∈ recordKeys) :
    respell (entryName agent key) = entryName (respell agent) key := by
  have hplain : ∀ k ∈ recordKeys, ("__context_guard_" : Text) ++ k ++ ("_" : Text) =
      Text.ofChars ((("__context_guard_" : Text) ++ k ++ ("_" : Text)).filterMap CodePoint.char?) := by
    decide
  unfold entryName
  rw [hplain key hkey, respell_ofChars_append]

/-- Whoever takes the lock of a file that is its own lock empties it. -/
lemma found?_own {file : FileStore} (hown : file.isOwnLock = true) (place : Key) :
    found? place (.file file) = none := by
  unfold found?
  rcases locked_cases file with ⟨-, why, hwhy⟩ | ⟨happart, -⟩ | ⟨-, -, hempty⟩
  · simp only [hwhy]
  · cases hown.symm.trans happart
  · simp only [hempty]
    rfl

/-- What is held stays, unless it lies where a value of the same key is put. -/
lemma keep_held {place : Key} {found : Value} (hheld : found? place store = some found)
    (agent : Text) {key : Text} (hkey : key ∈ recordKeys) (label : Text) {v : Value}
    (hleaf : Leaf v) :
    found? place (Record.keep agent key label v store).2 = some found ∨
      ∃ other kept, place = stateKey other key ∧ (kept = v ∨ kept = respelled v) ∧
        found? place (Record.keep agent key label v store).2 = some kept := by
  cases store with
  | memory table =>
    rw [keep_memory]
    unfold MemoryStore.set
    split
    case isTrue => exact Or.inl hheld
    case isFalse =>
      unfold found?
      dsimp only
      rw [stateKey, get?_put_text]
      split
      case isTrue hplace => exact Or.inr ⟨agent, v, hplace, Or.inl rfl, rfl⟩
      case isFalse => exact Or.inl hheld
  | file file =>
    have happart : file.isOwnLock = false := by
      by_contra hown
      rw [found?_own (by simpa using hown)] at hheld
      contradiction
    obtain ⟨notices, later, result, hset, -, hlater⟩ := set_apart happart agent key hleaf
    have hkept : (Record.keep agent key label v (.file file)).2 = .file later := by
      unfold Record.keep Store.set
      dsimp only
      rw [hset]
      cases result <;> rfl
    rw [hkept]
    rcases hlater with hsame | hput
    · exact Or.inl ((hsame place).trans hheld)
    · -- A document may give the name back in the spelling of another agent's.
      rw [hput, respell_entryName agent hkey]
      split
      case isTrue hplace => exact Or.inr ⟨respell agent, _, hplace, Or.inr rfl, rfl⟩
      case isFalse => exact Or.inl hheld

lemma GrantsReads.keep (h : GrantsReads agent store) (writer key label : Text) (v : Value) :
    GrantsReads agent (Record.keep writer key label v store).2 := by
  cases store with
  | memory table =>
    rw [keep_memory]
    intro count other
    rw [set_refuses]
    exact h count other
  | file file =>
    obtain ⟨later, hlater⟩ := keep_file writer key label v file
    rw [hlater]
    trivial

/-- From one store to the other no agent's summary is lost, and every look is granted that was
granted before. -/
structure Lasts (store after : Store) : Prop where
  worded : ∀ agent, Worded agent store → Worded agent after
  grants : ∀ agent, GrantsReads agent store → GrantsReads agent after

lemma Lasts.refl (store : Store) : Lasts store store := ⟨fun _ h => h, fun _ h => h⟩

lemma Lasts.trans {last : Store} (h : Lasts store after) (h' : Lasts after last) :
    Lasts store last :=
  ⟨fun agent hworded => h'.worded agent (h.worded agent hworded),
    fun agent hgrants => h'.grants agent (h.grants agent hgrants)⟩

lemma Consulted.lasts (h : Consulted store after) : Lasts store after := by
  refine ⟨fun agent hworded => ?_, fun agent hgrants => hgrants.read h⟩
  unfold Worded
  rw [h.held]
  exact hworded

/-- Summaries last if only texts that say something are put in their places. -/
lemma lasts_keep (store : Store) (agent : Text) {key : Text} (hkey : key ∈ recordKeys)
    (label : Text) {v : Value} (hleaf : Leaf v)
    (hsummary : key = Record.summaryKey → ∃ t, t ≠ [] ∧ v = .text t) :
    Lasts store (Record.keep agent key label v store).2 := by
  refine ⟨fun owner hworded => ?_, fun owner hgrants => hgrants.keep agent key label v⟩
  obtain ⟨found, hfound, hheld⟩ := hworded
  rcases keep_held hheld agent hkey label hleaf with hstays | ⟨other, kept, hplace, hkept, hnow⟩
  · exact ⟨found, hfound, hstays⟩
  · -- Whoever's place it is, only a summary is put where a summary lies.
    obtain ⟨-, hsame⟩ := stateKey_inj summaryKey_mem hkey hplace
    obtain ⟨t, ht, rfl⟩ := hsummary hsame.symm
    rcases hkept with rfl | rfl
    · exact ⟨t, ht, hnow⟩
    · exact ⟨respell t, respell_ne_nil ht, hnow⟩

lemma lasts_saveSummary (job : Job) (agent : Text) {t : Text} (ht : t ≠ []) (store : Store) :
    Lasts store (job.saveSummary agent (.text t) store).2 :=
  (lasts_keep store agent summaryKey_mem "summary" (.text t) fun _ => ⟨t, ht, rfl⟩).trans
    (lasts_keep _ agent summarizedAtKey_mem "token count" (.int job.answered)
      fun hsame => absurd hsame (by decide))

lemma lasts_saveTurns (job : Job) (agent : Text) (store : Store) :
    Lasts store (job.saveTurns agent store).2 := by
  unfold Job.saveTurns
  cases job.turnCount with
  | none => exact .refl store
  | some count =>
    exact lasts_keep store agent turnsAtKey_mem "turn count watermark" (.int count)
      fun hsame => absurd hsame (by decide)

end Stores

/-- Every reply that the provider has in store is in text. -/
structure Textually (world : World) : Prop where
  script : ∀ reply ∈ world.script, Textual reply
  otherwise : Textual world.otherwise

/-- Summaries last from one world to the other, and the provider does not change its ways. -/
structure Endures (world after : World) : Prop where
  lasts : ∀ name, Lasts (world.store name) (after.store name)
  textually : Textually world → Textually after

section Worlds

variable {world after : World}

lemma Textually.nextReply (h : Textually world) : Textual world.nextReply := by
  unfold World.nextReply
  cases hscript : world.script with
  | nil => exact h.otherwise
  | cons first rest => exact h.script first (hscript ▸ List.mem_cons_self)

lemma Endures.trans {last : World} (h : Endures world after) (h' : Endures after last) :
    Endures world last :=
  ⟨fun name => (h.lasts name).trans (h'.lasts name), fun hworld => h'.textually (h.textually hworld)⟩

lemma endures_of_same (hstores : after.stores = world.stores) (hscript : after.script = world.script)
    (hotherwise : after.otherwise = world.otherwise) : Endures world after := by
  refine ⟨fun name => ?_, fun h => ⟨?_, ?_⟩⟩
  · unfold World.store
    rw [hstores]
    exact .refl _
  · rw [hscript]
    exact h.script
  · rw [hotherwise]
    exact h.otherwise

lemma endures_setStore {name : Text} {store : Store} (h : Lasts (world.store name) store) :
    Endures world (world.setStore name store) := by
  refine ⟨fun other => ?_, fun htextual => ⟨htextual.script, htextual.otherwise⟩⟩
  by_cases hsame : other = name
  · subst hsame
    rw [store_setStore]
    exact h
  · rw [onlyIn_setStore world name store other hsame]
    exact .refl _

lemma endures_send (world : World) (request : Request) : Endures world (world.send request) :=
  ⟨fun _ => .refl _,
    fun h => ⟨fun reply hreply => h.script reply (List.mem_of_mem_tail hreply), h.otherwise⟩⟩

end Worlds

/-- A call that asks for a summary asks about some turns, and one that is about to keep a summary
keeps a text that is not empty. -/
def Promising : Phase → Prop
  | .asking job reply => job.request.turns ≠ [] ∧ Textual reply
  | .saving _ summary => ∃ t, t ≠ [] ∧ summary = .text t
  | _ => True

lemma text_of_receive {request : Request} {limit : Option Quantity} {reply : Reply} {summary : Value}
    (hturns : request.turns ≠ []) (hreply : Textual reply)
    (h : (request.receive limit reply).2 = .ok summary) : ∃ t, t ≠ [] ∧ summary = .text t := by
  obtain ⟨t, rfl⟩ := summary_eq_text hreply h
  exact ⟨t, plain_ne_nil h hturns, rfl⟩

/-- A call leaves a world in which summaries last, and it promises to keep them so. -/
structure Works (world : World) (result : World × Task) : Prop where
  endures : Endures world result.1
  promising : Promising result.2.phase

section Steps

variable (task : Task) (id : Nat) {world later : World}

lemma works_finish (h : Endures world later) (outcome : Except Fault (Option Compaction)) :
    Works world (task.finish id later outcome) := by
  have hsame : Endures later (task.finish id later outcome).1 := by
    unfold Task.finish
    split
    case h_1 => exact endures_of_same rfl rfl rfl
    case h_2 => split <;> exact endures_of_same rfl rfl rfl
  obtain ⟨result, htask⟩ := finish_task task id later outcome
  refine ⟨h.trans hsame, ?_⟩
  rw [htask]
  trivial

lemma works_conclude (h : Endures world later) (job : Job) (summary : Value) :
    Works world (task.conclude id later job summary) := by
  unfold Task.conclude
  dsimp only
  cases job.result task.call summary with
  | error fault =>
    refine works_finish task id (h.trans ?_) _
    exact endures_of_same rfl rfl rfl
  | ok result =>
    refine works_finish task id (h.trans ?_) _
    exact endures_of_same rfl rfl rfl

lemma endures_opened (turns : List Turn) (notices : List Notice) :
    Endures world (opened (errandOf task) world turns notices) :=
  (endures_setStore (lookedAt_consulted task.call.agent (world.store task.store)).lasts).trans
    (endures_of_same rfl rfl rfl)

lemma works_start : Works world (task.start id world) := by
  unfold Task.start
  dsimp only
  split
  case h_1 => exact works_finish _ id (endures_of_same rfl rfl rfl) _
  case h_2 installed _ =>
    split
    case isTrue => exact ⟨endures_of_same rfl rfl rfl, trivial⟩
    case isFalse =>
      rcases installed.strategy.plan world.registry task.call (world.turns task.list) with
        ⟨notices, fault | plan⟩
      · refine works_finish _ id ?_ _
        exact endures_of_same rfl rfl rfl
      · exact ⟨endures_of_same rfl rfl rfl, trivial⟩

lemma loading_works {plan : Plan} (hphase : task.phase = .loading plan) :
    Works world (task.step id world) := by
  generalize hstretch : plan.check task.call
    (recordIn task.call.agent (world.store task.store)) (world.turns task.list) = stretch
  rw [loading_eq task id world hphase hstretch]
  have hopened := @endures_opened task world stretch.turns stretch.notices
  generalize opened (errandOf task) world stretch.turns stretch.notices = later at hopened ⊢
  cases stretch.next with
  | stop => exact works_finish task id hopened _
  | fail fault => exact works_finish task id hopened _
  | go pending =>
    refine ⟨hopened.trans ?_, trivial⟩
    cases task.installed <;> exact endures_of_same rfl rfl rfl

lemma reloading_works {pending : Pending} (hphase : task.phase = .reloading pending)
    (hworld : Textually world) : Works world (task.step id world) := by
  generalize hstretch : pending.recheck world.registry task.call
    (recordIn task.call.agent (world.store task.store)) (world.turns task.list) = stretch
  rw [reloading_eq task id world hphase hstretch]
  have hopened := @endures_opened task world stretch.turns stretch.notices
  generalize opened (errandOf task) world stretch.turns stretch.notices = later at hopened ⊢
  cases hnext : stretch.next with
  | stop => exact works_finish task id hopened _
  | fail fault => exact works_finish task id hopened _
  | go job =>
    change Works world (task.ask id later job)
    unfold Task.ask
    cases refused? job.timeout with
    | some fault => exact works_finish task id hopened _
    | none =>
      rw [← hstretch] at hnext
      exact ⟨hopened.trans (endures_send later job.request), (recheck_request hnext).1,
        (hopened.textually hworld).nextReply⟩

lemma asking_works {job : Job} {reply : Reply} (hphase : task.phase = .asking job reply)
    (hpromise : Promising task.phase) : Works world (task.step id world) := by
  rw [hphase] at hpromise
  obtain ⟨hturns, hreply⟩ := hpromise
  unfold Task.step
  rw [hphase]
  dsimp only
  cases hreceive : (job.request.receive job.timeout reply).2 with
  | error fault =>
    refine works_finish task id ?_ _
    exact endures_of_same rfl rfl rfl
  | ok summary => exact ⟨endures_of_same rfl rfl rfl, text_of_receive hturns hreply hreceive⟩

lemma endures_saveSummary {job : Job} {summary : Value} (hpromise : Promising (.saving job summary)) :
    Endures world (world.setStore task.store
      (job.saveSummary task.call.agent summary (world.store task.store)).2) := by
  obtain ⟨t, ht, rfl⟩ := hpromise
  exact endures_setStore (lasts_saveSummary job task.call.agent ht _)

lemma saving_works {job : Job} {summary : Value} (hphase : task.phase = .saving job summary)
    (hpromise : Promising task.phase) : Works world (task.step id world) := by
  rw [hphase] at hpromise
  have hsaved := @endures_saveSummary task world job summary hpromise
  unfold Task.step
  rw [hphase]
  dsimp only
  cases job.turnCount with
  | some count => exact ⟨hsaved.trans (endures_of_same rfl rfl rfl), trivial⟩
  | none =>
    refine works_conclude task id (hsaved.trans ?_) job summary
    exact endures_of_same rfl rfl rfl

/-- What one step of a call does to the summaries. -/
theorem step_works (hpromise : Promising task.phase) (hworld : Textually world) :
    Works world (task.step id world) := by
  cases hphase : task.phase with
  | ready =>
    unfold Task.step
    rw [hphase]
    exact works_start task id
  | loading plan => exact loading_works task id hphase
  | queued pending =>
    unfold Task.step
    rw [hphase]
    dsimp only
    split
    case isTrue => exact ⟨endures_of_same rfl rfl rfl, trivial⟩
    case isFalse => exact ⟨endures_of_same rfl rfl rfl, hpromise⟩
  | reloading pending => exact reloading_works task id hphase hworld
  | asking job reply => exact asking_works task id hphase hpromise
  | saving job summary => exact saving_works task id hphase hpromise
  | counting job summary =>
    unfold Task.step
    rw [hphase]
    refine works_conclude task id ?_ job summary
    exact (endures_setStore (lasts_saveTurns job task.call.agent _)).trans
      (endures_of_same rfl rfl rfl)
  | finished outcome =>
    unfold Task.step
    rw [hphase]
    exact ⟨endures_of_same rfl rfl rfl, hpromise⟩

/-- What a call does to the summaries when it is cancelled. -/
theorem cancel_works (hpromise : Promising task.phase) : Works world (task.cancel id world) := by
  unfold Task.cancel
  cases hphase : task.phase with
  | ready => exact ⟨endures_of_same rfl rfl rfl, trivial⟩
  | finished outcome => exact ⟨endures_of_same rfl rfl rfl, hpromise⟩
  | saving job summary =>
    rw [hphase] at hpromise
    refine works_finish task id ?_ _
    exact (endures_saveSummary task hpromise).trans (endures_of_same rfl rfl rfl)
  | counting job summary =>
    refine works_finish task id ?_ _
    exact (endures_setStore (lasts_saveTurns job task.call.agent _)).trans
      (endures_of_same rfl rfl rfl)
  | loading plan => exact works_finish task id (endures_of_same rfl rfl rfl) _
  | queued pending => exact works_finish task id (endures_of_same rfl rfl rfl) _
  | reloading pending => exact works_finish task id (endures_of_same rfl rfl rfl) _
  | asking job reply => exact works_finish task id (endures_of_same rfl rfl rfl) _

end Steps

section Calls

lemma compact_lasts (strategy : Strategy) (registry : Registry) (call : Call)
    {provider : Request → Reply} (hprovider : ∀ request, Textual (provider request))
    (turns : List Turn) (store : Store) :
    Lasts store (strategy.compact registry call provider turns store).store := by
  obtain ⟨honce, htwice⟩ := looksAt_consulted call.agent store
  have hcourse := compact_course strategy registry call provider turns store
  generalize strategy.compact registry call provider turns store = run at hcourse ⊢
  generalize looksAt call.agent store = looks at honce htwice hcourse
  cases hcourse with
  | unplanned => exact .refl store
  | idle | unmeasured => exact honce.lasts
  | idleAfterAll | unprepared | unanswered => exact htwice.lasts
  | compacted notices hjob hsummary hresult =>
    obtain ⟨t, ht, rfl⟩ := text_of_receive hjob.exists_old (hprovider _) hsummary
    exact htwice.lasts.trans ((lasts_saveSummary _ call.agent ht _).trans (lasts_saveTurns _ _ _))

lemma beforeModelCall_lasts (guard : Guard) (registry : Registry) (call : Call)
    {provider : Request → Reply} (hprovider : ∀ request, Textual (provider request))
    (turns : List Turn) (store : Store) :
    Lasts store (guard.beforeModelCall registry call provider turns store).store := by
  rcases beforeModelCall_cases guard registry call provider turns store with
    ⟨-, hnothing⟩ | ⟨installed, -, -, hguarded⟩
  · rw [hnothing]
    exact .refl store
  · rw [hguarded.store_eq]
    exact compact_lasts installed.strategy registry call hprovider turns store

lemma endures_absorb {α : Type} {session : Session} {errand : Errand} {run : Run α}
    (h : Lasts (session.world.store errand.store) run.store) :
    Endures session.world (session.absorb errand run).world := by
  have hlists : Endures session.world (session.world.setTurns errand.list run.turns) :=
    endures_of_same rfl rfl rfl
  have hstores : Endures (session.world.setTurns errand.list run.turns)
      ((session.world.setTurns errand.list run.turns).setStore errand.store run.store) :=
    endures_setStore h
  have hreported : ∀ (world : World) (notices : List Notice),
      Endures world (world.report notices) := fun _ _ => endures_of_same rfl rfl rfl
  have hkept := (hlists.trans hstores).trans (hreported _ run.notices)
  unfold Session.absorb
  cases run.sent with
  | none => exact hkept
  | some request => exact hkept.trans (endures_send _ request)

lemma call_endures {session : Session} (errand : Errand) (h : Textually session.world) :
    Endures session.world (session.call errand).1.world :=
  endures_absorb (beforeModelCall_lasts session.guard session.world.registry errand.call
    (fun _ => h.nextReply) _ _)

lemma move_works {pool : Pool} (move : Move) (hworld : Textually pool.world)
    (htasks : ∀ task ∈ pool.tasks, Promising task.phase) :
    Endures pool.world (pool.move move).world ∧
      ∀ task ∈ (pool.move move).tasks, Promising task.phase := by
  have hupdate : ∀ (id : Nat) (task : Task) (result : World × Task), Works pool.world result →
      Endures pool.world (pool.update id task result).world ∧
        ∀ other ∈ (pool.update id task result).tasks, Promising other.phase := by
    intro id task result hworks
    refine ⟨hworks.endures, fun other hother => ?_⟩
    rcases List.mem_or_eq_of_mem_set hother with hold | rfl
    · exact htasks other hold
    · exact hworks.promising
  unfold Pool.move
  cases move with
  | step id =>
    dsimp only
    cases htask : pool.tasks[id]? with
    | none => exact ⟨endures_of_same rfl rfl rfl, htasks⟩
    | some task =>
      exact hupdate id task _
        (step_works task id (htasks task (List.mem_of_getElem? htask)) hworld)
  | cancel id =>
    dsimp only
    cases htask : pool.tasks[id]? with
    | none => exact ⟨endures_of_same rfl rfl rfl, htasks⟩
    | some task =>
      exact hupdate id task _ (cancel_works task id (htasks task (List.mem_of_getElem? htask)))

end Calls

/-- A host and those calls of its guard that run beside one another. -/
structure Scene where
  session : Session
  tasks : List Task := []

/-- What happens around a guard: its host arranges everything but the stores anew or puts other
strategies in place, and calls take place at once, or begin and move on by and by. -/
inductive Happening where
  | arrange (registry : Registry) (lists : List (Text × List Turn)) (script : List Reply)
      (otherwise : Reply)
  | swap (strategies : List (Text × Strategy))
  | call (errand : Errand)
  | enlist (errand : Errand)
  | move (move : Move)

/-- The provider's new replies, if there are any, are in text. -/
def Happening.InText : Happening → Prop
  | .arrange _ _ script otherwise => (∀ reply ∈ script, Textual reply) ∧ Textual otherwise
  | _ => True

namespace Scene

def advance (scene : Scene) : Happening → Scene
  | .arrange registry lists script otherwise =>
    { scene with
      session.world := { scene.session.world with registry, lists, script, otherwise } }
  | .swap strategies => { scene with session := scene.session.swap strategies }
  | .call errand => { scene with session := (scene.session.call errand).1 }
  | .enlist errand => { scene with tasks := scene.tasks ++ [scene.session.task errand true] }
  | .move move =>
    let after := ({ world := scene.session.world, tasks := scene.tasks } : Pool).move move
    { session := { scene.session with world := after.world }, tasks := after.tasks }

def run (scene : Scene) (happenings : List Happening) : Scene := happenings.foldl advance scene

/-- The store of a name. -/
def store (scene : Scene) (name : Text) : Store := scene.session.world.store name

/-- The provider answers in text, and no call is about to keep an empty summary. -/
structure Sound (scene : Scene) : Prop where
  textually : Textually scene.session.world
  promising : ∀ task ∈ scene.tasks, Promising task.phase

variable {scene : Scene}

theorem Sound.advance (h : scene.Sound) {happening : Happening} (htext : happening.InText) :
    (scene.advance happening).Sound ∧
      ∀ name, Lasts (scene.store name) ((scene.advance happening).store name) := by
  cases happening with
  | arrange registry lists script otherwise =>
    exact ⟨⟨⟨htext.1, htext.2⟩, h.promising⟩, fun name => .refl _⟩
  | swap strategies =>
    exact ⟨⟨⟨h.textually.script, h.textually.otherwise⟩, h.promising⟩, fun name => .refl _⟩
  | call errand =>
    have hcall := call_endures errand h.textually
    exact ⟨⟨hcall.textually h.textually, h.promising⟩, hcall.lasts⟩
  | enlist errand =>
    refine ⟨⟨h.textually, fun task htask => ?_⟩, fun name => .refl _⟩
    rcases List.mem_append.mp htask with hold | hnew
    · exact h.promising task hold
    · rw [List.mem_singleton.mp hnew]
      trivial
  | move move =>
    obtain ⟨hworld, htasks⟩ := @move_works ⟨scene.session.world, scene.tasks, []⟩ move h.textually
      h.promising
    exact ⟨⟨hworld.textually h.textually, htasks⟩, hworld.lasts⟩

theorem Sound.run (h : scene.Sound) (happenings : List Happening)
    (htext : ∀ happening ∈ happenings, happening.InText) :
    (scene.run happenings).Sound ∧
      ∀ name, Lasts (scene.store name) ((scene.run happenings).store name) := by
  induction happenings generalizing scene with
  | nil => exact ⟨h, fun name => .refl _⟩
  | cons first rest ih =>
    rw [List.forall_mem_cons] at htext
    obtain ⟨hnext, hfirst⟩ := h.advance htext.1
    obtain ⟨hlast, hrest⟩ := ih hnext htext.2
    exact ⟨hlast, fun name => (hfirst name).trans (hrest name)⟩

end Scene

end Condense.Proofs
