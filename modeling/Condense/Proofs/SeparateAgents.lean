import Condense.Proofs.FailOpen
import Condense.Proofs.SharedStores
import Mathlib.Logic.Function.Basic

/-!
# Agents that share a store

However the calls of several agents on one store follow one another, each agent finds its turns, its
record and the ends of its calls as if it were alone, and nothing else in the store changes. The
places of two agents' records differ, whatever their names are, because no key of a record begins
like another one with its mark. So a call of another agent passes an agent's record by, and a call
of its own does the same in two stores that hold the same record.
-/

namespace Condense.Proofs
open Summary

section Places

def recordKeys : List Text := [Record.summaryKey, Record.summarizedAtKey, Record.turnsAtKey]

lemma summaryKey_mem : Record.summaryKey ∈ recordKeys := by decide

lemma summarizedAtKey_mem : Record.summarizedAtKey ∈ recordKeys := by decide

lemma turnsAtKey_mem : Record.turnsAtKey ∈ recordKeys := by decide

/-- Where an agent's record lies. -/
def places (agent : Text) : List Key := recordKeys.map (stateKey agent)

lemma mem_places {agent key : Text} (hkey : key ∈ recordKeys) : stateKey agent key ∈ places agent :=
  List.mem_map_of_mem hkey

/-- The places of two records differ, even if one agent's name contains a key or a mark. -/
lemma stateKey_inj {agent other key key' : Text} (hkey : key ∈ recordKeys)
    (hkey' : key' ∈ recordKeys) (h : stateKey agent key = stateKey other key') :
    agent = other ∧ key = key' := by
  have hmarked : ∀ k ∈ recordKeys, ∀ k' ∈ recordKeys,
      k ++ ("_" : Text) <+: k' ++ ("_" : Text) → k = k' := by decide
  have hnames : (key ++ ("_" : Text)) ++ agent = (key' ++ ("_" : Text)) ++ other := by
    have htexts := Key.text.inj h
    rw [List.append_assoc, List.append_assoc, List.append_assoc, List.append_assoc] at htexts
    rw [List.append_assoc, List.append_assoc]
    exact List.append_cancel_left htexts
  have hsame : key = key' := by
    rcases List.prefix_or_prefix_of_prefix (List.prefix_append (key ++ ("_" : Text)) agent)
      (hnames ▸ List.prefix_append (key' ++ ("_" : Text)) other) with hbegins | hbegins
    · exact hmarked key hkey key' hkey' hbegins
    · exact (hmarked key' hkey' key hkey hbegins).symm
  subst hsame
  exact ⟨List.append_cancel_left hnames, rfl⟩

lemma not_mem_places {agent other key : Text} (hne : agent ≠ other) (hkey : key ∈ recordKeys) :
    stateKey agent key ∉ places other := by
  intro hmem
  obtain ⟨key', hkey', hplace⟩ := List.mem_map.mp hmem
  exact hne (stateKey_inj hkey hkey' hplace.symm).1

end Places

section Records

variable {agent : Text} {store : Store}

lemma Shareable.fetch (h : Shareable store) (agent key : Text) :
    ∃ after, Consulted store after ∧ Record.fetch agent key store =
      ([], after, (found? (stateKey agent key) store).getD .null) := by
  obtain ⟨after, hget⟩ := h.get agent key
  have hread := get_consulted agent key store
  rw [hget] at hread
  refine ⟨after, hread, ?_⟩
  unfold Record.fetch
  rw [hget]

/-- The record that an agent finds. -/
def foundRecord (agent : Text) (store : Store) : Record :=
  ⟨Record.summaryOf ((found? (stateKey agent Record.summaryKey) store).getD .null),
    Record.counter ((found? (stateKey agent Record.summarizedAtKey) store).getD .null),
    Record.counter ((found? (stateKey agent Record.turnsAtKey) store).getD .null)⟩

lemma Shareable.load (h : Shareable store) (agent : Text) :
    ∃ after, Consulted store after ∧
      Record.load agent store = ([], after, foundRecord agent store) := by
  obtain ⟨first, hfirst, hsummary⟩ := h.fetch agent Record.summaryKey
  obtain ⟨second, hsecond, htokens⟩ := (h.read hfirst).fetch agent Record.summarizedAtKey
  obtain ⟨third, hthird, hturns⟩ :=
    (h.read (hfirst.trans hsecond)).fetch agent Record.turnsAtKey
  refine ⟨third, hfirst.trans (hsecond.trans hthird), ?_⟩
  unfold Record.load foundRecord
  simp only [hsummary, htokens, hturns, hsecond.held, hfirst.held, List.nil_append]

lemma isSpellable_recordKey {key : Text} (hkey : key ∈ recordKeys) : isSpellable key = true := by
  have hall : ∀ k ∈ recordKeys, isSpellable k = true := by decide
  exact hall key hkey

/-- The notices of a value that was given to a store. -/
def keptNotices (label agent : Text) (disk : Bool) (v : Value) : List Notice :=
  match kept disk v with
  | .ok _ => []
  | .error why => [.persistFailed label agent why.message]

lemma Shareable.keep (h : Shareable store) {key : Text} {v : Value} (hkey : key ∈ recordKeys)
    (hspell : onDisk store = true → isSpellable agent = true) (hleaf : Leaf v) (label : Text) :
    ∃ after, Record.keep agent key label v store =
        (keptNotices label agent (onDisk store) v, after) ∧
      Given store after (stateKey agent key) v := by
  obtain ⟨after, hset, hgiven⟩ := h.set (fun hdisk => ⟨hspell hdisk, isSpellable_recordKey hkey⟩)
    hleaf
  refine ⟨after, ?_, hgiven⟩
  unfold Record.keep keptNotices
  rw [hset]
  cases kept (onDisk store) v <;> rfl

end Records

/-- The second store is the first one after an agent's record in it may have changed, and nothing
else. -/
structure Spares (agent : Text) (store after : Store) : Prop where
  shareable : Shareable after
  disk : onDisk after = onDisk store
  held : ∀ place, place ∉ places agent → found? place after = found? place store

section Spares

variable {agent : Text} {store after later : Store}

lemma Spares.trans (h : Spares agent store after) (h' : Spares agent after later) :
    Spares agent store later :=
  ⟨h'.shareable, h'.disk.trans h.disk, fun place hplace =>
    (h'.held place hplace).trans (h.held place hplace)⟩

lemma Shareable.spares (h : Shareable store) (hread : Consulted store after) :
    Spares agent store after :=
  ⟨h.read hread, hread.disk, fun place _ => hread.held place⟩

lemma Given.spares {key : Text} {v : Value} (h : Given store after (stateKey agent key) v)
    (hkey : key ∈ recordKeys) : Spares agent store after := by
  refine ⟨h.shareable, h.disk, fun place hplace => ?_⟩
  have hother : place ≠ stateKey agent key := fun hsame => hplace (hsame ▸ mem_places hkey)
  rw [h.held, if_neg hother]

variable (hspell : onDisk store = true → isSpellable agent = true)

include hspell

lemma keep_spares {key : Text} {v : Value} (h : Shareable store) (hkey : key ∈ recordKeys)
    (hleaf : Leaf v) (label : Text) :
    Spares agent store (Record.keep agent key label v store).2 := by
  obtain ⟨after, hkeep, hgiven⟩ := h.keep hkey hspell hleaf label
  rw [hkeep]
  exact hgiven.spares hkey

lemma savedIn_spares (h : Shareable store) (job : Job) {summary : Value} (hleaf : Leaf summary) :
    Spares agent store (savedIn agent job summary store) := by
  have hsummary := keep_spares hspell h summaryKey_mem hleaf "summary"
  have htokens := hsummary.trans (keep_spares (fun hdisk => hspell (hsummary.disk ▸ hdisk))
    hsummary.shareable summarizedAtKey_mem (.int job.answered) "token count")
  unfold savedIn Job.saveTurns
  cases job.turnCount with
  | none => exact htokens
  | some count =>
    exact htokens.trans (keep_spares (fun hdisk => hspell (htokens.disk ▸ hdisk))
      htokens.shareable turnsAtKey_mem (.int count) "turn count watermark")

lemma compact_spares (h : Shareable store) (strategy : Strategy) (registry : Registry) {call : Call}
    (hagent : call.agent = agent) (provider : Request → Reply) (turns : List Turn) :
    Spares agent store (strategy.compact registry call provider turns store).store := by
  subst hagent
  obtain ⟨honce, htwice⟩ := looksAt_consulted call.agent store
  have hcourse := compact_course strategy registry call provider turns store
  generalize strategy.compact registry call provider turns store = run at hcourse ⊢
  generalize looksAt call.agent store = looks at honce htwice hcourse
  cases hcourse with
  | unplanned => exact h.spares (.refl store)
  | idle | unmeasured => exact h.spares honce
  | idleAfterAll | unprepared | unanswered => exact h.spares htwice
  | compacted notices hjob hsummary hresult =>
    have hlooked : Spares call.agent store looks.twice := h.spares htwice
    exact hlooked.trans (savedIn_spares (fun hdisk => hspell (hlooked.disk ▸ hdisk))
      hlooked.shareable _ (leaf_of_receive hsummary))

/-- A call of the guard changes nothing but the record of its agent. -/
theorem beforeModelCall_spares (h : Shareable store) (guard : Guard) (registry : Registry)
    {call : Call} (hagent : call.agent = agent) (provider : Request → Reply) (turns : List Turn) :
    Spares agent store (guard.beforeModelCall registry call provider turns store).store := by
  rcases beforeModelCall_cases guard registry call provider turns store with
    ⟨-, hnothing⟩ | ⟨installed, -, -, hguarded⟩
  · rw [hnothing]
    exact h.spares (.refl store)
  · have hspares := compact_spares hspell h installed.strategy registry hagent provider turns
    generalize guard.beforeModelCall registry call provider turns store = run at hguarded ⊢
    cases hguarded with
    | passed | failed | cancelled => exact hspares

end Spares

/-- Two stores of one kind that hold the same record of an agent. -/
structure Parallel (agent : Text) (disk : Bool) (store other : Store) : Prop where
  shareable : Shareable store
  shareable' : Shareable other
  kind : onDisk store = disk
  kind' : onDisk other = disk
  held : ∀ place ∈ places agent, found? place store = found? place other

/-- Two runs that differ in nothing but their stores, and in those not for one agent. -/
structure ParallelRuns {α : Type} (agent : Text) (disk : Bool) (run other : Run α) : Prop where
  turns : run.turns = other.turns
  notices : run.notices = other.notices
  sent : run.sent = other.sent
  outcome : run.outcome = other.outcome
  stores : Parallel agent disk run.store other.store

namespace Parallel

variable {agent : Text} {disk : Bool} {store other : Store}

lemma load (h : Parallel agent disk store other) :
    ∃ after after' record, Record.load agent store = ([], after, record) ∧
      Record.load agent other = ([], after', record) ∧ Parallel agent disk after after' := by
  obtain ⟨after, hread, hload⟩ := h.shareable.load agent
  obtain ⟨after', hread', hload'⟩ := h.shareable'.load agent
  have hrecord : foundRecord agent other = foundRecord agent store := by
    unfold foundRecord
    rw [h.held _ (mem_places summaryKey_mem), h.held _ (mem_places summarizedAtKey_mem),
      h.held _ (mem_places turnsAtKey_mem)]
  rw [hrecord] at hload'
  refine ⟨after, after', _, hload, hload', h.shareable.read hread, h.shareable'.read hread',
    hread.disk.trans h.kind, hread'.disk.trans h.kind', fun place hplace => ?_⟩
  rw [hread.held, hread'.held, h.held place hplace]

variable (hspell : disk = true → isSpellable agent = true)

include hspell

lemma keep (h : Parallel agent disk store other) {key : Text} {v : Value} (hkey : key ∈ recordKeys)
    (hleaf : Leaf v) (label : Text) :
    ∃ notices after after', Record.keep agent key label v store = (notices, after) ∧
      Record.keep agent key label v other = (notices, after') ∧
      Parallel agent disk after after' := by
  obtain ⟨after, hkeep, hgiven⟩ :=
    h.shareable.keep hkey (fun hdisk => hspell (h.kind ▸ hdisk)) hleaf label
  obtain ⟨after', hkeep', hgiven'⟩ :=
    h.shareable'.keep hkey (fun hdisk => hspell (h.kind' ▸ hdisk)) hleaf label
  rw [h.kind] at hkeep
  rw [h.kind'] at hkeep'
  refine ⟨_, after, after', hkeep, hkeep', hgiven.shareable, hgiven'.shareable,
    hgiven.disk.trans h.kind, hgiven'.disk.trans h.kind', fun place hplace => ?_⟩
  rw [hgiven.held, hgiven'.held, h.kind, h.kind', h.held place hplace, h.held _ (mem_places hkey)]

lemma saveSummary (h : Parallel agent disk store other) (job : Job) {summary : Value}
    (hleaf : Leaf summary) :
    ∃ notices after after', job.saveSummary agent summary store = (notices, after) ∧
      job.saveSummary agent summary other = (notices, after') ∧
      Parallel agent disk after after' := by
  obtain ⟨notices, first, first', hfirst, hfirst', hsummary⟩ :=
    h.keep hspell summaryKey_mem hleaf "summary"
  obtain ⟨told, second, second', hsecond, hsecond', htokens⟩ :=
    hsummary.keep hspell summarizedAtKey_mem (.int job.answered)
      "token count"
  unfold Job.saveSummary Record.saveSummary
  simp only [hfirst, hfirst', hsecond, hsecond']
  exact ⟨_, _, _, rfl, rfl, htokens⟩

lemma saveTurns (h : Parallel agent disk store other) (job : Job) :
    ∃ notices after after', job.saveTurns agent store = (notices, after) ∧
      job.saveTurns agent other = (notices, after') ∧ Parallel agent disk after after' := by
  unfold Job.saveTurns
  cases job.turnCount with
  | none => exact ⟨[], store, other, rfl, rfl, h⟩
  | some count =>
    exact h.keep hspell turnsAtKey_mem (.int count) "turn count watermark"

end Parallel

namespace ParallelRuns

variable {disk : Bool} {call : Call} {store other : Store}

lemma report {α : Type} {run run' : Run α} {agent : Text} (h : ParallelRuns agent disk run run')
    (told : List Notice) :
    ParallelRuns agent disk { run with notices := told ++ run.notices }
      { run' with notices := told ++ run'.notices } :=
  ⟨h.turns, congrArg (told ++ ·) h.notices, h.sent, h.outcome, h.stores⟩

variable (hspell : disk = true → isSpellable call.agent = true)
  (h : Parallel call.agent disk store other)

include hspell h

lemma conclude (job : Job) {summary : Value} (hleaf : Leaf summary) :
    ParallelRuns call.agent disk (job.conclude call summary store)
      (job.conclude call summary other) := by
  obtain ⟨notices, first, first', hfirst, hfirst', hsummary⟩ := h.saveSummary hspell job hleaf
  obtain ⟨told, second, second', hsecond, hsecond', hturns⟩ := hsummary.saveTurns hspell job
  unfold Job.conclude
  simp only [hfirst, hfirst', hsecond, hsecond']
  cases job.result call summary with
  | error fault => exact ⟨rfl, rfl, rfl, rfl, hturns⟩
  | ok result => exact ⟨rfl, rfl, rfl, rfl, hturns⟩

lemma perform (job : Job) (provider : Request → Reply) (turns : List Turn) :
    ParallelRuns call.agent disk (job.perform call provider turns store)
      (job.perform call provider turns other) := by
  unfold Job.perform ask
  cases refused? job.timeout with
  | some fault => exact ⟨rfl, rfl, rfl, rfl, h⟩
  | none =>
    rcases hreceive : job.request.receive job.timeout (provider job.request) with
      ⟨notices, fault | summary⟩
    · exact ⟨rfl, rfl, rfl, rfl, h⟩
    · have hleaf : Leaf summary := leaf_of_receive (congrArg Prod.snd hreceive)
      have hruns := conclude hspell h job hleaf
      exact ⟨hruns.turns, congrArg (notices ++ ·) hruns.notices, rfl, hruns.outcome, hruns.stores⟩

lemma stretch_perform (stretch : Stretch Job) (provider : Request → Reply) :
    ParallelRuns call.agent disk (stretch.perform call provider store)
      (stretch.perform call provider other) := by
  rcases stretch with ⟨turns, notices, _ | fault | job⟩
  · exact ⟨rfl, rfl, rfl, rfl, h⟩
  · exact ⟨rfl, rfl, rfl, rfl, h⟩
  · exact (perform hspell h job provider turns).report notices

lemma stretch_confirm (stretch : Stretch Pending) (registry : Registry)
    (provider : Request → Reply) :
    ParallelRuns call.agent disk (stretch.confirm registry call provider store)
      (stretch.confirm registry call provider other) := by
  rcases stretch with ⟨turns, notices, _ | fault | pending⟩
  · exact ⟨rfl, rfl, rfl, rfl, h⟩
  · exact ⟨rfl, rfl, rfl, rfl, h⟩
  · obtain ⟨after, after', record, hload, hload', hafter⟩ := h.load
    unfold Stretch.confirm
    simp only [hload, hload']
    exact (stretch_perform hspell hafter (pending.recheck registry call record turns)
      provider).report (notices ++ [])

lemma compact (strategy : Strategy) (registry : Registry) (provider : Request → Reply)
    (turns : List Turn) :
    ParallelRuns call.agent disk (strategy.compact registry call provider turns store)
      (strategy.compact registry call provider turns other) := by
  unfold Strategy.compact
  rcases strategy.plan registry call turns with ⟨notices, fault | plan⟩
  · exact ⟨rfl, rfl, rfl, rfl, h⟩
  · obtain ⟨after, after', record, hload, hload', hafter⟩ := h.load
    simp only [hload, hload']
    exact (stretch_confirm hspell hafter (plan.check call record turns) registry provider).report
      (notices ++ [])

/-- A call of the guard takes the same course in two stores that hold the same record of its
agent. -/
theorem beforeModelCall (guard : Guard) (registry : Registry) (provider : Request → Reply)
    (turns : List Turn) :
    ParallelRuns call.agent disk (guard.beforeModelCall registry call provider turns store)
      (guard.beforeModelCall registry call provider turns other) := by
  unfold Guard.beforeModelCall
  cases turns.isEmpty with
  | true => exact ⟨rfl, rfl, rfl, rfl, h⟩
  | false =>
    cases guard.strategyFor? call.agent with
    | none => exact ⟨rfl, rfl, rfl, rfl, h⟩
    | some installed =>
      have hruns := compact hspell h installed.strategy registry provider turns
      dsimp only
      simp only [Bool.false_eq_true, if_false]
      rw [hruns.turns, hruns.outcome, hruns.notices, hruns.sent]
      exact ⟨rfl, rfl, rfl, rfl, hruns.stores⟩

end ParallelRuns

/-- How a call of an agent ended. -/
structure Ending where
  notices : List Notice
  sent : Option Request
  outcome : Except Fault Unit

/-- What an agent has for itself: its turns, the number of replies that its provider has given, and
the ends of its calls so far. -/
structure Party where
  turns : List Turn := []
  answered : Nat := 0
  endings : List Ending := []

def Party.after (party : Party) (run : Run Unit) : Party where
  turns := run.turns
  answered := if run.sent.isSome then party.answered + 1 else party.answered
  endings := party.endings ++ [⟨run.notices, run.sent, run.outcome⟩]

/-- Agents with one store. -/
structure Company where
  parties : Text → Party
  store : Store

/-- What happens among them: the host changes an agent's turns, or an agent is about to call a
model. -/
inductive Deed where
  | edit (agent : Text) (change : List Turn → List Turn)
  | call (registry : Registry) (call : Call)

def Deed.agent : Deed → Text
  | .edit agent _ => agent
  | .call _ pending => pending.agent

section Company

variable (guard : Guard) (replies : Text → Nat → Request → Reply)

/-- The run of a call. Every agent has a provider of its own. -/
def Company.run (company : Company) (registry : Registry) (call : Call) : Run Unit :=
  let party := company.parties call.agent
  guard.beforeModelCall registry call (replies call.agent party.answered) party.turns company.store

def Company.step (company : Company) : Deed → Company
  | .edit agent change =>
    let party := company.parties agent
    { company with
      parties := Function.update company.parties agent
        { party with turns := change party.turns } }
  | .call registry call =>
    let run := company.run guard replies registry call
    { parties := Function.update company.parties call.agent
        ((company.parties call.agent).after run)
      store := run.store }

/-- An agent has the same for itself among others and alone, and finds the same record. -/
structure Undisturbed (agent : Text) (disk : Bool) (company alone : Company) : Prop where
  party : company.parties agent = alone.parties agent
  stores : Parallel agent disk company.store alone.store

variable {agent : Text} {disk : Bool} {company alone : Company} {deed : Deed}

/-- A deed changes nothing in the store but the record of its agent. -/
lemma step_spares (hstore : Shareable company.store)
    (hspell : onDisk company.store = true → isSpellable deed.agent = true) :
    Spares deed.agent company.store (company.step guard replies deed).store := by
  cases deed with
  | edit other change => exact hstore.spares (.refl _)
  | call registry call => exact beforeModelCall_spares hspell hstore guard registry rfl _ _

variable {guard replies}

lemma step_parties_of_ne (hother : deed.agent ≠ agent) :
    (company.step guard replies deed).parties agent = company.parties agent := by
  cases deed with
  | edit other change => exact Function.update_of_ne hother.symm _ _
  | call registry call => exact Function.update_of_ne hother.symm _ _

/-- The deeds of other agents leave an agent undisturbed. -/
lemma Undisturbed.foreign (h : Undisturbed agent disk company alone) (hother : deed.agent ≠ agent)
    (hspell : disk = true → isSpellable deed.agent = true) :
    Undisturbed agent disk (company.step guard replies deed) alone := by
  have hspares := step_spares guard replies h.stores.shareable
    fun hdisk => hspell (h.stores.kind ▸ hdisk)
  refine ⟨(step_parties_of_ne hother).trans h.party, hspares.shareable, h.stores.shareable',
    hspares.disk.trans h.stores.kind, h.stores.kind', fun place hplace => ?_⟩
  obtain ⟨key, hkey, rfl⟩ := List.mem_map.mp hplace
  rw [hspares.held _ (not_mem_places hother.symm hkey), h.stores.held _ hplace]

/-- An agent's own deed comes to the same among others and alone. -/
lemma Undisturbed.own (h : Undisturbed agent disk company alone) (hown : deed.agent = agent)
    (hspell : disk = true → isSpellable agent = true) :
    Undisturbed agent disk (company.step guard replies deed) (alone.step guard replies deed) := by
  subst hown
  cases deed with
  | edit agent change =>
    have hparty : company.parties agent = alone.parties agent := h.party
    refine ⟨?_, h.stores⟩
    change Function.update company.parties agent _ agent =
      Function.update alone.parties agent _ agent
    rw [Function.update_self, Function.update_self, hparty]
  | call registry call =>
    have hparty : company.parties call.agent = alone.parties call.agent := h.party
    have hruns : ParallelRuns call.agent disk (company.run guard replies registry call)
        (alone.run guard replies registry call) := by
      unfold Company.run
      rw [hparty]
      exact ParallelRuns.beforeModelCall hspell h.stores guard registry _ _
    refine ⟨?_, hruns.stores⟩
    change Function.update company.parties call.agent _ call.agent =
      Function.update alone.parties call.agent _ call.agent
    rw [Function.update_self, Function.update_self, hparty]
    unfold Party.after
    rw [hruns.turns, hruns.notices, hruns.sent, hruns.outcome]

/-- Whatever the agents do, each is left undisturbed by the others. -/
lemma undisturbed_run (h : Undisturbed agent disk company alone) {deeds : List Deed}
    (hspell : disk = true → ∀ deed ∈ deeds, isSpellable deed.agent = true) :
    Undisturbed agent disk (deeds.foldl (Company.step guard replies) company)
      ((deeds.filter (·.agent = agent)).foldl (Company.step guard replies) alone) := by
  induction deeds generalizing company alone with
  | nil => exact h
  | cons deed rest ih =>
    have hdeed := fun hdisk => hspell hdisk deed List.mem_cons_self
    have hrest := fun hdisk other hother => hspell hdisk other (List.mem_cons_of_mem deed hother)
    rw [List.foldl_cons, List.filter_cons]
    by_cases hown : deed.agent = agent
    · rw [if_pos (decide_eq_true hown), List.foldl_cons]
      exact ih (h.own hown fun hdisk => hown ▸ hdeed hdisk) hrest
    · rw [if_neg (by simpa using hown)]
      exact ih (h.foreign hown hdeed) hrest

/-- Whatever the agents do, only their records in the store may change. -/
lemma run_spares {deeds : List Deed} (hstore : Shareable company.store)
    (hspell : onDisk company.store = true → ∀ deed ∈ deeds, isSpellable deed.agent = true)
    {place : Key} (hplace : ∀ deed ∈ deeds, place ∉ places deed.agent) :
    found? place (deeds.foldl (Company.step guard replies) company).store =
      found? place company.store := by
  induction deeds generalizing company with
  | nil => rfl
  | cons deed rest ih =>
    have hspares := step_spares guard replies hstore
      fun hdisk => hspell hdisk deed List.mem_cons_self
    rw [List.foldl_cons, ih hspares.shareable
      (fun hdisk other hother =>
        hspell (hspares.disk ▸ hdisk) other (List.mem_cons_of_mem deed hother))
      fun other hother => hplace other (List.mem_cons_of_mem deed hother)]
    exact hspares.held place (hplace deed List.mem_cons_self)

end Company

/-- Agents with one store do not interfere. After any deeds of any number of agents, each of them
has the turns, the ends of its calls and the record that it would have had if all deeds of the
others had not been done; and whatever the store holds elsewhere, it still holds. The store is a
table that refuses nothing, or a file that is not its own lock and whose members can be read; in a
file no half of a surrogate pair stands in front of another one in an agent's name. -/
theorem agents_do_not_interfere (guard : Guard) (replies : Text → Nat → Request → Reply)
    (company : Company) (deeds : List Deed) (hstore : Shareable company.store)
    (hspell : onDisk company.store = true → ∀ deed ∈ deeds, isSpellable deed.agent = true) :
    let together := deeds.foldl (Company.step guard replies) company
    (∀ agent,
      let alone := (deeds.filter (·.agent = agent)).foldl (Company.step guard replies) company
      together.parties agent = alone.parties agent ∧
        recordIn agent together.store = recordIn agent alone.store ∧
        ∀ place ∈ places agent, found? place together.store = found? place alone.store) ∧
      ∀ place, (∀ deed ∈ deeds, place ∉ places deed.agent) →
        found? place together.store = found? place company.store := by
  intro together
  refine ⟨fun agent => ?_, fun place hplace => run_spares hstore hspell hplace⟩
  intro alone
  have hstart : Undisturbed agent (onDisk company.store) company company :=
    ⟨rfl, hstore, hstore, rfl, rfl, fun _ _ => rfl⟩
  have hend : Undisturbed agent (onDisk company.store) together alone :=
    undisturbed_run hstart hspell
  refine ⟨hend.party, ?_, hend.stores.held⟩
  obtain ⟨_, _, record, hload, hload', -⟩ := hend.stores.load
  unfold recordIn
  rw [hload, hload']

/-- A file in which the host keeps a value of its own. -/
def sharedFile : FileStore where
  path := "chats/conv.json"
  contents := .octets (documentOf [(.text "host", .int 1)])

def sharedCompany : Company where
  parties _ := {}
  store := .file sharedFile

/-- Two agents, of which one is called like a key with the name of the other behind it. -/
def sharedGuard : Guard :=
  Guard.install 0 [("a", .slidingWindow wholeSettings 1 (by decide)),
    ("summary_a", .threshold wholeSettings)]

def sharedReplies (agent : Text) (count : Nat) : Request → Reply := fun _ =>
  .answer { content := .text (List.replicate (count + 1) (.char 'S') ++ agent) }

def sharedDeeds : List Deed :=
  let told : List Turn := [.ofText "user" "one two three", .ofText "user" "four five six",
    .ofText "user" "seven eight nine", .ofText "user" "ten"]
  [.edit "a" fun turns => turns ++ told, .edit "summary_a" fun turns => turns ++ told,
    .call {} { agent := "a" }, .call {} { agent := "summary_a" },
    .edit "a" fun turns => turns ++ told, .call {} { agent := "a" }]

/-- Both agents compact, one of them twice. -/
theorem sharedFile_keeps_apart :
    let together := sharedDeeds.foldl (Company.step sharedGuard sharedReplies) sharedCompany
    let alone := (sharedDeeds.filter (·.agent = ("a" : Text))).foldl
      (Company.step sharedGuard sharedReplies) sharedCompany
    together.parties "a" = alone.parties "a" ∧
      (recordIn "a" together.store).summary = "SSa" ∧
      (recordIn "summary_a" together.store).summary = "Ssummary_a" ∧
      found? (.text "host") together.store = some (.int 1) := by
  have hread : sharedFile.members = ([], .ok [(.text "host", .int 1)]) :=
    members_of_document documentable_host rfl
  have hfile : Catalogued sharedFile [(.text "host", .int 1)] :=
    ⟨rfl, nofun, hread, stable_members hread⟩
  have hnames : ∀ deed ∈ sharedDeeds, isSpellable deed.agent = true := by
    have hall : (sharedDeeds.map Deed.agent).all isSpellable = true := by decide
    exact fun deed hdeed => List.all_eq_true.mp hall _ (List.mem_map_of_mem hdeed)
  have hhost : ∀ agent, Key.text "host" ∉ places agent := by
    intro agent hmem
    obtain ⟨key, -, hplace⟩ := List.mem_map.mp hmem
    cases Key.text.inj hplace
  obtain ⟨hagents, hrest⟩ := agents_do_not_interfere sharedGuard sharedReplies sharedCompany
    sharedDeeds hfile.shareable fun _ => hnames
  obtain ⟨hparty, hrecord, -⟩ := hagents "a"
  obtain ⟨-, hrecord', -⟩ := hagents "summary_a"
  refine ⟨hparty, (congrArg Record.summary hrecord).trans (by decide +kernel),
    (congrArg Record.summary hrecord').trans (by decide +kernel), ?_⟩
  exact (hrest _ fun _ _ => hhost _).trans (hfile.held _)

end Condense.Proofs
