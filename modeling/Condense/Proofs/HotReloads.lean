import Condense.Proofs.FullHistories
import Condense.Proofs.GuardedSteps

/-!
# Reloads while calls are under way

A host may put fresh strategies in place at any time. A call keeps the strategy that its agent had
when the call began, and with it the lock, so that calls from before and after a reload do not keep
each other out. A request continues the summary that is in force when it is sent; until the answer
is kept, only calls under other locks can keep a summary, and that one is then lost. Nothing is lost
if no call is under way when strategies are replaced.
-/

namespace Condense.Proofs
open Summary

/-- A summary that was kept: under which lock, which summary its request continued, and what the
store gives out as the summary from then on. -/
structure Persisted where
  lock : Nat
  previous : Text
  summary : Text
  deriving DecidableEq

/-- The summary in force after some were kept. -/
def inForce (start : Text) (persisted : List Persisted) : Text :=
  (persisted.getLast?.map (·.summary)).getD start

/-- A host with its calls and the summaries that they have kept so far. -/
structure Host where
  session : Session
  tasks : List Task := []
  persisted : List Persisted := []

inductive HostEvent where
  | swap (strategies : List (Text × Strategy))
  | call (errand : Errand)
  | step (id : Nat)

namespace Host

/-- The summary that a step of a call keeps, if it keeps one. -/
def keeps (task : Task) (after : World) : List Persisted :=
  match task.installed, task.phase with
  | some installed, .saving job _ =>
    [⟨installed.lock, job.request.previous,
      (recordIn task.call.agent (after.store task.store)).summary⟩]
  | _, _ => []

/-- One step of a call. -/
def step (host : Host) (id : Nat) : Host :=
  match host.tasks[id]? with
  | none => host
  | some task =>
    let after := ({ world := host.session.world, tasks := host.tasks } : Pool).move (.step id)
    { session := { host.session with world := after.world }
      tasks := after.tasks
      persisted := host.persisted ++ keeps task after.world }

/-- A call of the guard begins, with the strategy that its agent has now. -/
def enlist (host : Host) (errand : Errand) : Host :=
  { host with tasks := host.tasks ++ [host.session.task errand true] }

def advance (host : Host) : HostEvent → Host
  | .swap strategies => { host with session := host.session.swap strategies }
  | .call errand => (host.enlist errand).step host.tasks.length
  | .step id => host.step id

def run (host : Host) (events : List HostEvent) : Host := events.foldl advance host

/-- Every call has ended. -/
def AtRest (host : Host) : Prop := ∀ task ∈ host.tasks, task.phase.isFinished = true

/-- Whenever strategies are replaced, every call has ended. -/
def SwapsAtRest (host : Host) : List HostEvent → Prop
  | [] => True
  | .swap strategies :: events =>
    host.AtRest ∧ SwapsAtRest (host.advance (.swap strategies)) events
  | event :: events => SwapsAtRest (host.advance event) events

end Host

def HostEvent.Concerns (agent name : Text) : HostEvent → Prop
  | .call errand => errand.call.agent = agent ∧ errand.store = name
  | _ => True

/-- A request continues the summary that was in force at some time, and since then summaries were
kept under such locks only. -/
def Continues (others : Nat → Prop) (start : Text) (persisted : List Persisted) (previous : Text) :
    Prop :=
  ∃ before since, persisted = before ++ since ∧ previous = inForce start before ∧
    ∀ entry ∈ since, others entry.lock

section Continues

variable {others : Nat → Prop} {start previous : Text} {persisted : List Persisted}

lemma continues_inForce : Continues others start persisted (inForce start persisted) :=
  ⟨persisted, [], (List.append_nil _).symm, rfl, nofun⟩

lemma Continues.append (h : Continues others start persisted previous) {more : List Persisted}
    (hmore : ∀ entry ∈ more, others entry.lock) :
    Continues others start (persisted ++ more) previous := by
  obtain ⟨before, since, rfl, hprevious, hsince⟩ := h
  refine ⟨before, since ++ more, List.append_assoc .., hprevious, fun entry hentry => ?_⟩
  exact (List.mem_append.mp hentry).elim (hsince entry) (hmore entry)

lemma Continues.mono (h : Continues others start persisted previous) {others' : Nat → Prop}
    (himp : ∀ lock, others lock → others' lock) : Continues others' start persisted previous := by
  obtain ⟨before, since, heq, hprevious, hsince⟩ := h
  exact ⟨before, since, heq, hprevious, fun entry hentry => himp _ (hsince entry hentry)⟩

lemma Continues.eq_inForce (h : Continues others start persisted previous)
    (hnone : ∀ lock, ¬others lock) : previous = inForce start persisted := by
  obtain ⟨before, since, rfl, hprevious, hsince⟩ := h
  rw [List.eq_nil_iff_forall_not_mem.mpr fun entry hentry => hnone _ (hsince entry hentry),
    List.append_nil]
  exact hprevious

end Continues

section Stores

variable {agent : Text} {store : Store}

lemma Retains.summary_read {after : Store} (h : Retains agent store) (hread : Consulted store after) :
    (recordIn agent after).summary = (recordIn agent store).summary := by
  rw [h.grants.recordIn_read hread]

lemma Retains.saveTurns (h : Retains agent store) (job : Job) :
    Retains agent (job.saveTurns agent store).2 ∧
      (recordIn agent (job.saveTurns agent store).2).summary = (recordIn agent store).summary := by
  unfold Job.saveTurns
  cases job.turnCount with
  | none => exact ⟨h, rfl⟩
  | some count =>
    have hkept := h.keep turnsAtKey_mem "turn count watermark" (.int count)
    have hsummary := h.found?_keep turnsAtKey_mem summaryKey_mem (by decide) "turn count watermark"
      (.int count)
    refine ⟨hkept.retains, ?_⟩
    have hfound : (recordIn agent (Record.saveTurns agent (.int count) store).2).summary =
        Record.summaryOf ((found? (stateKey agent Record.summaryKey)
          (Record.saveTurns agent (.int count) store).2).getD .null) :=
      congrArg Record.summary hkept.retains.grants.recordIn
    rw [hfound, h.grants.recordIn]
    exact congrArg (fun found => Record.summaryOf (Option.getD found .null)) hsummary

end Stores

section Goes

variable {agent : Text} {lock id : Nat} {now after : Shared} {phase next : Phase}

lemma Shared.head_left {other lock' : Nat} (hhead : (now.lines lock').head? = some other)
    (hne : other ≠ id) : ((now.left lock id).lines lock').head? = some other := by
  unfold Shared.left
  by_cases hsame : lock' = lock
  · subst hsame
    simpa using Proofs.head_left hhead hne
  · simpa [hsame] using hhead

lemma Shared.head_entered {other lock' : Nat} (hhead : (now.lines lock').head? = some other) :
    ((now.entered lock id).lines lock').head? = some other := by
  unfold Shared.entered
  by_cases hsame : lock' = lock
  · subst hsame
    simpa using head_enters hhead
  · simpa [hsame] using hhead

lemma Goes.head_of_ne (h : Goes agent lock id now phase after next) {other lock' : Nat}
    (hhead : (now.lines lock').head? = some other) (hne : other ≠ id) :
    (after.lines lock').head? = some other := by
  cases h with
  | opens | waits | admitted | asks | answered | counts | finished => exact hhead
  | enters => exact Shared.head_entered hhead
  | _ => exact Shared.head_left hhead hne

lemma Goes.unfinished (h : Goes agent lock id now phase after next)
    (hnext : next.isFinished = false) : phase.isFinished = false := by
  cases h with
  | opens | enters | waits | admitted | asks | answered | counts => rfl
  | _ => contradiction

lemma Goes.head_self (h : Goes agent lock id now phase after next)
    (hhead : isInside phase = true → (now.lines lock).head? = some id)
    (hnext : isInside next = true) : (after.lines lock).head? = some id := by
  cases h with
  | opens phase hphase => exact absurd hnext (by rw [hphase]; decide)
  | admitted pending hturn => exact hturn
  | asks | answered | counts => exact hhead rfl
  | _ => contradiction

/-- Only a call that has a summary to keep changes the one in the record. -/
lemma Goes.summary (h : Goes agent lock id now phase after next) (hnow : Retains agent now.store)
    (hphase : ∀ job summary, phase ≠ .saving job summary) :
    Retains agent after.store ∧
      (recordIn agent after.store).summary = (recordIn agent now.store).summary := by
  have hlooked := lookedAt_consulted agent now.store
  cases h with
  | opens | fails | waits | admitted | unanswered | answered | finished => exact ⟨hnow, rfl⟩
  | enters | passes | stops | asks => exact ⟨hnow.read hlooked, hnow.summary_read hlooked⟩
  | counts | saved => exact absurd rfl (hphase _ _)
  | counted job => exact hnow.saveTurns job

lemma Goes.retains_saved {job : Job} {summary : Value}
    (h : Goes agent lock id now (.saving job summary) after next) (hnow : Retains agent now.store)
    (hleaf : Leaf summary) : Retains agent after.store := by
  cases h with
  | counts | saved => exact (hnow.saveSummary job hleaf).1

end Goes

/-- The other locks, if calls may be under way when strategies are replaced. -/
def Foreign (calm : Prop) (lock other : Nat) : Prop := other ≠ lock ∧ ¬calm

/-- What is known of a call under a lock by the phase in which it is. -/
def Carries (calm : Prop) (start : Text) (persisted : List Persisted) (lock : Nat) : Phase → Prop
  | .asking job _ => Continues (Foreign calm lock) start persisted job.request.previous
  | .saving job summary =>
    Leaf summary ∧ Continues (Foreign calm lock) start persisted job.request.previous
  | _ => True

section Carries

variable {calm : Prop} {agent start : Text} {persisted more : List Persisted} {lock id : Nat}
  {now after : Shared} {phase next : Phase}

lemma Carries.append (h : Carries calm start persisted lock phase)
    (hmore : isInside phase = true → ∀ entry ∈ more, Foreign calm lock entry.lock) :
    Carries calm start (persisted ++ more) lock phase := by
  cases phase with
  | asking job reply => exact Continues.append h (hmore rfl)
  | saving job summary => exact ⟨h.1, h.2.append (hmore rfl)⟩
  | _ => trivial

lemma Goes.carries (h : Goes agent lock id now phase after next)
    (hrecord : (recordIn agent now.store).summary = inForce start persisted)
    (hcarries : Carries calm start persisted lock phase)
    (hmore : (∀ job summary, phase ≠ .saving job summary) → more = []) :
    Carries calm start (persisted ++ more) lock next := by
  cases h with
  | opens opened hopened =>
    cases next with
    | asking | saving => contradiction
    | _ => trivial
  | asks pending reply hprevious =>
    obtain rfl : more = [] := hmore fun _ _ hsaving => nomatch hsaving
    rw [List.append_nil]
    change Continues _ _ _ _
    rw [hprevious, hrecord]
    exact continues_inForce
  | answered hsummary =>
    obtain rfl : more = [] := hmore fun _ _ hsaving => nomatch hsaving
    rw [List.append_nil]
    exact ⟨leaf_of_receive hsummary, hcarries⟩
  | _ => trivial

end Carries

/-- What is known of one call of a host. -/
structure Member (agent name start : Text) (calm : Prop) (host : Host) (id : Nat) (task : Task) :
    Prop where
  ofAgent : task.call.agent = agent
  onStore : task.store = name
  idle : task.installed = none → task.phase = .ready ∨ task.phase.isFinished = true
  inside : ∀ installed, task.installed = some installed → isInside task.phase = true →
    (host.session.world.line installed.lock).head? = some id
  carries : ∀ installed, task.installed = some installed →
    Carries calm start host.persisted installed.lock task.phase
  current : calm → task.phase.isFinished = false →
    task.installed = host.session.guard.strategyFor? agent

/-- What holds of a host at all times. -/
structure Coherent (agent name start : Text) (calm : Prop) (host : Host) : Prop where
  retains : Retains agent (host.session.world.store name)
  record : (recordIn agent (host.session.world.store name)).summary = inForce start host.persisted
  members : ∀ id task, host.tasks[id]? = some task → Member agent name start calm host id task
  continued : ∀ earlier entry later, host.persisted = earlier ++ entry :: later →
    Continues (Foreign calm entry.lock) start earlier entry.previous

section Hosts

variable {agent name start : Text} {calm : Prop} {host : Host}

lemma step_of_some {id : Nat} {task : Task} (htask : host.tasks[id]? = some task) :
    let result := task.step id host.session.world
    host.step id =
      { session := { host.session with world := result.1 }
        tasks := host.tasks.set id result.2
        persisted := host.persisted ++ Host.keeps task result.1 } := by
  unfold Host.step
  rw [htask]
  dsimp only
  rw [move_step htask]
  rfl

/-- A host after one of its calls has moved and may have kept a summary. -/
lemma Coherent.update (h : Coherent agent name start calm host) {id : Nat} {world : World}
    {next : Task} {more : List Persisted} (hretains : Retains agent (world.store name))
    (hrecord : (recordIn agent (world.store name)).summary = inForce start (host.persisted ++ more))
    (hheads : ∀ lock other, other ≠ id → (host.session.world.line lock).head? = some other →
      (world.line lock).head? = some other)
    (hapart : ∀ other rival installed, other ≠ id → host.tasks[other]? = some rival →
      rival.installed = some installed → isInside rival.phase = true →
      ∀ entry ∈ more, Foreign calm installed.lock entry.lock)
    (hcontinued : ∀ earlier entry later, host.persisted ++ more = earlier ++ entry :: later →
      Continues (Foreign calm entry.lock) start earlier entry.previous)
    (hnext : Member agent name start calm
      { host with session.world := world, persisted := host.persisted ++ more } id next) :
    Coherent agent name start calm
      { session := { host.session with world }
        tasks := host.tasks.set id next
        persisted := host.persisted ++ more } := by
  refine ⟨hretains, hrecord, fun other task htask => ?_, hcontinued⟩
  by_cases hsame : id = other
  · subst hsame
    have hlt : id < host.tasks.length := by
      have hbound := (List.getElem?_eq_some_iff.mp htask).1
      simpa using hbound
    obtain rfl : next = task := by
      rw [List.getElem?_set_self hlt] at htask
      exact Option.some.inj htask
    exact ⟨hnext.ofAgent, hnext.onStore, hnext.idle, hnext.inside, hnext.carries, hnext.current⟩
  · have hbefore : host.tasks[other]? = some task := by
      rwa [List.getElem?_set_ne hsame] at htask
    obtain ⟨hagent, hstore, hidle, hinside, hcarries, hcurrent⟩ := h.members other task hbefore
    refine ⟨hagent, hstore, hidle, fun installed hinstalled hin => ?_, fun installed hinstalled => ?_,
      hcurrent⟩
    · exact hheads _ other (Ne.symm hsame) (hinside installed hinstalled hin)
    · exact (hcarries installed hinstalled).append
        (hapart other task installed (Ne.symm hsame) hbefore hinstalled)

lemma Coherent.update_quiet (h : Coherent agent name start calm host) {id : Nat} {world : World}
    {next : Task} {more : List Persisted} (hnone : more = [])
    (hretains : Retains agent (world.store name))
    (hsummary : (recordIn agent (world.store name)).summary =
      (recordIn agent (host.session.world.store name)).summary)
    (hheads : ∀ lock other, other ≠ id → (host.session.world.line lock).head? = some other →
      (world.line lock).head? = some other)
    (hnext : Member agent name start calm
      { host with session.world := world, persisted := host.persisted ++ more } id next) :
    Coherent agent name start calm
      { session := { host.session with world }
        tasks := host.tasks.set id next
        persisted := host.persisted ++ more } := by
  subst hnone
  refine h.update hretains ?_ hheads ?_ ?_ hnext
  · rw [List.append_nil, hsummary, h.record]
  · intro other rival installed _ _ _ _ entry hentry
    exact absurd hentry List.not_mem_nil
  · rw [List.append_nil]
    exact h.continued

/-- A call of an agent without a strategy does nothing. -/
lemma step_idle {task : Task} (hinstalled : task.installed = none)
    (hidle : task.phase = .ready ∨ task.phase.isFinished = true) (id : Nat) (world : World) :
    (task.step id world).1 = world ∧ (task.step id world).2.phase.isFinished = true := by
  unfold Task.step
  rcases hidle with hready | hfinished
  · rw [hready]
    unfold Task.start Task.finish
    simp [hinstalled, Phase.isFinished]
  · cases hphase : task.phase with
    | finished outcome => simp [hphase, Phase.isFinished]
    | _ =>
      rw [hphase] at hfinished
      contradiction

lemma keeps_eq_nil {task : Task}
    (hphase : ∀ job summary, task.phase ≠ .saving job summary) (after : World) :
    Host.keeps task after = [] := by
  unfold Host.keeps
  split
  case h_1 hsaving => exact absurd hsaving (hphase _ _)
  case h_2 => rfl

lemma keeps_eq {task : Task} {installed : Installed} {job : Job} {summary : Value}
    (hinstalled : task.installed = some installed) (hphase : task.phase = .saving job summary)
    (after : World) :
    Host.keeps task after = [⟨installed.lock, job.request.previous,
      (recordIn task.call.agent (after.store task.store)).summary⟩] := by
  unfold Host.keeps
  rw [hinstalled, hphase]

lemma inForce_append (start : Text) (persisted : List Persisted) (entry : Persisted) :
    inForce start (persisted ++ [entry]) = entry.summary := by
  simp [inForce]

section Steps

variable {id : Nat} {task : Task} {installed : Installed}

lemma Member.goes (h : Member agent name start calm host id task)
    (hinstalled : task.installed = some installed) :
    Goes agent installed.lock id (sharedIn name host.session.world) task.phase
      (sharedIn name (task.step id host.session.world).1)
      (task.step id host.session.world).2.phase := by
  have hproceeds := step_proceeds id host.session.world hinstalled
  unfold Proceeds at hproceeds
  rwa [h.ofAgent, h.onStore] at hproceeds

lemma Member.next (h : Member agent name start calm host id task)
    (hinstalled : task.installed = some installed)
    (hrecord : (recordIn agent (host.session.world.store name)).summary =
      inForce start host.persisted) {more : List Persisted}
    (hmore : (∀ job summary, task.phase ≠ .saving job summary) → more = []) :
    Member agent name start calm
      { host with
        session.world := (task.step id host.session.world).1
        persisted := host.persisted ++ more } id (task.step id host.session.world).2 := by
  have hgoes := h.goes hinstalled
  obtain ⟨phase, -, hnext⟩ := (step_advances task id host.session.world).same
  rw [hnext] at hgoes ⊢
  refine ⟨h.ofAgent, h.onStore, fun hnone => ?_, fun found hfound hin => ?_, fun found hfound => ?_,
    fun hcalm hunfinished => ?_⟩
  · cases hinstalled.symm.trans hnone
  · cases hinstalled.symm.trans hfound
    exact hgoes.head_self (h.inside installed hinstalled) hin
  · cases hinstalled.symm.trans hfound
    exact hgoes.carries hrecord (h.carries installed hinstalled) hmore
  · exact h.current hcalm (hgoes.unfinished hunfinished)

lemma Coherent.step_idle (h : Coherent agent name start calm host)
    (htask : host.tasks[id]? = some task) (hinstalled : task.installed = none) :
    Coherent agent name start calm (host.step id) := by
  have hmember := h.members id task htask
  obtain ⟨hworld, hfinished⟩ :=
    Proofs.step_idle hinstalled (hmember.idle hinstalled) id host.session.world
  obtain ⟨phase, -, hnext⟩ := (step_advances task id host.session.world).same
  have hnone : Host.keeps task host.session.world = [] := by
    unfold Host.keeps
    rw [hinstalled]
  rw [step_of_some htask]
  simp only [hworld, hnext] at hfinished ⊢
  refine h.update_quiet hnone h.retains rfl (fun _ _ _ hhead => hhead) ?_
  refine ⟨hmember.ofAgent, hmember.onStore, fun _ => Or.inr hfinished, fun found hfound => ?_,
    fun found hfound => ?_, fun _ hunfinished => ?_⟩
  · cases hinstalled.symm.trans hfound
  · cases hinstalled.symm.trans hfound
  · rw [hfinished] at hunfinished
    contradiction

lemma Coherent.step_quiet (h : Coherent agent name start calm host)
    (htask : host.tasks[id]? = some task) (hinstalled : task.installed = some installed)
    (hphase : ∀ job summary, task.phase ≠ .saving job summary) :
    Coherent agent name start calm (host.step id) := by
  have hmember := h.members id task htask
  have hgoes := hmember.goes hinstalled
  have hnone := keeps_eq_nil hphase (task.step id host.session.world).1
  obtain ⟨hretains, hsummary⟩ := hgoes.summary h.retains hphase
  rw [step_of_some htask]
  exact h.update_quiet hnone hretains hsummary
    (fun lock other hne hhead => hgoes.head_of_ne hhead hne)
    (hmember.next hinstalled h.record fun _ => hnone)

lemma isFinished_of_isInside {phase : Phase} (h : isInside phase = true) :
    phase.isFinished = false := by
  cases phase with
  | finished => contradiction
  | _ => rfl

/-- Past one lock there is one call at a time, and all calls that are under way have the same lock if
strategies are replaced at rest only. -/
lemma Coherent.foreign (h : Coherent agent name start calm host)
    (htask : host.tasks[id]? = some task) (hinstalled : task.installed = some installed)
    (hinside : isInside task.phase = true) {other : Nat} {rival : Task} {found : Installed}
    (hne : other ≠ id) (hrival : host.tasks[other]? = some rival)
    (hfound : rival.installed = some found) (hrivals : isInside rival.phase = true) :
    Foreign calm found.lock installed.lock := by
  have hmember := h.members id task htask
  have hother := h.members other rival hrival
  -- With one lock both would be the first in the line for it.
  have hlock : installed.lock ≠ found.lock := by
    intro hsame
    have hfirst := hmember.inside installed hinstalled hinside
    rw [hsame, hother.inside found hfound hrivals] at hfirst
    exact hne (Option.some.inj hfirst)
  refine ⟨hlock, fun hcalm => hlock ?_⟩
  have hcurrent := hmember.current hcalm (isFinished_of_isInside hinside)
  rw [← hother.current hcalm (isFinished_of_isInside hrivals), hinstalled, hfound] at hcurrent
  rw [Option.some.inj hcurrent]

lemma Coherent.step_keeping (h : Coherent agent name start calm host)
    (htask : host.tasks[id]? = some task) (hinstalled : task.installed = some installed)
    {job : Job} {summary : Value} (hphase : task.phase = .saving job summary) :
    Coherent agent name start calm (host.step id) := by
  have hmember := h.members id task htask
  have hgoes := hmember.goes hinstalled
  have hcarries := hmember.carries installed hinstalled
  have hkeeps := keeps_eq hinstalled hphase (task.step id host.session.world).1
  rw [hmember.ofAgent, hmember.onStore] at hkeeps
  rw [hphase] at hgoes hcarries
  obtain ⟨hleaf, hcontinues⟩ := hcarries
  have hinside : isInside task.phase = true := by rw [hphase]; rfl
  rw [step_of_some htask]
  refine h.update (hgoes.retains_saved h.retains hleaf) ?_
    (fun lock other hne hhead => hgoes.head_of_ne hhead hne) ?_ ?_
    (hmember.next hinstalled h.record fun hquiet => absurd hphase (hquiet job summary))
  · rw [hkeeps, inForce_append]
  · intro other rival found hne hrival hfound hrivals entry hentry
    rw [hkeeps, List.mem_singleton] at hentry
    rw [hentry]
    exact h.foreign htask hinstalled hinside hne hrival hfound hrivals
  · intro earlier entry later hsplit
    rw [hkeeps] at hsplit
    -- The new summary is the last one, or the others are divided.
    rcases List.eq_nil_or_concat later with rfl | ⟨rest, last, rfl⟩
    · obtain ⟨rfl, hlast⟩ := List.append_inj' hsplit rfl
      obtain rfl := List.singleton_inj.mp hlast
      exact hcontinues
    · rw [List.concat_eq_append, ← List.cons_append, ← List.append_assoc] at hsplit
      exact h.continued earlier entry rest (List.append_inj' hsplit rfl).1

theorem Coherent.step (h : Coherent agent name start calm host) (id : Nat) :
    Coherent agent name start calm (host.step id) := by
  cases htask : host.tasks[id]? with
  | none =>
    have hsame : host.step id = host := by
      unfold Host.step
      rw [htask]
    rw [hsame]
    exact h
  | some task =>
    cases hinstalled : task.installed with
    | none => exact h.step_idle htask hinstalled
    | some installed =>
      by_cases hsaving : ∃ job summary, task.phase = .saving job summary
      · obtain ⟨job, summary, hphase⟩ := hsaving
        exact h.step_keeping htask hinstalled hphase
      · exact h.step_quiet htask hinstalled fun job summary hphase =>
          hsaving ⟨job, summary, hphase⟩

end Steps

lemma Coherent.enlist (h : Coherent agent name start calm host) {errand : Errand}
    (herrand : errand.call.agent = agent ∧ errand.store = name) :
    Coherent agent name start calm (host.enlist errand) := by
  refine ⟨h.retains, h.record, fun id task htask => ?_, h.continued⟩
  have htask : (host.tasks ++ [host.session.task errand true])[id]? = some task := htask
  rw [List.getElem?_append] at htask
  split at htask
  case isTrue =>
    obtain ⟨hagent, hstore, hidle, hinside, hcarries, hcurrent⟩ := h.members id task htask
    exact ⟨hagent, hstore, hidle, hinside, hcarries, hcurrent⟩
  case isFalse =>
    obtain rfl := List.mem_singleton.mp (List.mem_of_getElem? htask)
    refine ⟨herrand.1, herrand.2, fun _ => Or.inl rfl, fun _ _ hinside => ?_, fun _ _ => trivial,
      fun _ _ => ?_⟩
    · contradiction
    · rw [← herrand.1]
      rfl

lemma Coherent.swap (h : Coherent agent name start calm host) (hcalm : calm → host.AtRest)
    (strategies : List (Text × Strategy)) :
    Coherent agent name start calm (host.advance (.swap strategies)) := by
  refine ⟨h.retains, h.record, fun id task htask => ?_, h.continued⟩
  obtain ⟨hagent, hstore, hidle, hinside, hcarries, -⟩ := h.members id task htask
  refine ⟨hagent, hstore, hidle, hinside, hcarries, fun hc hunfinished => ?_⟩
  rw [hcalm hc task (List.mem_of_getElem? htask)] at hunfinished
  contradiction

theorem coherent_run {events : List HostEvent}
    (hevents : ∀ event ∈ events, event.Concerns agent name)
    (h : Coherent agent name start calm host) (hcalm : calm → host.SwapsAtRest events) :
    Coherent agent name start calm (host.run events) := by
  induction events generalizing host with
  | nil => exact h
  | cons event events ih =>
    obtain ⟨hevent, hrest⟩ := List.forall_mem_cons.mp hevents
    refine ih hrest ?_ ?_
    · cases event with
      | swap strategies => exact h.swap (fun hc => (hcalm hc).1) strategies
      | call errand => exact (h.enlist hevent).step host.tasks.length
      | step id => exact h.step id
    · intro hc
      cases event with
      | swap strategies => exact (hcalm hc).2
      | call errand => exact hcalm hc
      | step id => exact hcalm hc

end Hosts

/-- The store always holds the summary that was kept last. The request of every summary continues one
that was in force when it was sent, and those kept since then come from calls under other locks. If
strategies are replaced only while no call is under way there are none of them, so that no summary
is lost. -/
theorem kept_summaries_continue (session : Session) {agent name : Text}
    (hstore : Retains agent (session.world.store name)) {events : List HostEvent}
    (hevents : ∀ event ∈ events, event.Concerns agent name) :
    let start := (recordIn agent (session.world.store name)).summary
    let host := ({ session } : Host).run events
    (recordIn agent (host.session.world.store name)).summary = inForce start host.persisted ∧
      ∀ earlier entry later, host.persisted = earlier ++ entry :: later →
        Continues (· ≠ entry.lock) start earlier entry.previous ∧
          (({ session } : Host).SwapsAtRest events → entry.previous = inForce start earlier) := by
  intro start host
  -- Whether replacements wait for the calls is settled for the whole run before it begins.
  let calm := ({ session } : Host).SwapsAtRest events
  have hfirst : Coherent agent name start calm { session } := by
    refine ⟨hstore, rfl, fun id task htask => ?_, fun earlier entry later hsplit => ?_⟩
    · cases htask
    · cases (List.nil_eq_append_iff.mp hsplit).2
  have hcoherent : Coherent agent name start calm host := coherent_run hevents hfirst id
  refine ⟨hcoherent.record, fun earlier entry later hsplit => ?_⟩
  have hcontinues := hcoherent.continued earlier entry later hsplit
  exact ⟨hcontinues.mono fun _ hforeign => hforeign.1,
    fun hcalm => hcontinues.eq_inForce fun _ hforeign => hforeign.2 hcalm⟩

def reloadSession : Session where
  world :=
    { lists := ["t", "u"].map fun name => (Text.ofString name, List.replicate 5 (.ofText "user" "x"))
      script := [.answer { content := .text "S" }, .answer { content := .text "T" }] }
  guard := Guard.install 0 [("a", .sliding wholeSettings 3)]
  nextLock := 1

/-- Two calls ask, each with the strategy that it finds, and then both keep their summaries. -/
def reloadEvents : List HostEvent :=
  [.call ⟨{ agent := "a" }, "t", "s"⟩, .step 0, .step 0, .step 0,
    .swap [("a", .sliding wholeSettings 3)],
    .call ⟨{ agent := "a" }, "u", "s"⟩, .step 1, .step 1, .step 1,
    .step 0, .step 0, .step 0, .step 1, .step 1, .step 1]

/-- The second summary takes the place of the first one and does not continue it. -/
theorem reload_loses_summary :
    let start : Host := { session := reloadSession }
    (start.run reloadEvents).persisted = [⟨0, [], "S"⟩, ⟨1, [], "T"⟩] ∧
      (recordIn "a" ((start.run reloadEvents).session.world.store "s")).summary = "T" ∧
      Continues (· ≠ 1) [] [⟨0, [], "S"⟩] [] ∧ ¬start.SwapsAtRest reloadEvents := by
  intro start
  have hstore : Retains "a" (reloadSession.world.store "s") := .table fun _ _ => rfl
  have hevents : ∀ event ∈ reloadEvents, event.Concerns "a" "s" := by
    simp [reloadEvents, HostEvent.Concerns]
  have hpersisted : (start.run reloadEvents).persisted = [⟨0, [], "S"⟩, ⟨1, [], "T"⟩] := by
    decide +kernel
  obtain ⟨hrecord, hkept⟩ := kept_summaries_continue reloadSession hstore hevents
  obtain ⟨hcontinues, hrest⟩ := hkept [⟨0, [], "S"⟩] ⟨1, [], "T"⟩ [] hpersisted
  refine ⟨hpersisted, ?_, hcontinues, fun hswaps => ?_⟩
  · rw [hrecord]
    exact congrArg (inForce _) hpersisted
  · exact absurd (hrest hswaps) (by decide +kernel)

end Condense.Proofs
