import Condense.Guard
import Condense.Proofs.SafeBoundary

/-!
# The course of a compaction

A compaction looks at its record twice and then asks for a summary. This file says for each way in
which it may end what the turns and the store are then, so that nothing else needs to follow the
stretches of work one by one.
-/

namespace Condense.Proofs
open Summary

/-- The record that a look at a store finds. -/
def recordIn (agent : Text) (store : Store) : Record := (Record.load agent store).2.2

/-- A store after a look at a record in it. -/
def lookedAt (agent : Text) (store : Store) : Store := (Record.load agent store).2.1

/-- What a compaction finds when it looks at its record for the first and for the second time, and
the store after each look. -/
structure Looks where
  first : Record
  once : Store
  second : Record
  twice : Store

def looksAt (agent : Text) (store : Store) : Looks where
  first := recordIn agent store
  once := lookedAt agent store
  second := recordIn agent (lookedAt agent store)
  twice := lookedAt agent (lookedAt agent store)

lemma looksAt_once (agent : Text) (store : Store) :
    (looksAt agent store).once = lookedAt agent store := by simp only [looksAt]

lemma looksAt_second (agent : Text) (store : Store) :
    (looksAt agent store).second = recordIn agent (lookedAt agent store) := by
  simp only [looksAt]

lemma looksAt_twice (agent : Text) (store : Store) :
    (looksAt agent store).twice = lookedAt agent (lookedAt agent store) := by
  simp only [looksAt]

/-- The turns that a strategy cuts in two: the threshold strategy has put the summary in front of
them that it saw last, the sliding window takes them as they are. -/
def cutTurns (strategy : Strategy) (looks : Looks) (turns : List Turn) : List Turn :=
  match strategy with
  | .threshold _ =>
    if looks.second.summary = looks.first.summary then inject looks.first.summary turns
    else renew looks.second.summary (inject looks.first.summary turns)
  | .slidingWindow .. => turns

/-- The turns after the second look, if there is nothing to compact. -/
def openedTurns (strategy : Strategy) (looks : Looks) (turns : List Turn) : List Turn :=
  match strategy with
  | .threshold _ => cutTurns strategy looks turns
  | .slidingWindow .. => inject looks.second.summary turns

/-- `before` are the given turns, or these behind a summary, or with a summary in place of the one
that led them. -/
inductive Fronted : List Turn → List Turn → Prop where
  | same (turns : List Turn) : Fronted turns turns
  | added {summary : Text} {turns : List Turn} (hsummary : summary ≠ [])
      (h : isLed turns = false) : Fronted turns (turnOf summary :: turns)
  | renewed {summary : Text} {lead : Turn} (rest : List Turn) (hsummary : summary ≠ [])
      (h : isSummary lead = true) : Fronted (lead :: rest) (turnOf summary :: rest)

lemma inject_eq_self {summary : Text} {turns : List Turn} :
    inject summary turns = turns ↔ summary = [] ∨ isLed turns = true := by
  constructor
  · intro h
    by_contra hneither
    obtain ⟨hsummary, hbare⟩ := not_or.mp hneither
    rw [inject_of_not_isLed hsummary (by simpa using hbare)] at h
    exact List.cons_ne_self _ _ h
  · rintro (rfl | hled)
    · exact inject_nil turns
    · exact inject_of_isLed summary hled

lemma inject_fronted (summary : Text) (turns : List Turn) :
    Fronted turns (inject summary turns) := by
  by_cases hnone : summary = []
  · rw [hnone]
    exact .same turns
  · cases hled : isLed turns with
    | true =>
      rw [inject_of_isLed summary hled]
      exact .same turns
    | false =>
      rw [inject_of_not_isLed hnone hled]
      exact .added hnone hled

lemma Fronted.renew {turns before : List Turn} (h : Fronted turns before) (summary : Text) :
    Fronted turns (Summary.renew summary before) := by
  by_cases hnone : summary = []
  · rwa [hnone]
  · cases h with
    | same =>
      cases turns with
      | nil =>
        rw [renew_of_not_isLed hnone isLed_nil]
        exact .added hnone rfl
      | cons lead rest =>
        cases hlead : isSummary lead with
        | true =>
          rw [renew_of_isSummary rest hnone hlead]
          exact .renewed rest hnone hlead
        | false =>
          have hled : isLed (lead :: rest) = false := hlead
          rw [renew_of_not_isLed hnone hled]
          exact .added hnone hled
    | added _ hled =>
      rw [renew_of_isSummary turns hnone (isSummary_turnOf _)]
      exact .added hnone hled
    | renewed rest _ hlead =>
      rw [renew_of_isSummary rest hnone (isSummary_turnOf _)]
      exact .renewed rest hnone hlead

lemma cutTurns_fronted (strategy : Strategy) (looks : Looks) (turns : List Turn) :
    Fronted turns (cutTurns strategy looks turns) := by
  cases strategy with
  | slidingWindow settings limit positive => exact .same turns
  | threshold settings =>
    unfold cutTurns
    dsimp only
    split
    · exact inject_fronted _ turns
    · exact (inject_fronted _ turns).renew _

/-- What has been settled about a compaction when the provider is asked: `before` are the turns that
are cut at `bound`. -/
structure Prepared (settings : Settings) (call : Call) (previous : Text) (before : List Turn)
    (bound : Nat) (job : Job) : Prop where
  safe : Safe before bound
  old : job.request.turns = (before.take bound).filter fun turn => !isSummary turn
  exists_old : job.request.turns ≠ []
  kept : job.kept = before.drop bound
  previous : job.request.previous = previous
  excerpts : job.request.excerptChars = settings.tuning.excerptChars
  measured : measure call before = .ok job.tokensBefore

section Outcomes

variable {ε ε' α β : Type}

lemma bind_eq_ok {x : Except ε α} {f : α → Except ε β} {b : β} :
    x >>= f = .ok b ↔ ∃ a, x = .ok a ∧ f a = .ok b := by
  cases x <;> simp [Bind.bind, Except.bind]

lemma mapError_eq_ok {x : Except ε α} {f : ε → ε'} {a : α} :
    x.mapError f = .ok a ↔ x = .ok a := by
  cases x <;> simp [Except.mapError]

/-- A result that is no cancellation. -/
def Uncancelled (x : Except Fault α) : Prop := ∀ fault, x = .error fault → fault.isCancellation = false

lemma uncancelled_ok (a : α) : Uncancelled (.ok a : Except Fault α) := by
  intro fault h
  contradiction

lemma uncancelled_error {fault : Fault} (h : fault.isCancellation = false) :
    Uncancelled (.error fault : Except Fault α) := by
  intro other hother
  cases hother
  exact h

lemma uncancelled_mapError {x : Except ε α} {f : ε → Fault}
    (h : ∀ why, (f why).isCancellation = false) : Uncancelled (x.mapError f) := by
  cases x with
  | error why => exact uncancelled_error (h why)
  | ok a => exact uncancelled_ok a

lemma uncancelled_bind {x : Except Fault α} {f : α → Except Fault β} (hx : Uncancelled x)
    (hf : ∀ a, Uncancelled (f a)) : Uncancelled (x >>= f) := by
  cases x with
  | error fault =>
    intro other hother
    cases hother
    exact hx fault rfl
  | ok a => exact hf a

end Outcomes

lemma plan_uncancelled (strategy : Strategy) (registry : Registry) (call : Call)
    (turns : List Turn) : Uncancelled (strategy.plan registry call turns).2 := by
  cases strategy with
  | threshold settings =>
    apply uncancelled_bind (uncancelled_mapError fun _ => rfl)
    intro window
    refine uncancelled_bind ?_ fun limits => uncancelled_ok _
    apply uncancelled_bind (uncancelled_mapError fun _ => rfl)
    intro buffer
    exact uncancelled_bind (uncancelled_mapError fun _ => rfl) fun _ => uncancelled_ok _
  | slidingWindow settings limit positive => exact uncancelled_ok _

lemma boundary_uncancelled (settings : Settings) (limit count : Nat) (turns : List Turn) :
    Uncancelled (Pending.boundary settings limit count turns) := by
  apply uncancelled_bind (uncancelled_mapError fun _ => rfl)
  intro keep
  apply uncancelled_bind (uncancelled_mapError fun _ => rfl)
  intro wanted
  exact uncancelled_mapError fun _ => rfl

lemma requestFor_uncancelled (settings : Settings) (previous : Text) (old : List Turn)
    (window : Except WindowFault Quantity) :
    Uncancelled (Pending.requestFor settings previous old window) := by
  apply uncancelled_bind (uncancelled_mapError fun _ => rfl)
  intro window
  apply uncancelled_bind (uncancelled_mapError fun _ => rfl)
  intro buffer
  exact uncancelled_mapError fun _ => rfl

lemma measure_uncancelled (call : Call) (turns : List Turn) : Uncancelled (measure call turns) :=
  uncancelled_mapError fun _ => rfl

/-- If the window keeps an integer number of turns, its boundary is the nearest safe one. -/
lemma boundary_of_integer {settings : Settings} {limit : Nat} {keep : Quantity} {n : Int}
    (hkeep : settings.tuning.slidingKeep limit = .ok keep) (hn : keep.integer? = some n)
    (count : Nat) (turns : List Turn) :
    Pending.boundary settings limit count turns = .ok (safeBoundary turns (max 0 (count - n))) := by
  have hsub : (Quantity.whole count).sub keep = .ok (.whole (count - n)) := by
    unfold Quantity.sub
    rw [hn]
    rfl
  have hmax : (Quantity.whole 0).max (.whole (count - n)) = .whole (max 0 (count - n)) := by
    unfold Quantity.max
    rw [Quantity.lt_whole]
    split <;> grind
  unfold Pending.boundary
  rw [hkeep]
  change (Except.mapError _ ((Quantity.whole count).sub keep) >>= _) = _
  rw [hsub]
  change Except.mapError _ (boundaryBefore turns ((Quantity.whole 0).max _)) = _
  rw [hmax]
  rfl

/-- The threshold strategy cuts at the boundary for its budget. -/
lemma summarizeOver_go {settings : Settings} {limits : Limits} {call : Call} {previous : Text}
    {tokens : Nat} {turns : List Turn} {job : Job}
    (h : (Pending.summarizeOver settings limits call previous tokens turns).next = .go job) :
    job.request.previous = previous ∧ job.turnCount = none ∧ job.request.turns ≠ [] ∧
      ∃ budget, job.kept = turns.drop (budgetBoundary turns budget) := by
  unfold Pending.summarizeOver at h
  split at h
  · contradiction
  case h_2 budget hbudget =>
    dsimp only at h
    split at h
    · contradiction
    case isFalse hsome =>
      split at h
      · contradiction
      case h_2 request hrequest =>
        simp only [Request.make, bind_eq_ok] at hrequest
        obtain ⟨size, -, hpure⟩ := hrequest
        cases hpure
        cases h
        exact ⟨rfl, rfl, by simpa using hsome, budget, rfl⟩

/-- A window that is due leads to a job if there is something old and a request can be made. -/
lemma summarizeBefore_go {settings : Settings} {limit count : Nat} {registry : Registry}
    {call : Call} {previous : Text} {turns : List Turn} {job : Job} :
    (Pending.summarizeBefore settings limit count registry call previous turns).next = .go job ↔
      ∃ tokens index request, measure call turns = .ok tokens ∧
        Pending.boundary settings limit count turns = .ok index ∧ (cut turns index).1 ≠ [] ∧
        Pending.requestFor settings previous (cut turns index).1
          (settings.window registry call.model).2 = .ok request ∧
        job = ⟨.slidingWindow, request, settings.timeout, (cut turns index).2, tokens,
          conversationTextTokens (cut turns index).1, some count⟩ := by
  unfold Pending.summarizeBefore
  cases measure call turns with
  | error fault => simp
  | ok tokens =>
    cases Pending.boundary settings limit count turns with
    | error fault => simp
    | ok index =>
      by_cases hold : (cut turns index).1 = []
      · simp [hold]
      · cases hrequest : Pending.requestFor settings previous (cut turns index).1
          (settings.window registry call.model).2 with
        | error fault => simp [hold, hrequest]
        | ok request =>
          simp only [hold, hrequest, List.isEmpty_iff, if_false, Next.go.injEq, Except.ok.injEq,
            exists_and_left, exists_eq_left', not_false_eq_true, ne_eq, true_and]
          exact eq_comm

/-- What can come of the first look at the record. -/
inductive Checked (call : Call) (first : Record) (turns : List Turn) :
    Strategy → Stretch Pending → Prop where
  | stop (strategy : Strategy) :
      Checked call first turns strategy ⟨inject first.summary turns, [], .stop⟩
  | fail (settings : Settings) {fault : Fault} (hfault : fault.isCancellation = false) :
      Checked call first turns (.threshold settings) ⟨inject first.summary turns, [], .fail fault⟩
  | threshold (settings : Settings) (limits : Limits) {tokens : Nat} (notices : List Notice)
      (hmeasured : measure call (inject first.summary turns) = .ok tokens) :
      Checked call first turns (.threshold settings)
        ⟨inject first.summary turns, notices, .go (.threshold settings limits first.summary tokens)⟩
  | slidingWindow (settings : Settings) (limit : Nat) (positive : 0 < limit)
      (notices : List Notice) :
      Checked call first turns (.slidingWindow settings limit positive)
        ⟨turns, notices, .go (.slidingWindow settings limit turns.length)⟩

/-- What can come of the second look at the record. -/
inductive Rechecked (call : Call) (looks : Looks) (turns : List Turn)
    (strategy : Strategy) : Stretch Job → Prop where
  | stop (notices : List Notice) :
      Rechecked call looks turns strategy
        ⟨openedTurns strategy looks turns, notices, .stop⟩
  | fail (notices : List Notice) {fault : Fault} (hfault : fault.isCancellation = false) :
      Rechecked call looks turns strategy
        ⟨cutTurns strategy looks turns, notices, .fail fault⟩
  | go (notices : List Notice) {bound : Nat} {job : Job}
      (hjob : Prepared strategy.settings call looks.second.summary
        (cutTurns strategy looks turns) bound job) :
      Rechecked call looks turns strategy
        ⟨cutTurns strategy looks turns, notices, .go job⟩

lemma check_checked {strategy : Strategy} {registry : Registry} {call : Call} {turns : List Turn}
    {plan : Plan} (hplan : (strategy.plan registry call turns).2 = .ok plan) (first : Record) :
    Checked call first turns strategy (plan.check call first turns) := by
  cases strategy with
  | threshold settings =>
    simp only [Strategy.plan, bind_eq_ok, mapError_eq_ok] at hplan
    obtain ⟨window, -, limits, -, hpure⟩ := hplan
    cases hpure
    unfold Plan.check
    dsimp only
    cases hmeasure : measure call (inject first.summary turns) with
    | error fault => exact .fail settings (measure_uncancelled call _ fault hmeasure)
    | ok tokens =>
      dsimp only
      split
      · exact .stop _
      · split
        · exact .fail settings rfl
        · exact .threshold settings limits _ hmeasure
  | slidingWindow settings limit positive =>
    cases hplan
    unfold Plan.check
    dsimp only
    split
    · exact .stop _
    · exact .slidingWindow settings limit positive _

lemma summarizeOver_rechecked {settings : Settings} (limits : Limits) {call : Call}
    {looks : Looks} {turns before : List Turn} {tokens : Nat}
    (hbefore : cutTurns (.threshold settings) looks turns = before)
    (hmeasured : measure call before = .ok tokens) :
    Rechecked call looks turns (.threshold settings)
      (Pending.summarizeOver settings limits call looks.second.summary tokens before) := by
  subst hbefore
  unfold Pending.summarizeOver
  split
  case h_1 why hwhy => exact .fail _ rfl
  case h_2 budget hbudget =>
    dsimp only
    split
    case isTrue hnone => exact .stop _
    case isFalse hsome =>
      split
      case h_1 why hwhy => exact .fail _ rfl
      case h_2 request hrequest =>
        simp only [Request.make, bind_eq_ok] at hrequest
        obtain ⟨size, -, hpure⟩ := hrequest
        cases hpure
        exact .go _ ⟨budgetBoundary_safe _ _, rfl, by simpa using hsome, rfl, rfl, rfl, hmeasured⟩

lemma summarizeBefore_rechecked (settings : Settings) (limit : Nat) (positive : 0 < limit)
    (registry : Registry) (call : Call) (looks : Looks) (turns : List Turn) :
    Rechecked call looks turns (.slidingWindow settings limit positive)
      (Pending.summarizeBefore settings limit turns.length registry call looks.second.summary turns) := by
  unfold Pending.summarizeBefore
  split
  case h_1 fault hmeasure => exact .fail _ (measure_uncancelled call turns fault hmeasure)
  case h_2 tokens fault hmeasure hbound =>
    exact .fail _ (boundary_uncancelled settings limit turns.length turns fault hbound)
  case h_3 tokens index hmeasure hbound =>
    dsimp only
    split
    case isTrue hnone => exact .stop _
    case isFalse hsome =>
      split
      case h_1 fault hrequest => exact .fail _ (requestFor_uncancelled _ _ _ _ fault hrequest)
      case h_2 request hrequest =>
        simp only [Pending.boundary, bind_eq_ok, mapError_eq_ok] at hbound
        obtain ⟨keep, -, wanted, -, hbefore⟩ := hbound
        simp only [Pending.requestFor, Request.make, bind_eq_ok, mapError_eq_ok] at hrequest
        obtain ⟨window, -, buffer, -, size, -, hpure⟩ := hrequest
        cases hpure
        exact .go _ ⟨boundaryBefore_safe hbefore, rfl, by simpa using hsome, rfl, rfl, rfl, hmeasure⟩

lemma recheck_rechecked {call : Call} (looks : Looks) {turns : List Turn} {strategy : Strategy}
    {after : List Turn} {notices : List Notice} {pending : Pending}
    (h : Checked call looks.first turns strategy ⟨after, notices, .go pending⟩)
    (registry : Registry) :
    Rechecked call looks turns strategy (pending.recheck registry call looks.second after) := by
  cases h with
  | threshold settings limits notices hmeasured =>
    unfold Pending.recheck
    dsimp only
    -- Only if the record has changed in between are the turns measured again.
    split
    case isTrue hsame => exact summarizeOver_rechecked limits (if_pos hsame) hmeasured
    case isFalse hother =>
      have hcut : cutTurns (.threshold settings) looks turns =
          renew looks.second.summary (inject looks.first.summary turns) := if_neg hother
      split
      case h_1 fault hfault =>
        rw [← hcut]
        exact .fail _ (measure_uncancelled call _ fault hfault)
      case h_2 tokens htokens =>
        split
        case isTrue hbelow =>
          rw [← hcut]
          exact .stop _
        case isFalse hreached => exact summarizeOver_rechecked limits hcut htokens
  | slidingWindow settings limit positive notices =>
    unfold Pending.recheck
    dsimp only
    split
    case isTrue hfew => exact .stop _
    case isFalse hmany =>
      exact summarizeBefore_rechecked settings limit positive registry call looks turns

lemma content_uncancelled (answer : Answer) : Uncancelled (Request.content answer) := by
  unfold Request.content
  split
  · exact uncancelled_ok _
  · exact uncancelled_ok _
  · split
    · exact uncancelled_error rfl
    · exact uncancelled_ok _

lemma sizeNotice_uncancelled (request : Request) (answer : Answer) (summary : Value) :
    Uncancelled (request.sizeNotice answer summary) := by
  unfold Request.sizeNotice
  split
  · exact uncancelled_ok _
  · exact uncancelled_ok _
  · split
    · exact uncancelled_error rfl
    · exact uncancelled_ok _

lemma accept_uncancelled (request : Request) (answer : Answer) :
    Uncancelled (request.accept answer).2 := by
  unfold Request.accept
  cases hcontent : Request.content answer with
  | error fault => exact uncancelled_error (content_uncancelled answer fault hcontent)
  | ok summary =>
    dsimp only
    split
    case isTrue hblank =>
      cases hfallback : request.fallback with
      | error why => exact uncancelled_error rfl
      | ok t => exact uncancelled_ok _
    case isFalse htext =>
      cases hnotice : request.sizeNotice answer summary with
      | error fault => exact uncancelled_error (sizeNotice_uncancelled request answer summary fault hnotice)
      | ok notices => exact uncancelled_ok _

/-- A summary is missing because of a cancellation only if the provider was cancelled. -/
lemma receive_cancelled {request : Request} {limit : Option Quantity} {reply : Reply} {fault : Fault}
    (h : (request.receive limit reply).2 = .error fault) (hfault : fault.isCancellation = true) :
    ∃ message, reply = .cancelled message := by
  cases reply with
  | answer answer =>
    unfold Request.receive at h
    dsimp only at h
    split at h
    · cases h
      contradiction
    · rw [accept_uncancelled request answer fault h] at hfault
      contradiction
  | failed why =>
    cases h
    contradiction
  | timedOut =>
    cases h
    contradiction
  | cancelled message => exact ⟨message, rfl⟩
  | silent =>
    cases h
    contradiction

lemma refused_uncancelled {limit : Option Quantity} {fault : Fault}
    (h : refused? limit = some fault) : fault.isCancellation = false := by
  unfold refused? at h
  split at h
  · contradiction
  · split at h
    · cases h
      rfl
    · split at h
      · contradiction
      · cases h
        rfl

/-- A sum of sizes is a size if every item has one. -/
lemma sumTokens_ok {α : Type} {size : α → Except Unshown Nat} {xs : List α} :
    (∃ total, sumTokens size xs = .ok total) ↔ ∀ x ∈ xs, ∃ tokens, size x = .ok tokens := by
  induction xs with
  | nil => exact iff_of_true ⟨0, rfl⟩ (List.forall_mem_nil _)
  | cons x xs ih =>
    rw [List.forall_mem_cons, ← ih, sumTokens]
    cases size x with
    | error why => simp [bind, Except.bind]
    | ok first => cases sumTokens size xs <;> simp [bind, Except.bind, pure, Except.pure]

lemma conversationTokens_ok {turns : List Turn} {system : Text} :
    (∃ total, conversationTokens turns system = .ok total) ↔
      ∀ turn ∈ turns, ∃ tokens, turn.tokens = .ok tokens := by
  rw [← sumTokens_ok]
  unfold conversationTokens
  cases sumTokens Turn.tokens turns <;> simp [Except.map]

/-- The tokens of a conversation that can be measured. -/
def tokensOf (turns : List Turn) (system : Text) : Nat :=
  (conversationTokens turns system).toOption.getD 0

/-- What has been measured can be measured again when a summary has taken the place of some of it. -/
lemma conversationTokens_replace {call : Call} {before : List Turn} {tokens : Nat}
    (h : measure call before = .ok tokens) (summary : Text) (bound : Nat) :
    conversationTokens (replace summary (before.drop bound)) call.system =
      .ok (tokensOf (replace summary (before.drop bound)) call.system) := by
  have hbefore : ∃ total, conversationTokens before call.system = .ok total := by
    unfold measure at h
    cases htotal : conversationTokens before call.system with
    | error why =>
      rw [htotal] at h
      contradiction
    | ok total => exact ⟨total, rfl⟩
  -- Turns are measured one by one, and a summary has a size.
  have hafter : ∃ total,
      conversationTokens (replace summary (before.drop bound)) call.system = .ok total := by
    refine conversationTokens_ok.mpr fun turn hturn => ?_
    rcases List.mem_cons.mp hturn with rfl | hkept
    · exact ⟨_, rfl⟩
    · exact conversationTokens_ok.mp hbefore turn (List.mem_of_mem_drop hkept)
  obtain ⟨total, htotal⟩ := hafter
  unfold tokensOf
  rw [htotal]
  rfl

lemma Prepared.pos {settings : Settings} {call : Call} {previous : Text} {before : List Turn}
    {bound : Nat} {job : Job} (h : Prepared settings call previous before bound job) :
    0 < bound := by
  rcases Nat.eq_zero_or_pos bound with rfl | hpos
  · exact absurd h.old h.exists_old
  · exact hpos

/-- The turns that a job leaves can be measured. -/
lemma Prepared.tokens_eq {settings : Settings} {call : Call} {previous : Text} {before : List Turn}
    {bound : Nat} {job : Job} (h : Prepared settings call previous before bound job)
    (summary : Value) :
    conversationTokens (job.compacted summary) call.system =
      .ok (tokensOf (job.compacted summary) call.system) := by
  have hmeasured := conversationTokens_replace h.measured summary.plain bound
  rw [← h.kept] at hmeasured
  exact hmeasured

/-- Once the turns have been measured, nothing can go wrong behind the summary. -/
lemma Prepared.result_eq {settings : Settings} {call : Call} {previous : Text} {before : List Turn}
    {bound : Nat} {job : Job} (h : Prepared settings call previous before bound job)
    (summary : Value) :
    job.result call summary = .ok {
      strategy := job.kind
      summary := summary
      tokensBefore := job.tokensBefore
      tokensAfter := tokensOf (job.compacted summary) call.system
      summarized := job.request.turns.length
      kept := job.kept.length } := by
  unfold Job.result measure
  rw [h.tokens_eq]
  rfl

/-- A store after the summary of a job has been kept. -/
def savedIn (agent : Text) (job : Job) (summary : Value) (store : Store) : Store :=
  (job.saveTurns agent (job.saveSummary agent summary store).2).2

/-- The ways in which a compaction may end. -/
inductive Course (strategy : Strategy) (call : Call) (provider : Request → Reply)
    (turns : List Turn) (store : Store) (looks : Looks) :
    Run (Option Compaction) → Prop where
  -- The window or the limits cannot be computed, and the record is not looked at.
  | unplanned (notices : List Notice) {fault : Fault} (hfault : fault.isCancellation = false) :
      Course strategy call provider turns store looks
        ⟨turns, store, notices, none, .error fault⟩
  -- After the first look nothing is due, or the turns cannot be measured.
  | idle (notices : List Notice) :
      Course strategy call provider turns store looks
        ⟨inject looks.first.summary turns, looks.once, notices, none, .ok none⟩
  | unmeasured (notices : List Notice) {fault : Fault} (hfault : fault.isCancellation = false) :
      Course strategy call provider turns store looks
        ⟨inject looks.first.summary turns, looks.once, notices, none, .error fault⟩
  -- After the second look nothing is left to do, or the request cannot be made.
  | idleAfterAll (notices : List Notice) :
      Course strategy call provider turns store looks
        ⟨openedTurns strategy looks turns, looks.twice, notices, none, .ok none⟩
  | unprepared (notices : List Notice) {fault : Fault} (hfault : fault.isCancellation = false) :
      Course strategy call provider turns store looks
        ⟨cutTurns strategy looks turns, looks.twice, notices, none, .error fault⟩
  -- No summary comes back, or it is kept.
  | unanswered (notices : List Notice) (sent : Option Request) {bound : Nat} {job : Job}
      (hjob : Prepared strategy.settings call looks.second.summary
        (cutTurns strategy looks turns) bound job) {fault : Fault}
      (hfault : fault.isCancellation = true →
        ∃ message, provider job.request = .cancelled message) :
      Course strategy call provider turns store looks
        ⟨cutTurns strategy looks turns, looks.twice, notices, sent, .error fault⟩
  | compacted (notices : List Notice) {bound : Nat} {job : Job}
      (hjob : Prepared strategy.settings call looks.second.summary
        (cutTurns strategy looks turns) bound job) {summary : Value} {result : Compaction}
      (hsummary : (job.request.receive job.timeout (provider job.request)).2 = .ok summary)
      (hresult : job.result call summary = .ok result) :
      Course strategy call provider turns store looks
        ⟨job.compacted summary, savedIn call.agent job summary looks.twice, notices,
          some job.request, .ok (some result)⟩

section Courses

variable {strategy : Strategy} {call : Call} {provider : Request → Reply} {turns : List Turn}
  {store : Store} {looks : Looks}

lemma Course.report {run : Run (Option Compaction)}
    (h : Course strategy call provider turns store looks run) (notices : List Notice) :
    Course strategy call provider turns store looks { run with notices } := by
  cases h with
  | unplanned _ hfault => exact .unplanned _ hfault
  | idle => exact .idle _
  | unmeasured _ hfault => exact .unmeasured _ hfault
  | idleAfterAll => exact .idleAfterAll _
  | unprepared _ hfault => exact .unprepared _ hfault
  | unanswered _ sent hjob hfault => exact .unanswered _ sent hjob hfault
  | compacted _ hjob hsummary hresult => exact .compacted _ hjob hsummary hresult

lemma conclude_eq {job : Job} {summary : Value} {result : Compaction}
    (hresult : job.result call summary = .ok result) (store : Store) :
    ∃ notices, job.conclude call summary store =
      ⟨job.compacted summary, savedIn call.agent job summary store, notices, none,
        .ok (some result)⟩ := by
  unfold Job.conclude
  rw [hresult]
  exact ⟨_, rfl⟩

lemma perform_course {bound : Nat} {job : Job}
    (hjob : Prepared strategy.settings call looks.second.summary
      (cutTurns strategy looks turns) bound job) (provider : Request → Reply) :
    Course strategy call provider turns store looks
      (job.perform call provider (cutTurns strategy looks turns) looks.twice) := by
  unfold Job.perform ask
  cases hrefused : refused? job.timeout with
  | some fault =>
    refine .unanswered _ _ hjob fun hfault => ?_
    rw [refused_uncancelled hrefused] at hfault
    contradiction
  | none =>
    rcases hreceive : job.request.receive job.timeout (provider job.request) with
      ⟨notices, fault | summary⟩
    · exact .unanswered _ _ hjob (receive_cancelled (congrArg Prod.snd hreceive))
    · have hresult := hjob.result_eq summary
      obtain ⟨told, hconclude⟩ := conclude_eq hresult looks.twice
      dsimp only
      rw [hconclude]
      exact .compacted _ hjob (congrArg Prod.snd hreceive) hresult

lemma Rechecked.course {stretch : Stretch Job}
    (h : Rechecked call looks turns strategy stretch) :
    Course strategy call provider turns store looks
      (stretch.perform call provider looks.twice) := by
  cases h with
  | stop notices => exact .idleAfterAll _
  | fail notices hfault => exact .unprepared _ hfault
  | go notices hjob => exact (perform_course hjob provider).report _

lemma confirm_go (registry : Registry) (provider : Request → Reply) (after : List Turn)
    (told : List Notice) (pending : Pending) (store : Store) :
    ∃ notices, Stretch.confirm ⟨after, told, .go pending⟩ registry call provider store =
      { (pending.recheck registry call (recordIn call.agent store) after).perform call provider
          (lookedAt call.agent store) with notices } := by
  unfold Stretch.confirm recordIn lookedAt
  dsimp only
  generalize Record.load call.agent store = loaded
  exact ⟨_, rfl⟩

lemma Checked.course {stretch : Stretch Pending}
    (h : Checked call (looksAt call.agent store).first turns strategy stretch)
    (registry : Registry) :
    Course strategy call provider turns store (looksAt call.agent store)
      (stretch.confirm registry call provider (looksAt call.agent store).once) := by
  rcases stretch with ⟨after, told, _ | fault | pending⟩
  · cases h
    exact .idle _
  · cases h with
    | fail settings hfault => exact .unmeasured _ hfault
  · rw [looksAt_once]
    obtain ⟨notices, hconfirm⟩ :=
      confirm_go registry provider after told pending (lookedAt call.agent store)
    rw [hconfirm, ← looksAt_second, ← looksAt_twice]
    generalize looksAt call.agent store = looks at h ⊢
    have hcourse : Course strategy call provider turns store looks
        ((pending.recheck registry call looks.second after).perform call provider looks.twice) :=
      (recheck_rechecked looks h registry).course
    exact hcourse.report notices

end Courses

/-- Every compaction takes one of these courses. -/
theorem compact_course (strategy : Strategy) (registry : Registry) (call : Call)
    (provider : Request → Reply) (turns : List Turn) (store : Store) :
    Course strategy call provider turns store (looksAt call.agent store)
      (strategy.compact registry call provider turns store) := by
  have hplanned := plan_uncancelled strategy registry call turns
  unfold Strategy.compact
  rcases hplan : strategy.plan registry call turns with ⟨notices, fault | plan⟩
  · rw [hplan] at hplanned
    exact .unplanned _ (hplanned fault rfl)
  · have hchecked := check_checked (congrArg Prod.snd hplan) (looksAt call.agent store).first
    exact (hchecked.course registry).report _

def compaction? (run : Run (Option Compaction)) : Option Compaction :=
  match run.outcome with
  | .ok result => result
  | .error _ => none

lemma exists_compaction {run : Run (Option Compaction)} (h : (compaction? run).isSome = true) :
    ∃ result, run.outcome = .ok (some result) := by
  unfold compaction? at h
  cases hrun : run.outcome with
  | error fault =>
    rw [hrun] at h
    contradiction
  | ok result =>
    rw [hrun] at h
    obtain ⟨value, rfl⟩ := Option.isSome_iff_exists.mp h
    exact ⟨value, rfl⟩

/-- Settings without fractions, under which three turns stay when a sliding window moves. -/
def wholeSettings : Settings where
  model := "m"
  summaryModel := "m"
  windowOverride := some (.whole 8)
  tuning := {
    smallWindowRatio := .whole 0
    recentRatio := .whole 0
    summaryRatio := .whole 0
    wordsPerToken := .whole 0
    slidingRatio := .whole 0 }

end Condense.Proofs
