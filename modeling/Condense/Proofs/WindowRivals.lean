import Condense.Proofs.Rivals

/-!
# One compaction is enough

Sliding windows over conversations of the same length count the same turns. Whoever of them compacts
first sets the mark at that length, so that every other call that looks at the record behind the
lock finds nothing due and takes over the summary.
-/

namespace Condense.Proofs
open Summary

section Windows

variable (settings : Settings) (limit count : Nat)

/-- Where a call is that counts so many turns: until a summary has come, its list is as it was. -/
inductive Along (call : Call) (turns : List Turn) : Phase → List Turn → Prop where
  | ready : Along call turns .ready turns
  | loading : Along call turns (.loading (.slidingWindow settings limit count)) turns
  | queued : Along call turns (.queued (.slidingWindow settings limit count)) turns
  | reloading : Along call turns (.reloading (.slidingWindow settings limit count)) turns
  | asking {previous : Text} {bound : Nat} {job : Job} {reply : Reply}
      (hjob : Prepared settings call previous turns bound job)
      (hcount : job.turnCount = some count) (hreply : Textual reply) :
      Along call turns (.asking job reply) turns
  | saving {previous : Text} {bound : Nat} {job : Job} {summary : Text}
      (hjob : Prepared settings call previous turns bound job)
      (hcount : job.turnCount = some count) (hsummary : summary ≠ []) :
      Along call turns (.saving job (.text summary)) turns
  | counting {previous : Text} {bound : Nat} {job : Job} {summary : Text}
      (hjob : Prepared settings call previous turns bound job)
      (hcount : job.turnCount = some count) (hsummary : summary ≠ []) :
      Along call turns (.counting job (.text summary)) turns
  | finished (outcome : Except Fault (Option Compaction)) (after : List Turn) :
      Along call turns (.finished outcome) after

end Windows

/-- The summary of a call has come, and nothing stops the call any more. -/
inductive Won (summary : Text) : Phase → Prop where
  | saving (job : Job) : Won summary (.saving job (.text summary))
  | counting (job : Job) : Won summary (.counting job (.text summary))
  | finished {result : Compaction} (h : result.summary = .text summary) :
      Won summary (.finished (.ok (some result)))

/-- The summary that has come, if it is a text. -/
def summaryIn? : Phase → Option Text
  | .saving _ (.text t) | .counting _ (.text t) => some t
  | .finished (.ok (some ⟨_, .text t, _, _, _, _⟩)) => some t
  | _ => none

lemma won_iff {summary : Text} {phase : Phase} : Won summary phase ↔ summaryIn? phase = some summary := by
  constructor
  · intro h
    cases h with
    | saving job => rfl
    | counting job => rfl
    | @finished result h =>
      obtain ⟨kind, found, before, after, old, kept⟩ := result
      obtain rfl : found = .text summary := h
      rfl
  · intro h
    unfold summaryIn? at h
    split at h
    all_goals cases h
    · exact .saving _
    · exact .counting _
    · exact .finished rfl

instance (summary : Text) (phase : Phase) : Decidable (Won summary phase) :=
  decidable_of_iff _ won_iff.symm

/-- The call has asked for a summary and has not failed. -/
def pursues : Phase → Bool
  | .asking .. | .saving .. | .counting .. | .finished (.ok (some _)) => true
  | _ => false

lemma Won.pursues {summary : Text} {phase : Phase} (h : Won summary phase) :
    pursues phase = true := by
  cases h <;> rfl

lemma pursues_cases {phase : Phase} (h : pursues phase = true) :
    isInside phase = true ∨ ∃ result, phase = .finished (.ok (some result)) := by
  unfold pursues at h
  split at h
  · exact Or.inl rfl
  · exact Or.inl rfl
  · exact Or.inl rfl
  · exact Or.inr ⟨_, rfl⟩
  · contradiction

lemma pursues_of_isWriting {phase : Phase} (h : isWriting phase = true) : pursues phase = true := by
  cases phase with
  | saving | counting => rfl
  | _ => contradiction

/-- At an equal number of turns nothing is due. -/
lemma recheck_of_counted (settings : Settings) (limit count : Nat) (registry : Registry) (call : Call)
    {record : Record} (hcounted : record.turnsAt = count) (turns : List Turn) :
    Pending.recheck (.slidingWindow settings limit count) registry call record turns =
      ⟨inject record.summary turns, [], .stop⟩ := by
  have hsince : turnsSince count record.turnsAt ≤ limit := by
    unfold turnsSince
    rw [hcounted, if_neg (Nat.lt_irrefl count), Nat.sub_self]
    exact Nat.zero_le limit
  unfold Pending.recheck
  dsimp only
  rw [if_pos hsince]

lemma summarizeBefore_prepared {settings : Settings} {limit : Nat} (positive : 0 < limit)
    {registry : Registry} {call : Call} {previous : Text} {turns : List Turn} {job : Job}
    (h : (Pending.summarizeBefore settings limit turns.length registry call previous turns).next =
      .go job) : ∃ bound, Prepared settings call previous turns bound job := by
  let record : Record := { summary := previous }
  have hrechecked : Rechecked call ⟨record, .empty, record, .empty⟩ turns
      (.slidingWindow settings limit positive)
      (Pending.summarizeBefore settings limit turns.length registry call previous turns) :=
    summarizeBefore_rechecked settings limit positive registry call _ turns
  generalize Pending.summarizeBefore settings limit turns.length registry call previous turns =
    stretch at h hrechecked
  cases hrechecked with
  | stop => contradiction
  | fail => contradiction
  | @go notices bound other hjob =>
    cases h
    exact ⟨bound, hjob⟩

/-- The second look leads to a job only if the window has moved on, and the list stays as it is. -/
lemma recheck_window_go (settings : Settings) (limit : Nat) (positive : 0 < limit)
    (registry : Registry) (call : Call) (record : Record) (turns : List Turn) {job : Job}
    (h : (Pending.recheck (.slidingWindow settings limit turns.length) registry call record
      turns).next = .go job) :
    (Pending.recheck (.slidingWindow settings limit turns.length) registry call record turns).turns =
        turns ∧
      job.turnCount = some turns.length ∧
      ∃ bound, Prepared settings call record.summary turns bound job := by
  -- The first look and the stores do not matter to a window.
  let looks : Looks := ⟨record, .empty, record, .empty⟩
  have hrechecked : Rechecked call looks turns (.slidingWindow settings limit positive)
      (Pending.recheck (.slidingWindow settings limit turns.length) registry call record turns) :=
    recheck_rechecked looks (.slidingWindow settings limit positive []) registry
  have hcount : job.turnCount = some turns.length := by
    unfold Pending.recheck at h
    dsimp only at h
    split at h
    · contradiction
    · obtain ⟨tokens, index, request, -, -, -, -, rfl⟩ := summarizeBefore_go.mp h
      rfl
  generalize Pending.recheck (.slidingWindow settings limit turns.length) registry call record
    turns = stretch at h hrechecked ⊢
  cases hrechecked with
  | stop => contradiction
  | fail => contradiction
  | @go notices bound other hjob =>
    cases h
    exact ⟨rfl, hcount, bound, hjob⟩

section Step

variable {settings : Settings} {limit count : Nat} {positive : 0 < limit} {registry : Registry}
  {otherwise : Reply} {call : Call} {id : Nat} {view after : View} {phase next : Phase}
  {turns : List Turn}

lemma Along.step (halong : Along settings limit count call turns phase view.turns)
    (h : Stepped (.slidingWindow settings limit positive) registry otherwise call id view phase after
      next)
    (hcount : turns.length = count) (hreplies : ∀ reply ∈ view.script, Textual reply)
    (hotherwise : Textual otherwise) : Along settings limit count call turns next after.turns := by
  cases h with
  | finished | unplanned | checked | rechecked | refused | unanswered | counted =>
    exact .finished _ _
  | planned hplan =>
    generalize view.turns = now at halong hplan ⊢
    cases halong
    cases hplan
    rw [hcount]
    exact .loading
  | enters hstretch hgo =>
    generalize view.turns = now at halong hstretch ⊢
    cases halong
    subst hstretch
    unfold Plan.check at hgo ⊢
    dsimp only at hgo ⊢
    split at hgo
    case isTrue => contradiction
    case isFalse hmany =>
      cases hgo
      rw [if_neg hmany]
      exact .queued
  | waits => exact halong
  | admitted =>
    generalize view.turns = now at halong ⊢
    cases halong
    exact .reloading
  | asks hstretch hgo hrefused =>
    generalize view.turns = now at halong hstretch ⊢
    cases halong
    subst hstretch hcount
    obtain ⟨hturns, hturnCount, bound, hjob⟩ :=
      recheck_window_go settings limit positive registry call _ turns hgo
    dsimp only
    rw [hturns]
    refine .asking hjob hturnCount ?_
    cases hscript : view.script with
    | nil => exact hotherwise
    | cons reply rest => exact hreplies reply (by rw [hscript]; exact List.mem_cons_self)
  | answered hsummary =>
    generalize view.turns = now at halong ⊢
    cases halong with
    | asking hjob hturnCount hreply =>
      obtain ⟨summary, rfl⟩ := summary_eq_text hreply hsummary
      exact .saving hjob hturnCount (plain_ne_nil hsummary hjob.exists_old)
  | saved summary hnone =>
    generalize view.turns = now at halong
    cases halong with
    | saving hjob hturnCount hsummary =>
      rw [hturnCount] at hnone
      contradiction
  | counts summary hsome =>
    generalize view.turns = now at halong
    cases halong with
    | saving hjob hturnCount hsummary => exact .counting hjob hturnCount hsummary

lemma ended?_ne_some {α : Type} {next : Next α} {outcome : Except Fault (Option Compaction)}
    (h : ended? next = some outcome) (result : Compaction) : outcome ≠ .ok (some result) := by
  cases next <;> cases h <;> simp

/-- A call begins to pursue a compaction when it asks for a summary, and only then asks for one. -/
lemma Stepped.quiet_or_asks {strategy : Strategy}
    (h : Stepped strategy registry otherwise call id view phase after next) :
    (after.sent = view.sent ∧ (pursues next = true → pursues phase = true)) ∨
      ∃ pending job, phase = .reloading pending ∧
        (pending.recheck registry call (recordIn call.agent view.store) view.turns).next = .go job := by
  cases h with
  | asks hstretch hgo hrefused =>
    subst hstretch
    exact Or.inr ⟨_, _, rfl, hgo⟩
  | finished => exact Or.inl ⟨rfl, fun hnext => hnext⟩
  | answered | saved | counts | counted => exact Or.inl ⟨rfl, fun _ => rfl⟩
  | checked hstretch hended | rechecked hstretch hended =>
    refine Or.inl ⟨rfl, fun hnext => ?_⟩
    rcases pursues_cases hnext with hinside | ⟨result, hresult⟩
    · contradiction
    · exact absurd (Phase.finished.inj hresult) (ended?_ne_some hended result)
  | _ => exact Or.inl ⟨rfl, fun hnext => by contradiction⟩

lemma Stepped.kept {strategy : Strategy} {job : Job} {summary : Text}
    (h : Stepped strategy registry otherwise call id view phase after
      (.counting job (.text summary)))
    (hstore : Dependable call.agent view.store) :
    (recordIn call.agent after.store).summary = summary := by
  cases h with
  | counts _ hcount =>
    have hrecord := hstore.recordIn_savedSummary job (.text summary)
    dsimp only
    rw [hrecord]
    rfl

end Step

/-- The record after a call has compacted: the mark and its own summary. -/
structure Settled (count : Nat) (record : Record) (result : Compaction) : Prop where
  counted : record.turnsAt = count
  summary : result.summary = .text record.summary
  nonempty : record.summary ≠ []

/-- A call that ends with a compaction leaves its summary and the mark behind. -/
lemma Along.settles {settings : Settings} {limit count : Nat} {positive : 0 < limit}
    {registry : Registry} {otherwise : Reply} {call : Call} {id : Nat} {view after : View}
    {phase : Phase} {turns : List Turn} {result : Compaction}
    (halong : Along settings limit count call turns phase view.turns)
    (h : Stepped (.slidingWindow settings limit positive) registry otherwise call id view phase after
      (.finished (.ok (some result))))
    (hstore : Dependable call.agent view.store)
    (hkept : ∀ job summary, phase = .counting job (.text summary) →
      (recordIn call.agent view.store).summary = summary) :
    phase = .finished (.ok (some result)) ∨ Settled count (recordIn call.agent after.store) result := by
  generalize houtcome : Except.ok (some result) = outcome at h
  cases h with
  | finished => exact Or.inl rfl
  | unplanned | refused | unanswered => contradiction
  | checked hstretch hended | rechecked hstretch hended =>
    exact absurd houtcome.symm (ended?_ne_some hended result)
  | saved summary hnone =>
    generalize view.turns = now at halong
    cases halong with
    | saving hjob hturnCount hsummary =>
      rw [hturnCount] at hnone
      contradiction
  | counted job summary =>
    right
    generalize view.turns = now at halong
    cases halong with
    | @counting _ _ _ summary hjob hturnCount hsummary =>
      have hsame := hkept job summary rfl
      have hrecord := hstore.recordIn_savedTurns hturnCount
      unfold concluded at houtcome
      rw [hjob.result_eq] at houtcome
      cases houtcome
      dsimp only [View.left]
      rw [hrecord]
      exact ⟨rfl, by rw [hsame], by rwa [hsame]⟩

/-- The rivals of a sliding window on their way. -/
structure Contest (session : Session) (errands : List Errand) (agent store : Text)
    (installed : Installed) (settings : Settings) (limit count : Nat) (pool : Pool) : Prop where
  crew : Crew installed errands pool
  orderly : Orderly installed.lock pool
  dependable : Dependable agent (pool.world.store store)
  replies : ∀ reply ∈ pool.world.script, Textual reply
  otherwise : Textual pool.world.otherwise
  along : ∀ (id : Nat) (errand : Errand) (phase : Phase), errands[id]? = some errand →
    phase? pool id = some phase →
    Along settings limit count errand.call (session.world.turns errand.list) phase
      (pool.world.turns errand.list)
  single : ∀ id other phase phase', phase? pool id = some phase → phase? pool other = some phase' →
    pursues phase = true → pursues phase' = true → id = other
  kept : ∀ id job summary, phase? pool id = some (.counting job (.text summary)) →
    (recordIn agent (pool.world.store store)).summary = summary
  settled : ∀ id result, phase? pool id = some (.finished (.ok (some result))) →
    Settled count (recordIn agent (pool.world.store store)) result

section Contest

variable {session : Session} {errands : List Errand} {agent store : Text} {lock : Nat}
  {settings : Settings} {limit count : Nat} {positive : 0 < limit} {pool : Pool}

/-- Nobody can ask for a summary while another one pursues a compaction. -/
lemma Contest.asks_alone
    (h : Contest session errands agent store ⟨lock, .slidingWindow settings limit positive⟩ settings
      limit count pool)
    {id other : Nat} {errand : Errand} {pending : Pending} {phase : Phase} {job : Job}
    (herrand : errands[id]? = some errand) (hphase : phase? pool id = some (.reloading pending))
    (hgo : (pending.recheck pool.world.registry errand.call
      (recordIn agent (pool.world.store store)) (pool.world.turns errand.list)).next = .go job)
    (hother : phase? pool other = some phase) (hpursues : pursues phase = true) : other = id := by
  rcases pursues_cases hpursues with hinside | ⟨result, rfl⟩
  · exact h.orderly.unique hother hinside hphase rfl
  · have halong := h.along id errand _ herrand hphase
    generalize pool.world.turns errand.list = now at halong hgo
    cases halong
    rw [recheck_of_counted settings limit count _ _ (h.settled other result hother).counted] at hgo
    contradiction

section Moved

variable {id : Nat} {errand : Errand} {phase next : Phase} {after : Pool}

/-- Whoever pursues a compaction keeps the call that takes a step from asking. -/
lemma Contest.alone
    (h : Contest session errands agent store ⟨lock, .slidingWindow settings limit positive⟩ settings
      limit count pool)
    (hrivals : Rivals session errands agent store ⟨lock, .slidingWindow settings limit positive⟩)
    (herrand : errands[id]? = some errand)
    (hmoved : Moved ⟨lock, .slidingWindow settings limit positive⟩ errand id pool after phase next)
    {other : Nat} {found : Phase} (hother : phase? pool other = some found)
    (hpursues : pursues found = true) (hnext : pursues next = true) : other = id := by
  rcases hmoved.stepped.quiet_or_asks with ⟨-, hnow⟩ | ⟨pending, job, rfl, hgo⟩
  · exact h.single other id found phase hother hmoved.now hpursues (hnow hnext)
  · rw [hrivals.agent_eq herrand, hrivals.view_store herrand] at hgo
    exact h.asks_alone herrand hmoved.now hgo hother hpursues

/-- It also keeps that call from writing. -/
lemma Contest.record_eq
    (h : Contest session errands agent store ⟨lock, .slidingWindow settings limit positive⟩ settings
      limit count pool)
    (hrivals : Rivals session errands agent store ⟨lock, .slidingWindow settings limit positive⟩)
    (herrand : errands[id]? = some errand)
    (hmoved : Moved ⟨lock, .slidingWindow settings limit positive⟩ errand id pool after phase next)
    {other : Nat} {found : Phase} (hne : other ≠ id) (hother : phase? pool other = some found)
    (hpursues : pursues found = true) :
    recordIn agent (after.world.store store) = recordIn agent (pool.world.store store) := by
  apply hrivals.record_move herrand hmoved h.dependable
  cases hwriting : isWriting phase with
  | false => rfl
  | true =>
    exact absurd (h.single other id found phase hother hmoved.now hpursues
      (pursues_of_isWriting hwriting)) hne

end Moved

/-- The rivals stay on their way with every step. -/
theorem Contest.move
    (h : Contest session errands agent store ⟨lock, .slidingWindow settings limit positive⟩ settings
      limit count pool)
    (hrivals : Rivals session errands agent store ⟨lock, .slidingWindow settings limit positive⟩)
    (hlength : ∀ errand ∈ errands, (session.world.turns errand.list).length = count) (id : Nat) :
    Contest session errands agent store ⟨lock, .slidingWindow settings limit positive⟩ settings
      limit count (pool.move (.step id)) := by
  cases herrand : errands[id]? with
  | none =>
    rw [h.crew.move_of_none herrand]
    exact h
  | some errand =>
    obtain ⟨hcrew, phase, next, hmoved⟩ := h.crew.move herrand
    generalize pool.move (.step id) = after at hcrew hmoved ⊢
    have halong := h.along id errand phase herrand hmoved.now
    have hstore : Dependable errand.call.agent (viewOf lock errand pool.world).store := by
      rw [hrivals.agent_eq herrand, hrivals.view_store herrand]
      exact h.dependable
    refine {
      crew := hcrew
      orderly := h.orderly.move hmoved
      dependable := hrivals.dependable_move herrand hmoved h.dependable
      replies := fun reply hreply =>
        h.replies reply (hmoved.stepped.script_subset reply hreply)
      otherwise := by
        rw [hmoved.framed.otherwise]
        exact h.otherwise
      along := ?_, single := ?_, kept := ?_, settled := ?_ }
    · intro other rival found hrival hfound
      rcases hmoved.phase_cases hfound with ⟨rfl, rfl⟩ | ⟨hother, hphase⟩
      · rw [herrand] at hrival
        cases hrival
        exact halong.step hmoved.stepped (hlength errand (List.mem_of_getElem? herrand)) h.replies
          h.otherwise
      · rw [hrivals.turns_move herrand hmoved hrival hother]
        exact h.along other rival found hrival hphase
    · intro one other found found' hone hother hpursues hpursues'
      rcases hmoved.phase_cases hone with ⟨rfl, rfl⟩ | ⟨hid, hphase⟩
      · rcases hmoved.phase_cases hother with ⟨rfl, -⟩ | ⟨-, hphase'⟩
        · rfl
        · exact (h.alone hrivals herrand hmoved hphase' hpursues' hpursues).symm
      · rcases hmoved.phase_cases hother with ⟨rfl, rfl⟩ | ⟨-, hphase'⟩
        · exact h.alone hrivals herrand hmoved hphase hpursues hpursues'
        · exact h.single one other found found' hphase hphase' hpursues hpursues'
    · intro other job summary hcounting
      rcases hmoved.phase_cases hcounting with ⟨rfl, rfl⟩ | ⟨hother, hphase⟩
      · have hkept := hmoved.stepped.kept hstore
        rwa [hrivals.agent_eq herrand, hrivals.view_store herrand] at hkept
      · rw [h.record_eq hrivals herrand hmoved hother hphase rfl]
        exact h.kept other job summary hphase
    · intro other result hresult
      rcases hmoved.phase_cases hresult with ⟨rfl, rfl⟩ | ⟨hother, hphase⟩
      · have hkept : ∀ job summary, phase = .counting job (.text summary) →
            (recordIn errand.call.agent (viewOf lock errand pool.world).store).summary = summary := by
          rintro job summary rfl
          rw [hrivals.agent_eq herrand, hrivals.view_store herrand]
          exact h.kept other job summary hmoved.now
        rcases halong.settles hmoved.stepped hstore hkept with rfl | hsettled
        · rw [hrivals.record_move herrand hmoved h.dependable rfl]
          exact h.settled other result hmoved.now
        · rwa [hrivals.agent_eq herrand, hrivals.view_store herrand] at hsettled
      · rw [h.record_eq hrivals herrand hmoved hother hphase rfl]
        exact h.settled other result hphase

/-- Nothing takes a summary away that has come. -/
lemma Along.won {registry : Registry} {otherwise : Reply} {call : Call} {id : Nat}
    {view after : View} {phase next : Phase} {turns : List Turn} {summary : Text}
    (halong : Along settings limit count call turns phase view.turns)
    (h : Stepped (.slidingWindow settings limit positive) registry otherwise call id view phase after
      next)
    (hwon : Won summary phase) : Won summary next := by
  cases h with
  | finished => exact hwon
  | saved found hnone =>
    generalize view.turns = now at halong
    cases halong with
    | saving hjob hcount hsummary =>
      rw [hcount] at hnone
      contradiction
  | counts =>
    cases hwon
    exact .counting _
  | counted job found =>
    cases hwon
    generalize view.turns = now at halong
    cases halong with
    | counting hjob hcount hsummary =>
      unfold concluded
      rw [hjob.result_eq]
      exact .finished rfl
  | _ => cases hwon

/-- A call has got its summary. -/
def HasWon (pool : Pool) (id : Nat) (summary : Text) : Prop :=
  ∃ phase ∈ phase? pool id, Won summary phase

instance (pool : Pool) (id : Nat) (summary : Text) : Decidable (HasWon pool id summary) :=
  inferInstanceAs (Decidable (∃ phase ∈ phase? pool id, Won summary phase))

lemma Along.of_reloading {call : Call} {turns list : List Turn} {pending : Pending}
    (h : Along settings limit count call turns (.reloading pending) list) :
    list = turns ∧ pending = .slidingWindow settings limit count := by
  cases h
  exact ⟨rfl, rfl⟩

/-- Whoever looks at the record behind the lock when a summary has come finds nothing due. -/
lemma Contest.rechecked
    (h : Contest session errands agent store ⟨lock, .slidingWindow settings limit positive⟩ settings
      limit count pool)
    {winner : Nat} {summary : Text} (hwon : HasWon pool winner summary) {id : Nat} {errand : Errand}
    {pending : Pending} (herrand : errands[id]? = some errand)
    (hphase : phase? pool id = some (.reloading pending)) :
    summary ≠ [] ∧
      pending.recheck pool.world.registry errand.call (recordIn agent (pool.world.store store))
        (pool.world.turns errand.list) =
      ⟨inject summary (session.world.turns errand.list), [], .stop⟩ := by
  obtain ⟨phase, hwinner, hsummary⟩ := hwon
  obtain ⟨hturns, rfl⟩ := (h.along id errand _ herrand hphase).of_reloading
  -- The winner is no longer inside, so that it has kept everything.
  rcases pursues_cases hsummary.pursues with hinside | ⟨result, rfl⟩
  · obtain rfl := h.orderly.unique hwinner hinside hphase rfl
    rw [hwinner] at hphase
    cases hphase
    cases hsummary
  · obtain ⟨hcounted, hresult, hnonempty⟩ := h.settled winner result hwinner
    cases hsummary with
    | finished hother =>
      rw [hresult] at hother
      cases hother
      rw [hturns]
      exact ⟨hnonempty, recheck_of_counted settings limit count _ _ hcounted _⟩

/-- What has been decided when the summary of a call has come: that it stays, and that no one asks
for another one. -/
structure Decided (winner : Nat) (summary : Text) (before pool : Pool) : Prop where
  won : HasWon pool winner summary
  sent : pool.world.sent = before.world.sent

lemma Decided.move {before : Pool} {winner : Nat} {summary : Text}
    (hdecided : Decided winner summary before pool)
    (h : Contest session errands agent store ⟨lock, .slidingWindow settings limit positive⟩ settings
      limit count pool)
    (hrivals : Rivals session errands agent store ⟨lock, .slidingWindow settings limit positive⟩)
    (id : Nat) : Decided winner summary before (pool.move (.step id)) := by
  cases herrand : errands[id]? with
  | none =>
    rw [h.crew.move_of_none herrand]
    exact hdecided
  | some errand =>
    obtain ⟨-, phase, next, hmoved⟩ := h.crew.move herrand
    generalize pool.move (.step id) = after at hmoved ⊢
    obtain ⟨hwon, hsent⟩ := hdecided
    constructor
    · obtain ⟨found, hfound, hsummary⟩ := hwon
      by_cases hwinner : winner = id
      · subst hwinner
        rw [hmoved.now] at hfound
        cases hfound
        have halong := h.along winner errand phase herrand hmoved.now
        exact ⟨next, hmoved.later, halong.won hmoved.stepped hsummary⟩
      · exact ⟨found, by rw [hmoved.others winner hwinner]; exact hfound, hsummary⟩
    · rcases hmoved.stepped.quiet_or_asks with ⟨hquiet, -⟩ | ⟨pending, job, rfl, hgo⟩
      · exact hquiet.trans hsent
      · obtain ⟨-, hrecheck⟩ := h.rechecked hwon herrand hmoved.now
        rw [← hrivals.agent_eq herrand, ← hrivals.view_store herrand lock] at hrecheck
        rw [show (viewOf lock errand pool.world).turns = pool.world.turns errand.list from rfl,
          hrecheck] at hgo
        contradiction

end Contest

end Condense.Proofs
