import Condense.Proofs.SerialRuns

/-!
# Threshold compactions in any order

However the calls of the threshold strategy interleave, they come to what they come to one after the
other, in the order in which they end. A call that saw an old summary before it got the lock has the
new one put in its place, after which it stands where it would have stood with the new one from the
beginning. For that a summary must never be taken back, and the list must not have begun with one.
-/

namespace Condense.Proofs
open Summary

/-- The new summary takes the place of the one that a call saw before. -/
lemma renew_inject {before now : Text} {turns : List Turn} (hled : isLed turns = false)
    (hnow : now ≠ before) (hkept : before ≠ [] → now ≠ []) :
    renew now (inject before turns) = inject now turns := by
  by_cases hbefore : before = []
  · have hsome : now ≠ [] := by rwa [hbefore] at hnow
    rw [hbefore, inject_nil, renew_of_not_isLed hsome hled, inject_of_not_isLed hsome hled]
  · have hsome := hkept hbefore
    rw [inject_of_not_isLed hbefore hled, renew_of_isSummary turns hsome (isSummary_turnOf before),
      inject_of_not_isLed hsome hled]

section Decisions

variable {settings : Settings} {limits : Limits} {registry : Registry} {call : Call}
  {turns : List Turn}

/-- A first look leads to the lock if the turns reach the threshold behind the summary. -/
lemma check_threshold_go {seen : Record} {pending : Pending}
    (h : (Plan.check (.threshold settings limits) call seen turns).next = .go pending) :
    ∃ tokens, pending = .threshold settings limits seen.summary tokens ∧
      measure call (inject seen.summary turns) = .ok tokens ∧
      staysBelow tokens limits.threshold = false ∧
      (Plan.check (.threshold settings limits) call seen turns).turns =
        inject seen.summary turns ∧
      ∃ size, settings.tuning.summarySize limits.buffer = .ok size := by
  unfold Plan.check at h ⊢
  dsimp only at h ⊢
  cases hmeasure : measure call (inject seen.summary turns) with
  | error fault =>
    rw [hmeasure] at h
    contradiction
  | ok tokens =>
    rw [hmeasure] at h
    dsimp only at h ⊢
    cases hbelow : staysBelow tokens limits.threshold with
    | true =>
      rw [hbelow] at h
      contradiction
    | false =>
      rw [hbelow] at h
      cases hsize : settings.tuning.summarySize limits.buffer with
      | error why =>
        rw [hsize] at h
        contradiction
      | ok size =>
        rw [hsize] at h
        cases h
        exact ⟨tokens, rfl, rfl, hbelow, rfl, size, rfl⟩

lemma recheck_same (record : Record) (tokens : Nat) :
    Pending.recheck (.threshold settings limits record.summary tokens) registry call record turns =
      Pending.summarizeOver settings limits call record.summary tokens turns :=
  if_pos rfl

/-- Whatever a call saw at its first look, behind the lock it does what is decided from the record
that it finds there. -/
lemma recheck_eq_decided {seen record : Record} {pending : Pending}
    (hgo : (Plan.check (.threshold settings limits) call seen turns).next = .go pending)
    (hled : isLed turns = false) (hkept : seen.summary ≠ [] → record.summary ≠ []) :
    pending.recheck registry call record
        (Plan.check (.threshold settings limits) call seen turns).turns =
      decided (.threshold settings limits) registry call record turns := by
  by_cases hsame : record.summary = seen.summary
  · have hcheck : Plan.check (.threshold settings limits) call record turns =
        Plan.check (.threshold settings limits) call seen turns := by
      unfold Plan.check
      rw [hsame]
    rw [decided_of_go (by rw [hcheck]; exact hgo), hcheck]
  · obtain ⟨tokens, rfl, -, -, hturns, size, hsize⟩ := check_threshold_go hgo
    have hrenewed := renew_inject hled hsame hkept
    rw [hturns]
    unfold Pending.recheck decided Plan.check
    dsimp only
    rw [if_neg hsame, hrenewed]
    cases measure call (inject record.summary turns) with
    | error fault => rfl
    | ok found =>
      dsimp only
      cases staysBelow found limits.threshold with
      | true => rfl
      | false =>
        simp only [hsize, Bool.false_eq_true, if_false, recheck_same]

/-- A job continues the summary in the record from which it was decided. -/
lemma decided_threshold_go {record : Record} {job : Job}
    (h : (decided (.threshold settings limits) registry call record turns).next = .go job) :
    job.request.previous = record.summary ∧ job.turnCount = none ∧ job.request.turns ≠ [] := by
  rcases hnext : (Plan.check (.threshold settings limits) call record turns).next with
    _ | fault | pending
  · have hended : ended? (Plan.check (.threshold settings limits) call record turns).next =
        some (.ok none) := by rw [hnext]; rfl
    have hdecided := (decided_of_ended registry rfl hended).2
    rw [h] at hdecided
    contradiction
  · have hended : ended? (Plan.check (.threshold settings limits) call record turns).next =
        some (.error fault) := by rw [hnext]; rfl
    have hdecided := (decided_of_ended registry rfl hended).2
    rw [h] at hdecided
    contradiction
  · obtain ⟨tokens, rfl, -⟩ := check_threshold_go hnext
    rw [decided_of_go hnext, recheck_same] at h
    obtain ⟨hprevious, hcount, hold, -⟩ := summarizeOver_go h
    exact ⟨hprevious, hcount, hold⟩

end Decisions

/-- A call in this phase has asked for a summary and has not used it yet. -/
def awaits : Phase → Bool
  | .asking .. | .saving .. => true
  | _ => false

lemma isInside_of_awaits {phase : Phase} (h : awaits phase = true) : isInside phase = true := by
  cases phase with
  | asking | saving => rfl
  | _ => contradiction

lemma isInside_of_isWriting {phase : Phase} (h : isWriting phase = true) :
    isInside phase = true := by
  cases phase with
  | saving | counting => rfl
  | _ => contradiction

/-- Where a call is: with the record as it is now and this reply, it will do what is decided. -/
inductive Underway (settings : Settings) (registry : Registry) (call : Call) (turns : List Turn)
    (record : Record) (reply : Reply) : Phase → List Turn → Prop where
  | ready : Underway settings registry call turns record reply .ready turns
  | loading {limits : Limits}
      (hplan : ((Strategy.threshold settings).plan registry call turns).2 =
        .ok (.threshold settings limits)) :
      Underway settings registry call turns record reply (.loading (.threshold settings limits)) turns
  -- The summary that a call saw is still there, or another one has come for it.
  | queued {limits : Limits} {seen : Record} {pending : Pending}
      (hplan : ((Strategy.threshold settings).plan registry call turns).2 =
        .ok (.threshold settings limits))
      (hgo : (Plan.check (.threshold settings limits) call seen turns).next = .go pending)
      (hkept : seen.summary ≠ [] → record.summary ≠ []) :
      Underway settings registry call turns record reply (.queued pending)
        (Plan.check (.threshold settings limits) call seen turns).turns
  | reloading {limits : Limits} {seen : Record} {pending : Pending}
      (hplan : ((Strategy.threshold settings).plan registry call turns).2 =
        .ok (.threshold settings limits))
      (hgo : (Plan.check (.threshold settings limits) call seen turns).next = .go pending)
      (hkept : seen.summary ≠ [] → record.summary ≠ []) :
      Underway settings registry call turns record reply (.reloading pending)
        (Plan.check (.threshold settings limits) call seen turns).turns
  | asking {limits : Limits} {job : Job}
      (hplan : ((Strategy.threshold settings).plan registry call turns).2 =
        .ok (.threshold settings limits))
      (hgo : (decided (.threshold settings limits) registry call record turns).next = .go job)
      (hrefused : refused? job.timeout = none) :
      Underway settings registry call turns record reply (.asking job reply)
        (decided (.threshold settings limits) registry call record turns).turns
  | saving {limits : Limits} {job : Job} {summary : Text}
      (hplan : ((Strategy.threshold settings).plan registry call turns).2 =
        .ok (.threshold settings limits))
      (hgo : (decided (.threshold settings limits) registry call record turns).next = .go job)
      (hrefused : refused? job.timeout = none)
      (hsummary : (job.request.receive job.timeout reply).2 = .ok (.text summary)) :
      Underway settings registry call turns record reply (.saving job (.text summary))
        (decided (.threshold settings limits) registry call record turns).turns

section Step

variable {settings : Settings} {registry : Registry} {otherwise : Reply} {call : Call} {id : Nat}
  {view after : View} {phase next : Phase} {turns : List Turn} {record : Record} {reply : Reply}

/-- A call that does not wait for a summary does not mind which one comes for the one that it saw. -/
lemma Underway.mono {list : List Turn} {later : Record} {other : Reply}
    (h : Underway settings registry call turns record reply phase list)
    (hphase : awaits phase = false) (hkept : record.summary ≠ [] → later.summary ≠ []) :
    Underway settings registry call turns later other phase list := by
  cases h with
  | ready => exact .ready
  | loading hplan => exact .loading hplan
  | queued hplan hgo hseen => exact .queued hplan hgo fun hsome => hkept (hseen hsome)
  | reloading hplan hgo hseen => exact .reloading hplan hgo fun hsome => hkept (hseen hsome)
  | asking | saving => contradiction

lemma plan_threshold {plan : Plan}
    (hplan : ((Strategy.threshold settings).plan registry call turns).2 = .ok plan) :
    ∃ limits, plan = .threshold settings limits := by
  simp only [Strategy.plan, bind_eq_ok] at hplan
  obtain ⟨window, -, limits, -, hpure⟩ := hplan
  cases hpure
  exact ⟨limits, rfl⟩

/-- As long as a call goes on it does not write. -/
lemma Stepped.not_writing
    (h : Stepped (.threshold settings) registry otherwise call id view phase after next)
    (hnow : Underway settings registry call turns record reply phase view.turns)
    (hnext : next.isFinished = false) : isWriting phase = false := by
  generalize view.turns = list at hnow
  cases hnow with
  | saving hplan hgo hrefused hsummary =>
    cases h with
    | saved => contradiction
    | counts summary hcount =>
      rw [(decided_threshold_go hgo).2.1] at hcount
      contradiction
  | _ => rfl

/-- A step after which a call goes on. -/
lemma Stepped.underway
    (h : Stepped (.threshold settings) registry otherwise call id view phase after next)
    (hnow : Underway settings registry call turns record reply phase view.turns)
    (hled : isLed turns = false) (hrecord : recordIn call.agent view.store = record)
    (hreply : isInside phase = true → awaits phase = false → view.script.headD otherwise = reply)
    (htextual : Textual reply) (hnext : next.isFinished = false) :
    Underway settings registry call turns record reply next after.turns := by
  have hwriting := h.not_writing hnow hnext
  generalize hturns : view.turns = list at hnow
  cases hnow with
  | ready =>
    cases h with
    | unplanned => contradiction
    | planned hplan =>
      rw [hturns] at hplan ⊢
      obtain ⟨limits, rfl⟩ := plan_threshold hplan
      exact .loading hplan
  | loading hplan =>
    cases h with
    | checked => contradiction
    | enters hstretch hgo =>
      rw [hturns, hrecord] at hstretch
      subst hstretch
      exact .queued hplan hgo fun hsome => hsome
  | queued hplan hgo hkept =>
    cases h with
    | waits =>
      rw [hturns]
      exact .queued hplan hgo hkept
    | admitted =>
      rw [hturns]
      exact .reloading hplan hgo hkept
  | reloading hplan hgo hkept =>
    cases h with
    | rechecked | refused => contradiction
    | asks hstretch hfound hrefused =>
      rw [hturns, hrecord, recheck_eq_decided hgo hled hkept] at hstretch
      subst hstretch
      rw [hreply rfl rfl]
      exact .asking hplan hfound hrefused
  | asking hplan hgo hrefused =>
    cases h with
    | unanswered => contradiction
    | answered hsummary =>
      obtain ⟨summary, rfl⟩ := summary_eq_text htextual hsummary
      rw [hturns]
      exact .saving hplan hgo hrefused hsummary
  | saving => contradiction

lemma savedIn_of_none {agent : Text} {job : Job} (hcount : job.turnCount = none) (summary : Value)
    (store : Store) : savedIn agent job summary store = (job.saveSummary agent summary store).2 := by
  unfold savedIn Job.saveTurns
  rw [hcount]

/-- What a call comes to that ends with a step, if it is made at that moment and at one go. -/
structure Concludes (settings : Settings) (registry : Registry) (call : Call) (turns : List Turn)
    (reply : Reply) (store : Store) (view after : View) (asked : Bool)
    (outcome : Except Fault (Option Compaction)) : Prop where
  run : ∃ last sent, sent.isSome = asked ∧ Alike call.agent last after.store ∧
    silent ((Strategy.threshold settings).compact registry call (fun _ => reply) turns store) =
      ⟨after.turns, last, [], sent, outcome⟩
  script : after.script = view.script
  kept : (recordIn call.agent view.store).summary ≠ [] →
    (recordIn call.agent after.store).summary ≠ []

/-- A step with which a call ends. -/
lemma Stepped.concludes {store : Store} {outcome : Except Fault (Option Compaction)}
    (h : Stepped (.threshold settings) registry otherwise call id view phase after
      (.finished outcome))
    (hphase : phase.isFinished = false)
    (hnow : Underway settings registry call turns record reply phase view.turns)
    (hled : isLed turns = false) (hrecord : recordIn call.agent view.store = record)
    (halike : Alike call.agent store view.store) :
    Concludes settings registry call turns reply store view after (awaits phase) outcome := by
  generalize hturns : view.turns = list at hnow
  cases hnow with
  | ready =>
    cases h with
    | unplanned hplan =>
      refine ⟨⟨store, none, rfl, halike, ?_⟩, rfl, fun hsome => hsome⟩
      rw [hturns] at hplan
      rw [silent_compact_unplanned hplan, ← hturns]
      rfl
  | loading hplan =>
    cases h with
    | checked hstretch hended =>
      rw [hturns] at hstretch
      obtain ⟨hlist, hdecided⟩ := decided_of_ended registry hstretch hended
      obtain ⟨last, hlast, hrun⟩ := compact_decided hplan halike fun _ => reply
      refine ⟨⟨last, none, rfl, hlast.lookedRight, ?_⟩, rfl, fun hsome => ?_⟩
      · rw [hrun, silent_perform_ended hdecided, hlist]
        rfl
      · rwa [View.left, halike.right.recordIn_lookedAt]
  | queued => cases h
  | reloading hplan hgo hkept =>
    obtain ⟨last, hlast, hrun⟩ := compact_decided hplan halike fun _ => reply
    rw [hrecord] at hrun
    cases h with
    | rechecked hstretch hended =>
      rw [hturns, hrecord, recheck_eq_decided hgo hled hkept] at hstretch
      subst hstretch
      refine ⟨⟨last, none, rfl, hlast.lookedRight, ?_⟩, rfl, fun hsome => ?_⟩
      · rw [hrun, silent_perform_ended hended]
        rfl
      · rwa [View.left, halike.right.recordIn_lookedAt]
    | refused hstretch hfound hrefused =>
      rw [hturns, hrecord, recheck_eq_decided hgo hled hkept] at hstretch
      subst hstretch
      refine ⟨⟨last, none, rfl, hlast.lookedRight, ?_⟩, rfl, fun hsome => ?_⟩
      · rw [hrun, silent_perform_go hfound, silent_perform_refused hrefused]
        rfl
      · rwa [View.left, halike.right.recordIn_lookedAt]
  | @asking limits job hplan hgo hrefused =>
    obtain ⟨last, hlast, hrun⟩ := compact_decided hplan halike fun _ => reply
    rw [hrecord] at hrun
    cases h with
    | unanswered hfault =>
      refine ⟨⟨last, some job.request, rfl, hlast, ?_⟩, rfl, fun hsome => hsome⟩
      rw [hrun, silent_perform_go hgo, silent_perform_unanswered hrefused hfault, ← hturns]
      rfl
  | @saving limits job summary hplan hgo hrefused hsummary =>
    obtain ⟨last, hlast, hrun⟩ := compact_decided hplan halike fun _ => reply
    rw [hrecord] at hrun
    obtain ⟨-, hcount, hturns⟩ := decided_threshold_go hgo
    cases h with
    | saved =>
      refine ⟨⟨_, some job.request, rfl, hlast.saved job (.text summary), ?_⟩, rfl, fun _ => ?_⟩
      · rw [hrun, silent_perform_go hgo, silent_perform_answered hrefused hsummary,
          savedIn_of_none hcount]
        rfl
      · rw [View.left, halike.right.recordIn_savedSummary]
        exact plain_ne_nil hsummary hturns

lemma Stepped.alike {strategy : Strategy} {store : Store}
    (h : Stepped strategy registry otherwise call id view phase after next)
    (hphase : isWriting phase = false) (halike : Alike call.agent store view.store) :
    Alike call.agent store after.store := by
  cases h with
  | finished | unplanned | planned | waits | admitted | unanswered | answered => exact halike
  | checked | enters | rechecked | refused | asks => exact halike.lookedRight
  | saved | counts | counted => contradiction

end Step

/-- While a call waits for its summary, its reply is the first one in a script; apart from that the
pool has the same script. -/
structure Scripted (script : List Reply) (pool : Pool) : Prop where
  owed : ∀ id phase, phase? pool id = some phase → awaits phase = true →
    pool.world.script = script.tail
  even : (∀ id phase, phase? pool id = some phase → awaits phase = false) →
    pool.world.script = script

section Scripted

variable {installed : Installed} {errand : Errand} {script : List Reply} {pool after : Pool}
  {id : Nat} {phase next : Phase}

/-- While a call is past the lock, no other one waits for a summary. -/
lemma Orderly.awaits_eq {lock : Nat} (h : Orderly lock pool) (hphase : phase? pool id = some phase)
    (hinside : isInside phase = true) {other : Nat} {found : Phase}
    (hfound : phase? pool other = some found) (hother : other ≠ id) : awaits found = false := by
  by_contra hawaits
  have hinside' : isInside found = true := isInside_of_awaits (by simpa using hawaits)
  exact hother (h.unique hfound hinside' hphase hinside)

/-- While a call waits for its summary, no other one waits, and no other one is about to write. -/
lemma Orderly.outside {lock : Nat} (h : Orderly lock pool) {other : Nat} {found : Phase}
    (hfound : phase? pool other = some found) (hawaits : awaits found = true)
    (hphase : phase? pool id = some phase) (hother : other ≠ id) :
    awaits phase = false ∧ isWriting phase = false := by
  have houtside : ¬isInside phase = true := by
    intro hinside
    rw [h.awaits_eq hphase hinside hfound hother] at hawaits
    contradiction
  constructor
  · rw [← Bool.not_eq_true]
    exact fun hwaits => houtside (isInside_of_awaits hwaits)
  · rw [← Bool.not_eq_true]
    exact fun hwrites => houtside (isInside_of_isWriting hwrites)

lemma Scripted.ends {outcome : Except Fault (Option Compaction)} (h : Scripted script pool)
    (horderly : Orderly installed.lock pool)
    (hmoved : Moved installed errand id pool after phase (.finished outcome))
    (hscript : after.world.script = pool.world.script) :
    Scripted (if awaits phase then script.tail else script) after := by
  constructor
  · intro other found hfound hwaits
    rcases hmoved.phase_cases hfound with ⟨rfl, rfl⟩ | ⟨hother, hbefore⟩
    · contradiction
    · have hphase : awaits phase = false :=
        horderly.awaits_eq hbefore (isInside_of_awaits hwaits) hmoved.now (Ne.symm hother)
      rw [hscript, hphase, if_neg Bool.false_ne_true]
      exact h.owed other found hbefore hwaits
  · intro hnone
    rw [hscript]
    cases hphase : awaits phase with
    | true =>
      rw [if_pos rfl]
      exact h.owed id phase hmoved.now hphase
    | false =>
      rw [if_neg Bool.false_ne_true]
      apply h.even
      intro other found hfound
      by_cases hother : other = id
      · subst hother
        obtain rfl := Option.some.inj (hmoved.now.symm.trans hfound)
        exact hphase
      · exact hnone other found ((hmoved.others other hother).trans hfound)

end Scripted

/-- The calls that have ended are explained by calls one after the other, and those that are underway
have not been made there yet. -/
structure Explained (session : Session) (errands : List Errand) (agent store : Text) (lock : Nat)
    (settings : Settings) (pool : Pool) (order : List Nat) (serial : Serial) : Prop where
  crew : Crew ⟨lock, .threshold settings⟩ errands pool
  orderly : Orderly lock pool
  alike : Alike agent (serial.session.world.store store) (pool.world.store store)
  guard : serial.session.guard = session.guard
  registry : serial.session.world.registry = pool.world.registry
  otherwise : serial.session.world.otherwise = pool.world.otherwise
  replies : ∀ reply ∈ serial.session.world.script, Textual reply
  textual : Textual pool.world.otherwise
  scripted : Scripted serial.session.world.script pool
  nodup : order.Nodup
  ended : ∀ id, id ∈ order ↔ (phase? pool id).any Phase.isFinished = true
  finished : ∀ (id : Nat) (errand : Errand) (outcome : Except Fault (Option Compaction)),
    errands[id]? = some errand → phase? pool id = some (.finished outcome) →
    Ended pool id errand outcome (serial.session.world.turns errand.list) ∧
      (id, some outcome) ∈ serial.outcomes
  underway : ∀ (id : Nat) (errand : Errand) (phase : Phase), errands[id]? = some errand →
    phase? pool id = some phase → phase.isFinished = false →
    serial.session.world.turns errand.list = session.world.turns errand.list ∧
      Underway settings pool.world.registry errand.call (session.world.turns errand.list)
        (recordIn agent (pool.world.store store)) serial.session.world.nextReply phase
        (pool.world.turns errand.list)

section Explained

variable {session : Session} {errands : List Errand} {agent store : Text} {lock : Nat}
  {settings : Settings} {pool after : Pool} {order : List Nat} {serial : Serial} {id : Nat}
  {errand : Errand} {phase next : Phase}

lemma Explained.nextReply
    (h : Explained session errands agent store lock settings pool order serial) :
    Textual serial.session.world.nextReply := by
  unfold World.nextReply
  cases hscript : serial.session.world.script with
  | nil =>
    rw [List.headD_nil, h.otherwise]
    exact h.textual
  | cons reply rest => exact h.replies reply (by rw [hscript]; exact List.mem_cons_self)

lemma Explained.seen (hrivals : Rivals session errands agent store ⟨lock, .threshold settings⟩)
    (herrand : errands[id]? = some errand) (world : World) :
    recordIn errand.call.agent (viewOf lock errand world).store =
      recordIn agent (world.store store) := by
  rw [hrivals.agent_eq herrand, hrivals.view_store herrand]

/-- A call that is underway is new to the order. -/
lemma Explained.nodup_append
    (h : Explained session errands agent store lock settings pool order serial)
    (hphase : phase? pool id = some phase) (hfinished : phase.isFinished = false) :
    (order ++ [id]).Nodup := by
  have hnew : id ∉ order := by
    rw [h.ended, hphase, Option.any_some, hfinished]
    exact Bool.false_ne_true
  refine List.nodup_append.mpr ⟨h.nodup, List.nodup_cons.mpr ⟨List.not_mem_nil, List.nodup_nil⟩, ?_⟩
  rintro found hfound last hlast rfl
  rw [List.mem_singleton] at hlast
  exact hnew (hlast ▸ hfound)

lemma Explained.ended_append {outcome : Except Fault (Option Compaction)}
    (h : Explained session errands agent store lock settings pool order serial)
    (hmoved : Moved ⟨lock, .threshold settings⟩ errand id pool after phase (.finished outcome))
    (other : Nat) :
    other ∈ order ++ [id] ↔ (phase? after other).any Phase.isFinished = true := by
  rw [List.mem_append, List.mem_singleton, h.ended]
  by_cases hother : other = id
  · subst hother
    rw [hmoved.later, Option.any_some]
    exact iff_of_true (Or.inr rfl) rfl
  · rw [hmoved.others other hother]
    exact or_iff_left hother

/-- When a call ends, it is made. -/
lemma Explained.ends {outcome : Except Fault (Option Compaction)}
    (h : Explained session errands agent store lock settings pool order serial)
    (hrivals : Rivals session errands agent store ⟨lock, .threshold settings⟩)
    (hled : ∀ errand ∈ errands, isLed (session.world.turns errand.list) = false)
    (herrand : errands[id]? = some errand)
    (hcrew : Crew ⟨lock, .threshold settings⟩ errands after)
    (hmoved : Moved ⟨lock, .threshold settings⟩ errand id pool after phase (.finished outcome))
    (hphase : phase.isFinished = false) :
    Explained session errands agent store lock settings after (order ++ [id])
      (serial.make errands id) := by
  obtain ⟨hlist, hnow⟩ := h.underway id errand phase herrand hmoved.now hphase
  have halike : Alike errand.call.agent (serial.session.world.store errand.store)
      (viewOf lock errand pool.world).store := by
    rw [hrivals.agent_eq herrand, hrivals.view_store herrand, hrivals.store_eq herrand]
    exact h.alike
  obtain ⟨⟨last, sent, hasked, hlast, hrun⟩, hscript, hkept⟩ := hmoved.stepped.concludes hphase hnow
    (hled errand (List.mem_of_getElem? herrand)) (Explained.seen hrivals herrand pool.world) halike
  have hinstalled : serial.session.guard.strategyFor? errand.call.agent =
      some ⟨lock, .threshold settings⟩ := by
    rw [h.guard, hrivals.agent_eq herrand, hrivals.installed]
  rw [← h.registry, ← hlist] at hrun
  obtain ⟨houtcome, hpassed⟩ := compact_passed hinstalled hrun
  rw [hasked] at hpassed
  rw [Explained.seen hrivals herrand, Explained.seen hrivals herrand] at hkept
  rw [hrivals.agent_eq herrand, hrivals.view_store herrand] at hlast
  have hmake : serial.make errands id =
      ⟨(serial.session.compact errand).1, serial.outcomes ++ [(id, some outcome)]⟩ := by
    unfold Serial.make
    rw [herrand, ← houtcome]
  rw [hmake]
  generalize (serial.session.compact errand).1 = made at hpassed
  refine {
    crew := hcrew
    orderly := h.orderly.move hmoved
    alike := by rw [← hrivals.store_eq herrand, hpassed.store, hrivals.store_eq herrand]; exact hlast
    guard := hpassed.guard.trans h.guard
    registry := (hpassed.registry.trans h.registry).trans hmoved.framed.registry.symm
    otherwise := (hpassed.otherwise.trans h.otherwise).trans hmoved.framed.otherwise.symm
    replies := fun reply hreply => ?_
    textual := by rw [hmoved.framed.otherwise]; exact h.textual
    scripted := by
      rw [hpassed.script]
      exact h.scripted.ends h.orderly hmoved hscript
    nodup := h.nodup_append hmoved.now hphase
    ended := h.ended_append hmoved
    finished := fun other rival result hrival hfound => ?_
    underway := fun other rival found hrival hfound hfinished => ?_ }
  · rw [hpassed.script] at hreply
    split at hreply
    · exact h.replies reply (List.mem_of_mem_tail hreply)
    · exact h.replies reply hreply
  · rcases hmoved.phase_cases hfound with ⟨rfl, hresult⟩ | ⟨hother, hbefore⟩
    · rw [herrand] at hrival
      cases hrival
      cases hresult
      exact ⟨⟨hmoved.later, hpassed.turns.symm⟩, List.mem_append_right _ List.mem_cons_self⟩
    · obtain ⟨hended, hmem⟩ := h.finished other rival result hrival hbefore
      rw [hpassed.others _ (hrivals.list_ne herrand hrival hother)]
      exact ⟨hrivals.ended_moved hrival herrand hmoved hended, List.mem_append_left _ hmem⟩
  · rcases hmoved.phase_cases hfound with ⟨rfl, rfl⟩ | ⟨hother, hbefore⟩
    · contradiction
    · obtain ⟨hrivalList, hrivalNow⟩ := h.underway other rival found hrival hbefore hfinished
      rw [hpassed.others _ (hrivals.list_ne herrand hrival hother), hmoved.framed.registry,
        hrivals.turns_move herrand hmoved hrival hother]
      refine ⟨hrivalList, ?_⟩
      cases hawaits : awaits found with
      | false => exact hrivalNow.mono hawaits hkept
      | true =>
        -- Whoever waits for a summary is past the lock, so that the call that ends is not.
        obtain ⟨hwaited, hwriting⟩ := h.orderly.outside hbefore hawaits hmoved.now hother
        have hnext : made.world.nextReply = serial.session.world.nextReply := by
          unfold World.nextReply
          rw [hpassed.script, hpassed.otherwise, hwaited, if_neg Bool.false_ne_true]
        rw [hrivals.record_move herrand hmoved h.alike.right hwriting, hnext]
        exact hrivalNow

/-- The calls that have ended so far. -/
def endedIn (pool : Pool) : List Nat :=
  (List.range pool.tasks.length).filter fun id => (phase? pool id).any Phase.isFinished

lemma Explained.perm
    (h : Explained session errands agent store lock settings pool order serial) :
    order.Perm (endedIn pool) := by
  have hnodup : (endedIn pool).Nodup := List.nodup_range.filter _
  rw [List.perm_ext_iff_of_nodup h.nodup hnodup]
  intro id
  rw [h.ended, endedIn, List.mem_filter, List.mem_range, iff_and_self]
  intro hfinished
  by_contra hlt
  rw [phase?, List.getElem?_eq_none (Nat.not_lt.mp hlt)] at hfinished
  contradiction

end Explained

end Condense.Proofs
