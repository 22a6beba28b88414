import Condense.Proofs.KeptSpans
import Condense.Proofs.PreviousSummaries
import Condense.Proofs.ReliableReads
import Condense.Proofs.WindowCounts

/-!
# Calls that ask nothing

A call that does not ask the provider may still put the stored summary in front of the list. Made
once more at once, a call of the threshold strategy finds what the first one left. A sliding window
takes the summary for a turn that arrived: if the list had just reached the limit, the second call
compacts it.
-/

namespace Condense.Proofs
open Summary

lemma inject_inject (summary : Text) (turns : List Turn) :
    inject summary (inject summary turns) = inject summary turns := by
  by_cases hnone : summary = []
  · rw [hnone, inject_nil, inject_nil]
  · exact inject_of_isLed summary (isLed_inject hnone turns)

section Boundaries

variable {lead : Turn} {turns : List Turn}

/-- Behind one more turn without calls a boundary moves back to the same turns, or further. -/
lemma retreat_cons (lead : Turn) (turns : List Turn) (found : List Span) (index : Nat) :
    retreat (lead :: turns) (found.map (Span.shift 1)) (index + 1) ≤
      retreat turns found index + 1 := by
  obtain ⟨hle, hspec⟩ := retreat_spec (lead :: turns) (found.map (Span.shift 1)) (index + 1)
  cases hbound : retreat (lead :: turns) (found.map (Span.shift 1)) (index + 1) with
  | zero => exact Nat.zero_le _
  | succ bound =>
    rw [hbound] at hle hspec
    obtain ⟨hclear, hopens⟩ := hspec (Nat.succ_pos bound)
    have hbefore : ∀ span ∈ found, span.encloses bound = false := by
      intro span hspan
      have hshifted := hclear _ (List.mem_map_of_mem hspan)
      simpa [Span.encloses, Span.shift] using hshifted
    exact Nat.succ_le_succ (le_retreat hbefore hopens (Nat.le_of_succ_le_succ hle))

lemma safeBoundary_cons (hlead : lead.hasCall = false) (turns : List Turn) {wanted : Int}
    (h : 0 ≤ wanted) : safeBoundary (lead :: turns) (wanted + 1) ≤ safeBoundary turns wanted + 1 := by
  have hindex : min (wanted + 1).toNat (lead :: turns).length =
      min wanted.toNat turns.length + 1 := by
    rw [List.length_cons]
    omega
  unfold safeBoundary
  dsimp only
  rw [hindex, spans_cons hlead, List.length_cons]
  by_cases hend : min wanted.toNat turns.length = turns.length
  · rw [if_pos hend, if_pos (congrArg (· + 1) hend)]
  · rw [if_neg hend, if_neg fun hsame => hend (Nat.succ_injective hsame)]
    exact retreat_cons lead turns (spans turns) _

variable {settings : Settings} {limit : Nat}

lemma slidingKeep_integer? {tuning : Tuning} {least kept : Int}
    (hleast : tuning.slidingLeast.integer? = some least) {keep : Quantity}
    (h : tuning.slidingKeep kept = .ok keep) : ∃ n, keep.integer? = some n := by
  simp only [Tuning.slidingKeep, bind_eq_ok] at h
  obtain ⟨n, -, hpure⟩ := h
  cases hpure
  unfold Quantity.max
  split
  · exact ⟨n, rfl⟩
  · exact ⟨least, hleast⟩

lemma boundary_eq_ok {least : Int} (hleast : settings.tuning.slidingLeast.integer? = some least)
    {count index : Nat} (h : Pending.boundary settings limit count turns = .ok index) :
    ∃ keep n, settings.tuning.slidingKeep limit = .ok keep ∧ keep.integer? = some n ∧
      index = safeBoundary turns (max 0 (count - n)) := by
  obtain ⟨keep, hkeep, -⟩ := bind_eq_ok.mp h
  rw [mapError_eq_ok] at hkeep
  obtain ⟨n, hn⟩ := slidingKeep_integer? hleast hkeep
  rw [boundary_of_integer hkeep hn] at h
  exact ⟨keep, n, hkeep, hn, (Except.ok.inj h).symm⟩

/-- Where nothing was old, nothing is once a summary stands in front. -/
lemma cut_behind_summary {least : Int}
    (hleast : settings.tuning.slidingLeast.integer? = some least) {index later : Nat}
    (hindex : Pending.boundary settings limit turns.length turns = .ok index)
    (hnone : (cut turns index).1 = []) {summary : Text}
    (hlater : Pending.boundary settings limit (turns.length + 1) (turnOf summary :: turns) =
      .ok later) : (cut (turnOf summary :: turns) later).1 = [] := by
  obtain ⟨keep, n, hkeep, hn, rfl⟩ := boundary_eq_ok hleast hindex
  obtain ⟨keep', n', hkeep', hn', rfl⟩ := boundary_eq_ok hleast hlater
  obtain rfl : keep = keep' := Except.ok.inj (hkeep.symm.trans hkeep')
  obtain rfl : n = n' := Option.some.inj (hn.symm.trans hn')
  have hle : safeBoundary (turnOf summary :: turns) (max 0 ((turns.length + 1 : Nat) - n)) ≤
      safeBoundary turns (max 0 (turns.length - n)) + 1 := by
    by_cases hkept : n ≤ turns.length
    · have hwanted : max 0 (((turns.length + 1 : Nat) : Int) - n) = max 0 (turns.length - n) + 1 := by
        omega
      rw [hwanted]
      exact safeBoundary_cons rfl turns (le_max_left 0 _)
    · have hzero : max 0 (((turns.length + 1 : Nat) : Int) - n) = 0 := by omega
      have hfront := safeBoundary_le (turnOf summary :: turns) 0
      rw [hzero]
      omega
  have hsummaries : ∀ turn ∈ turns.take (safeBoundary turns (max 0 (turns.length - n))),
      isSummary turn = true := by
    simpa [cut] using hnone
  apply List.filter_eq_nil_iff.mpr
  intro turn hturn
  have hmem : turn ∈ (turnOf summary :: turns).take _ := List.take_subset_take_left _ hle hturn
  rw [List.take_succ_cons] at hmem
  rcases List.mem_cons.mp hmem with rfl | hold
  · simp
  · simp [hsummaries turn hold]

end Boundaries

/-- The list holds as many turns as a sliding window waits for, none of them the summary that is to
be put in front. With it the list holds one too many, and something in it is old enough. -/
structure AtBrink (settings : Settings) (limit : Nat) (registry : Registry) (call : Call)
    (record : Record) (turns : List Turn) : Prop where
  summary : record.summary ≠ []
  bare : isLed turns = false
  reached : turnsSince turns.length record.turnsAt = limit
  counted : record.turnsAt ≠ turns.length + 1
  moves : ∃ job, (Pending.summarizeBefore settings limit (turns.length + 1) registry call
    record.summary (turnOf record.summary :: turns)).next = .go job ∧ refused? job.timeout = none

section Again

variable {settings : Settings} {limit : Nat} {positive : 0 < limit} {registry : Registry}
  {call : Call} {record : Record} {turns after : List Turn}

lemma decided_inject (settings : Settings) (limits : Limits) (registry : Registry) (call : Call)
    (record : Record) (turns : List Turn) :
    decided (.threshold settings limits) registry call record (inject record.summary turns) =
      decided (.threshold settings limits) registry call record turns := by
  unfold decided Plan.check
  simp only [inject_inject]

lemma unasked?_threshold_inject
    (h : unasked? (.threshold settings) registry call record (inject record.summary turns) = none) :
    unasked? (.threshold settings) registry call record turns = none := by
  obtain ⟨plan, job, hplan, hgo, hrefused⟩ := unasked?_eq_none.mp h
  have hlimits : ∃ limits, plan = .threshold settings limits := by
    simp only [Strategy.plan, bind_eq_ok, mapError_eq_ok] at hplan
    obtain ⟨window, -, limits, -, hpure⟩ := hplan
    exact ⟨limits, (Except.ok.inj hpure).symm⟩
  obtain ⟨limits, rfl⟩ := hlimits
  rw [decided_inject] at hgo
  exact unasked?_eq_none.mpr ⟨_, job, hplan, hgo, hrefused⟩

lemma unasked?_window_eq_none :
    unasked? (.slidingWindow settings limit positive) registry call record turns = none ↔
      limit < turnsSince turns.length record.turnsAt ∧
        ∃ job, (Pending.summarizeBefore settings limit turns.length registry call record.summary
          turns).next = .go job ∧ refused? job.timeout = none := by
  rw [unasked?_eq_none]
  have hplan : ((Strategy.slidingWindow settings limit positive).plan registry call turns).2 =
      .ok (.slidingWindow settings limit turns.length) := rfl
  by_cases hfew : turnsSince turns.length record.turnsAt ≤ limit
  · simp [hplan, decided_window_few hfew, hfew]
  · simp [hplan, decided_window_many hfew, Nat.not_le.mp hfew]

/-- A window that is due and stops has found nothing old. -/
lemma summarizeBefore_stop {count : Nat} {previous : Text}
    (h : (Pending.summarizeBefore settings limit count registry call previous turns).next = .stop) :
    ∃ index, Pending.boundary settings limit count turns = .ok index ∧ (cut turns index).1 = [] := by
  unfold Pending.summarizeBefore at h
  cases hmeasure : measure call turns with
  | error fault => simp [hmeasure] at h
  | ok tokens =>
    cases hbound : Pending.boundary settings limit count turns with
    | error fault => simp [hmeasure, hbound] at h
    | ok index =>
      refine ⟨index, rfl, ?_⟩
      by_contra hold
      simp only [hmeasure, hbound, List.isEmpty_iff, hold, if_false] at h
      split at h <;> contradiction

lemma unasked?_stop {strategy : Strategy}
    (h : unasked? strategy registry call record turns = some after) (hafter : after ≠ turns) :
    ∃ plan, (strategy.plan registry call turns).2 = .ok plan ∧
      (decided plan registry call record turns).next = .stop := by
  have hsame : ∀ {turns' : List Turn}, some turns' = some after → turns' ≠ turns := by
    rintro turns' hsome rfl
    exact hafter (Option.some.inj hsome).symm
  unfold unasked? at h
  split at h
  case h_1 => exact absurd rfl (hsame h)
  case h_2 plan hplan =>
    refine ⟨plan, hplan, ?_⟩
    dsimp only at h
    split at h
    case h_1 hstop => exact hstop
    case h_2 => exact absurd rfl (hsame h)
    case h_3 =>
      split at h
      · exact absurd rfl (hsame h)
      · contradiction

lemma turnsSince_succ {count counted limit : Nat} (hfew : turnsSince count counted ≤ limit) :
    limit < turnsSince (count + 1) counted ↔
      turnsSince count counted = limit ∧ counted ≠ count + 1 := by
  unfold turnsSince at hfew ⊢
  split at hfew <;> split <;> omega

lemma unasked?_window_few (hfew : turnsSince turns.length record.turnsAt ≤ limit) :
    unasked? (.slidingWindow settings limit positive) registry call record turns =
      some (inject record.summary turns) := by
  have hplan : ((Strategy.slidingWindow settings limit positive).plan registry call turns).2 =
      .ok (.slidingWindow settings limit turns.length) := rfl
  unfold unasked?
  rw [hplan]
  dsimp only
  rw [decided_window_few hfew]

/-- At the brink the first call puts the summary in front, and the second one asks. -/
lemma AtBrink.asks (positive : 0 < limit)
    (h : AtBrink settings limit registry call record turns) :
    unasked? (.slidingWindow settings limit positive) registry call record turns =
        some (turnOf record.summary :: turns) ∧
      unasked? (.slidingWindow settings limit positive) registry call record
        (turnOf record.summary :: turns) = none := by
  have hfew : turnsSince turns.length record.turnsAt ≤ limit := h.reached.le
  have hdue := (turnsSince_succ hfew).mpr ⟨h.reached, h.counted⟩
  constructor
  · rw [unasked?_window_few hfew, inject_of_not_isLed h.summary h.bare]
  · exact unasked?_window_eq_none.mpr ⟨hdue, h.moves⟩

lemma AtBrink.turns_ne_nil (h : AtBrink settings limit registry call record turns)
    (positive : 0 < limit) : turns ≠ [] := by
  rintro rfl
  have hreached := h.reached
  unfold turnsSince at hreached
  split at hreached <;> simp at hreached <;> omega

/-- Nowhere else does a call ask after one that has asked nothing. -/
lemma atBrink_of_asks {strategy : Strategy} {least : Int}
    (hleast : strategy.settings.tuning.slidingLeast.integer? = some least)
    (h : unasked? strategy registry call record turns = some after)
    (hasks : unasked? strategy registry call record after = none) :
    ∃ settings limit positive, strategy = .slidingWindow settings limit positive ∧
      AtBrink settings limit registry call record turns := by
  have hmoved : after ≠ turns := by
    rintro rfl
    rw [h] at hasks
    contradiction
  obtain rfl : after = inject record.summary turns := (unasked?_cases h).resolve_left hmoved
  obtain ⟨hsummary, hbare⟩ := inject_ne hmoved
  cases strategy with
  | threshold settings =>
    rw [unasked?_threshold_inject hasks] at h
    contradiction
  | slidingWindow settings limit positive =>
    rw [inject_of_not_isLed hsummary hbare] at hasks
    obtain ⟨hdue, job, hgo, hrefused⟩ := unasked?_window_eq_none.mp hasks
    have hfew : turnsSince turns.length record.turnsAt ≤ limit := by
      -- A window that was due already has stopped because nothing was old, and nothing is now.
      by_contra hmany
      obtain ⟨plan, hplan, hstop⟩ := unasked?_stop h hmoved
      cases hplan
      rw [decided_window_many hmany] at hstop
      obtain ⟨index, hindex, hnone⟩ := summarizeBefore_stop hstop
      obtain ⟨-, later, -, -, hlater, hold, -⟩ := summarizeBefore_go.mp hgo
      exact hold (cut_behind_summary hleast hindex hnone hlater)
    obtain ⟨hreached, hcounted⟩ := (turnsSince_succ hfew).mp hdue
    exact ⟨settings, limit, positive, rfl, hsummary, hbare, hreached, hcounted, job, hgo, hrefused⟩

end Again

def StandsAtBrink (guard : Guard) (registry : Registry) (call : Call) (record : Record)
    (turns : List Turn) : Prop :=
  ∃ lock settings limit positive,
    guard.strategyFor? call.agent = some ⟨lock, .slidingWindow settings limit positive⟩ ∧
      AtBrink settings limit registry call record turns

section Guarded

variable {guard : Guard} {registry : Registry} {call : Call} {record : Record}
  {turns after : List Turn}

lemma passed?_of_installed {installed : Installed} (hturns : turns ≠ [])
    (hinstalled : guard.strategyFor? call.agent = some installed) :
    passed? guard registry call record turns =
      unasked? installed.strategy registry call record turns := by
  unfold passed?
  rw [if_neg (by simpa using hturns), hinstalled]

lemma passed?_again
    (hleast : ∀ installed, guard.strategyFor? call.agent = some installed →
      (installed.strategy.settings.tuning.slidingLeast.integer?).isSome = true)
    (h : passed? guard registry call record turns = some after) :
    passed? guard registry call record after = none ↔
      StandsAtBrink guard registry call record turns := by
  constructor
  · intro hasks
    have hturns : turns ≠ [] := by
      rintro rfl
      obtain rfl : [] = after := Option.some.inj h
      contradiction
    have hafter : after ≠ [] := by
      rintro rfl
      contradiction
    cases hinstalled : guard.strategyFor? call.agent with
    | none =>
      unfold passed? at hasks
      rw [if_neg (by simpa using hafter), hinstalled] at hasks
      contradiction
    | some installed =>
      rw [passed?_of_installed hturns hinstalled] at h
      rw [passed?_of_installed hafter hinstalled] at hasks
      obtain ⟨least, hwhole⟩ := Option.isSome_iff_exists.mp (hleast installed hinstalled)
      obtain ⟨settings, limit, positive, hkind, hbrink⟩ := atBrink_of_asks hwhole h hasks
      obtain ⟨lock, strategy⟩ := installed
      obtain rfl : strategy = .slidingWindow settings limit positive := hkind
      exact ⟨lock, settings, limit, positive, hinstalled, hbrink⟩
  · rintro ⟨lock, settings, limit, positive, hinstalled, hbrink⟩
    obtain ⟨hfirst, hsecond⟩ := hbrink.asks positive
    rw [passed?_of_installed (hbrink.turns_ne_nil positive) hinstalled, hfirst] at h
    obtain rfl : turnOf record.summary :: turns = after := Option.some.inj h
    rw [passed?_of_installed (List.cons_ne_nil _ _) hinstalled, hsecond]

lemma passed?_settled {again : List Turn}
    (h : passed? guard registry call record turns = some after)
    (hagain : passed? guard registry call record after = some again) : again = after := by
  rcases passed?_cases h with rfl | rfl
  · rw [h] at hagain
    exact (Option.some.inj hagain).symm
  · rcases passed?_cases hagain with rfl | rfl
    · rfl
    · exact inject_inject _ _

/-- A call that has asked nothing asks nothing when it is made once more at once, and leaves the list
and the store as they are, unless the first call has put the summary in front of a list that had just
reached the limit of its sliding window. -/
theorem quiet_call_again {store : Store} (hstore : GrantsReads call.agent store)
    (hleast : ∀ installed, guard.strategyFor? call.agent = some installed →
      (installed.strategy.settings.tuning.slidingLeast.integer?).isSome = true)
    (provider later : Request → Reply) :
    let first := guard.beforeModelCall registry call provider turns store
    let second := guard.beforeModelCall registry call later first.turns first.store
    first.sent = none →
      (second.sent = none ↔
        ¬StandsAtBrink guard registry call (recordIn call.agent store) turns) ∧
      (second.sent = none → second.turns = first.turns ∧
        ∀ key, found? key second.store = found? key first.store) := by
  intro first second hquiet
  obtain ⟨after, hpassed⟩ :=
    Option.ne_none_iff_exists'.mp ((beforeModelCall_sent hstore provider).mp hquiet)
  obtain ⟨-, hread, hturns⟩ := beforeModelCall_passed hstore hpassed provider
  have hturns : first.turns = after := hturns
  have hlater : GrantsReads call.agent first.store := hstore.read hread
  -- The first call has written nothing, so that the second one finds the same record.
  have hrecord : recordIn call.agent first.store = recordIn call.agent store :=
    hstore.recordIn_read hread
  have hsecond : second = guard.beforeModelCall registry call later after first.store := by
    rw [← hturns]
  have hsent : second.sent = none ↔
      passed? guard registry call (recordIn call.agent store) after ≠ none := by
    rw [hsecond, beforeModelCall_sent hlater, hrecord]
  rw [hsent, ne_eq, passed?_again hleast hpassed]
  refine ⟨Iff.rfl, fun hbrink => ?_⟩
  rw [← passed?_again hleast hpassed] at hbrink
  obtain ⟨again, hagain⟩ := Option.ne_none_iff_exists'.mp hbrink
  rw [← hrecord] at hagain
  obtain ⟨-, hreadAgain, hleft⟩ := beforeModelCall_passed hlater hagain later
  rw [hrecord] at hagain
  rw [hsecond, hturns, hleft]
  exact ⟨passed?_settled hpassed hagain, hreadAgain.held⟩

end Guarded

/-- A guard whose sliding window waits for more than four turns. -/
def fullGuard : Guard := Guard.install 0 [("a", .sliding wholeSettings 4)]

def summarizedStore : Store := .memory { entries := [(summaryPlace "a", .text "S")] }

/-- The call behind one that asked nothing asks, and compacts what the first one left. -/
theorem full_window_asks :
    let turns : List Turn := ["a", "b", "c", "d"].map (.ofText "user")
    let provider : Request → Reply := fun _ => .answer { content := .text "T" }
    let first := fullGuard.beforeModelCall {} { agent := "a" } provider turns summarizedStore
    let second := fullGuard.beforeModelCall {} { agent := "a" } provider first.turns first.store
    first.sent = none ∧ LedBy "S" first.turns ∧ second.sent ≠ none ∧ LedBy "T" second.turns ∧
      StandsAtBrink fullGuard {} { agent := "a" } (recordIn "a" summarizedStore) turns := by
  intro turns provider first second
  have hstore : GrantsReads "a" summarizedStore := fun _ _ => rfl
  have hleast : ∀ installed, fullGuard.strategyFor? "a" = some installed →
      (installed.strategy.settings.tuning.slidingLeast.integer?).isSome = true := by
    intro installed hinstalled
    cases hinstalled
    rfl
  have hquiet : first.sent = none := Option.isNone_iff_eq_none.mp (by decide +kernel)
  have hasks : second.sent ≠ none := Option.isSome_iff_ne_none.mp (by decide +kernel)
  obtain ⟨hsecond, -⟩ := quiet_call_again hstore hleast provider provider hquiet
  exact ⟨hquiet, by decide +kernel, hasks, by decide +kernel,
    not_not.mp (mt hsecond.mpr hasks)⟩

end Condense.Proofs
