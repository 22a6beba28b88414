import Condense.Proofs.ChosenBoundaries
import Condense.Proofs.CompactionResults
import Condense.Proofs.RealBounds

/-!
# What a compaction retains

A compaction cuts a list that may have become longer than the one it was given, by a summary that
was put in front. What it leaves is counted on the list that it was given: the summary stands in
front of its last turns, and nothing but old summaries is missing from both what was summarized and
what stays.
-/

namespace Condense.Proofs
open Summary

section Windows

variable {settings : Settings} {limit index : Nat} {turns : List Turn}

lemma boundaryBefore_lt {x : Binary64} (h : boundaryBefore turns (.real x) = .ok index)
    (hpos : 0 < index) : (Quantity.whole index).lt (.real x) = true := by
  unfold boundaryBefore at h
  dsimp only [Quantity.integer?] at h
  split at h
  · cases h
    contradiction
  · split at h
    case isTrue hend =>
      cases h
      exact hend
    case isFalse =>
      split at h
      · contradiction
      · split at h
        case h_1 call hcall =>
          obtain ⟨span, -, rfl, hlt⟩ := earliestAround_mem hcall
          cases h
          exact whole_lt_of_le (retreat_spec turns _ _).1 hlt
        case h_2 => contradiction

/-- A window leaves as many turns as it is to keep, also where that is a fraction and the difference
was rounded. -/
lemma window_keeps (h : Pending.boundary settings limit turns.length turns = .ok index)
    (hpos : 0 < index) :
    ∃ keep, settings.tuning.slidingKeep limit = .ok keep ∧
      (keep.integer?.isSome = true ∨ turns.length ≤ 2 ^ 53 →
        (Quantity.whole (turns.length - index : Nat)).lt keep = false) := by
  have hboundary := h
  simp only [Pending.boundary, bind_eq_ok, mapError_eq_ok] at h
  obtain ⟨keep, hkeep, wanted, hwanted, hbefore⟩ := h
  have hle := (boundaryBefore_safe hbefore).le_length
  refine ⟨keep, hkeep, fun hcounted => ?_⟩
  cases hn : keep.integer? with
  | some n =>
    rw [boundary_of_integer hkeep hn] at hboundary
    have hnear := safeBoundary_le turns (max 0 (turns.length - n))
    rw [Except.ok.inj hboundary] at hnear
    unfold Quantity.lt
    rw [hn]
    simp only [Quantity.integer?, decide_eq_false_iff_not]
    omega
  | none =>
    have hcount : turns.length ≤ 2 ^ 53 := by simpa [hn] using hcounted
    cases keep with
    | truth b => contradiction
    | whole n => contradiction
    | real x =>
      obtain ⟨y, -, rfl⟩ := sub_real_eq_ok hwanted
      unfold Quantity.max at hbefore
      split at hbefore
      -- The difference was rounded, but not past the boundary.
      case isTrue => exact not_lt_of_lt_sub hcount hle hwanted (boundaryBefore_lt hbefore hpos)
      case isFalse =>
        have hfront := safeBoundary_le turns 0
        rw [show safeBoundary turns 0 = index from Except.ok.inj hbefore] at hfront
        exact absurd hpos (Nat.not_lt.mpr hfront)

end Windows

/-- Enough turns stay: two where three or more were cut, or as many as the window keeps. A window that
keeps a fraction does so as long as floating point numbers count the turns. -/
def StaysEnough (strategy : Strategy) (before : List Turn) (kept : Nat) : Prop :=
  match strategy with
  | .threshold _ => 3 ≤ before.length → 2 ≤ kept
  | .slidingWindow settings limit _ =>
    ∃ keep, settings.tuning.slidingKeep limit = .ok keep ∧
      (keep.integer?.isSome = true ∨ before.length ≤ 2 ^ 53 →
        (Quantity.whole kept).lt keep = false)

/-- A compaction of the given turns is accounted for: of `before`, which was cut, `old` was
summarized, and `after` is left. -/
structure Accounted (strategy : Strategy) (call : Call) (turns before old after : List Turn)
    (result : Compaction) : Prop where
  kept_le : result.kept ≤ turns.length
  after_eq : after = turnOf result.summary.plain :: turns.drop (turns.length - result.kept)
  length_le : after.length ≤ turns.length
  exists_old : old ≠ []
  summarized : result.summarized = old.length
  split : ∃ bound ≤ before.length,
    old = (before.take bound).filter (fun turn => !isSummary turn) ∧
    turns.drop (turns.length - result.kept) = before.drop bound ∧
    result.summarized + result.kept + (before.take bound).countP isSummary = before.length
  enough : StaysEnough strategy before result.kept
  tokens : conversationTokens after call.system = .ok result.tokensAfter

section Lists

variable {turns before : List Turn} {bound : Nat}

/-- Whatever stands in front of the given turns, a cut that leaves something to be summarized lies
behind one of them. -/
lemma Fronted.drop_eq (h : Fronted turns before) (hle : bound ≤ before.length)
    (hold : (before.take bound).filter (fun turn => !isSummary turn) ≠ []) :
    ∃ place, 0 < place ∧ place ≤ turns.length ∧ before.drop bound = turns.drop place := by
  obtain ⟨earlier, rfl⟩ : ∃ earlier, bound = earlier + 1 := by
    refine ⟨bound - 1, (Nat.succ_pred ?_).symm⟩
    rintro rfl
    exact hold rfl
  cases h with
  | same => exact ⟨earlier + 1, Nat.succ_pos _, hle, rfl⟩
  | added hsummary hbare =>
    -- In front of the first given turn there is only the summary.
    refine ⟨earlier, Nat.pos_of_ne_zero ?_, Nat.le_of_succ_le_succ hle, rfl⟩
    rintro rfl
    simp at hold
  | renewed rest hsummary hlead => exact ⟨earlier + 1, Nat.succ_pos _, hle, rfl⟩

lemma length_take_eq (hle : bound ≤ before.length) :
    ((before.take bound).filter fun turn => !isSummary turn).length +
      (before.take bound).countP isSummary = bound := by
  have hcounts := List.length_eq_countP_add_countP isSummary (l := before.take bound)
  rw [List.length_take_of_le hle] at hcounts
  rw [← List.countP_eq_length_filter]
  simp only [Bool.not_eq_true, Bool.decide_eq_false] at hcounts
  omega

end Lists

lemma Prepared.accounted {strategy : Strategy} {settings : Settings} {call : Call} {previous : Text}
    {turns before : List Turn} {bound : Nat} {job : Job}
    (hjob : Prepared settings call previous before bound job) (hfronted : Fronted turns before)
    (henough : StaysEnough strategy before job.kept.length) {summary : Value} {result : Compaction}
    (hresult : job.result call summary = .ok result) :
    Accounted strategy call turns before job.request.turns (job.compacted summary) result := by
  rw [hjob.result_eq] at hresult
  cases hresult
  have hold := hjob.exists_old
  rw [hjob.old] at hold
  obtain ⟨place, hpos, hplace, hdrop⟩ := hfronted.drop_eq hjob.safe.le_length hold
  have hkept : job.kept.length = turns.length - place := by
    rw [hjob.kept, hdrop, List.length_drop]
  have hlast : turns.drop (turns.length - job.kept.length) = before.drop bound := by
    rw [hkept, Nat.sub_sub_self hplace, hdrop]
  exact {
    kept_le := by
      dsimp only
      omega
    after_eq := by
      dsimp only
      rw [hlast, ← hjob.kept]
      rfl
    length_le := by
      have hlength : (job.compacted summary).length = job.kept.length + 1 := rfl
      omega
    exists_old := hjob.exists_old
    summarized := rfl
    split := by
      refine ⟨bound, hjob.safe.le_length, hjob.old, hlast, ?_⟩
      have htaken := length_take_eq hjob.safe.le_length
      have hstays : job.kept.length = before.length - bound := by rw [hjob.kept, List.length_drop]
      have hle := hjob.safe.le_length
      dsimp only
      rw [hjob.old]
      omega
    enough := henough
    tokens := hjob.tokens_eq summary }

/-- What work goes on with, if it goes on. -/
def going? {α : Type} : Next α → Option α
  | .go value => some value
  | _ => none

lemma going?_eq_some {α : Type} {next : Next α} {value : α} :
    going? next = some value ↔ next = .go value := by
  cases next <;> simp [going?]

/-- The job that both looks at the record lead to. What is known of the models may change in between. -/
def ledTo? (strategy : Strategy) (registry later : Registry) (call : Call) (looks : Looks)
    (turns : List Turn) : Option Job := do
  let plan ← (strategy.plan registry call turns).2.toOption
  let stretch := plan.check call looks.first turns
  let pending ← going? stretch.next
  going? (pending.recheck later call looks.second stretch.turns).next

section Looks

variable {strategy : Strategy} {registry later : Registry} {call : Call} {looks : Looks}
  {turns : List Turn} {job : Job}

lemma summarizeOver_enough {settings : Settings} {limits : Limits} {previous : Text} {tokens : Nat}
    {before : List Turn}
    (h : (Pending.summarizeOver settings limits call previous tokens before).next = .go job) :
    StaysEnough (.threshold settings) before job.kept.length := by
  obtain ⟨-, -, -, budget, hkept⟩ := summarizeOver_go h
  have hle := budgetBoundary_le before budget
  intro hthree
  rw [leastKept, if_pos hthree] at hle
  rw [hkept, List.length_drop]
  omega

lemma recheck_enough {after : List Turn} {notices : List Notice} {pending : Pending}
    (h : Checked call looks.first turns strategy ⟨after, notices, .go pending⟩)
    (hgo : (pending.recheck later call looks.second after).next = .go job) :
    StaysEnough strategy (cutTurns strategy looks turns) job.kept.length := by
  cases h with
  | threshold settings limits _ hmeasured =>
    unfold Pending.recheck at hgo
    dsimp only at hgo
    split at hgo
    case isTrue hsame =>
      have hcut : cutTurns (.threshold settings) looks turns = inject looks.first.summary turns :=
        if_pos hsame
      rw [hcut]
      exact summarizeOver_enough hgo
    case isFalse hother =>
      have hcut : cutTurns (.threshold settings) looks turns =
          renew looks.second.summary (inject looks.first.summary turns) := if_neg hother
      rw [hcut]
      split at hgo
      · contradiction
      · split at hgo
        · contradiction
        · exact summarizeOver_enough hgo
  | slidingWindow settings limit positive _ =>
    unfold Pending.recheck at hgo
    dsimp only at hgo
    split at hgo
    · contradiction
    · obtain ⟨tokens, index, request, -, hindex, hold, -, rfl⟩ := summarizeBefore_go.mp hgo
      have hpos : 0 < index := by
        apply Nat.pos_of_ne_zero
        rintro rfl
        exact hold rfl
      have hlength : (cut turns index).2.length = turns.length - index := List.length_drop
      rw [hlength]
      exact window_keeps hindex hpos

lemma ledTo?_eq_some : ledTo? strategy registry later call looks turns = some job ↔
    ∃ plan pending, (strategy.plan registry call turns).2 = .ok plan ∧
      (plan.check call looks.first turns).next = .go pending ∧
      (pending.recheck later call looks.second (plan.check call looks.first turns).turns).next =
        .go job := by
  unfold ledTo?
  cases (strategy.plan registry call turns).2 with
  | error fault => simp [Except.toOption]
  | ok plan => simp [Except.toOption, Option.bind_eq_some_iff, going?_eq_some]

lemma ledTo?_accounted (h : ledTo? strategy registry later call looks turns = some job)
    {summary : Value} {result : Compaction} (hresult : job.result call summary = .ok result) :
    Accounted strategy call turns (cutTurns strategy looks turns) job.request.turns
      (job.compacted summary) result := by
  obtain ⟨plan, pending, hplan, hcheck, hrecheck⟩ := ledTo?_eq_some.mp h
  have hchecked := check_checked hplan looks.first
  generalize plan.check call looks.first turns = stretch at hcheck hrecheck hchecked
  rcases stretch with ⟨after, notices, next⟩
  obtain rfl : next = .go pending := hcheck
  have henough := recheck_enough hchecked hrecheck
  have hrechecked := recheck_rechecked looks hchecked later
  generalize pending.recheck later call looks.second after = stretch at hrecheck hrechecked
  cases hrechecked with
  | stop | fail => contradiction
  | go told hjob =>
    cases hrecheck
    exact hjob.accounted (cutTurns_fronted strategy looks turns) henough hresult

lemma compact_silent {provider : Request → Reply} {store : Store} {result : Compaction}
    (h : (strategy.compact registry call provider turns store).outcome = .ok (some result)) :
    ∃ job summary, ledTo? strategy registry registry call (looksAt call.agent store) turns = some job ∧
      job.result call summary = .ok result ∧
      silent (strategy.compact registry call provider turns store) =
        ⟨job.compacted summary, savedIn call.agent job summary (looksAt call.agent store).twice, [],
          some job.request, .ok (some result)⟩ := by
  obtain ⟨plan, hplan⟩ := exists_plan h
  have hrun : silent (strategy.compact registry call provider turns store) = _ :=
    silent_compact_planned hplan
  obtain ⟨pending, hcheck⟩ := exists_pending ((congrArg Run.outcome hrun).symm.trans h)
  rw [silent_confirm_go hcheck] at hrun
  obtain ⟨job, hrecheck⟩ := exists_job ((congrArg Run.outcome hrun).symm.trans h)
  rw [silent_perform_go hrecheck] at hrun
  obtain ⟨summary, hresult, hperform⟩ := exists_summary ((congrArg Run.outcome hrun).symm.trans h)
  rw [hperform] at hrun
  exact ⟨job, summary, ledTo?_eq_some.mpr ⟨plan, pending, hplan, hcheck, hrecheck⟩, hresult, hrun⟩

lemma compact_ledTo {provider : Request → Reply} {store : Store} {result : Compaction}
    (h : (strategy.compact registry call provider turns store).outcome = .ok (some result)) :
    ∃ job summary, ledTo? strategy registry registry call (looksAt call.agent store) turns = some job ∧
      job.result call summary = .ok result ∧
      (strategy.compact registry call provider turns store).turns = job.compacted summary ∧
      (strategy.compact registry call provider turns store).sent = some job.request := by
  obtain ⟨job, summary, hled, hresult, hrun⟩ := compact_silent h
  exact ⟨job, summary, hled, hresult, congrArg Run.turns hrun, congrArg Run.sent hrun⟩

end Looks

/-- A compaction is accounted for, whatever the looks at the record found, and so is the one that a
call makes from beginning to end. -/
theorem compaction_accounted :
    (∀ (strategy : Strategy) (registry later : Registry) (call : Call) (looks : Looks)
      (turns : List Turn) (job : Job) (summary : Value) (result : Compaction),
      ledTo? strategy registry later call looks turns = some job →
      job.result call summary = .ok result →
      Accounted strategy call turns (cutTurns strategy looks turns) job.request.turns
        (job.compacted summary) result) ∧
    ∀ (strategy : Strategy) (registry : Registry) (call : Call) (provider : Request → Reply)
      (turns : List Turn) (store : Store) (result : Compaction),
      let run := strategy.compact registry call provider turns store
      run.outcome = .ok (some result) →
      ∃ request, run.sent = some request ∧
        Accounted strategy call turns (cutTurns strategy (looksAt call.agent store) turns)
          request.turns run.turns result := by
  constructor
  · intro strategy registry later call looks turns job summary result hled hresult
    exact ledTo?_accounted hled hresult
  · intro strategy registry call provider turns store result run houtcome
    obtain ⟨job, summary, hled, hresult, hturns, hsent⟩ := compact_ledTo houtcome
    refine ⟨job.request, hsent, ?_⟩
    rw [show run.turns = job.compacted summary from hturns]
    exact ledTo?_accounted hled hresult

/-- Four turns that reach the threshold of eight tokens. -/
def fourTurns : List Turn := [
  .ofText "user" "a question", .ofText "assistant" "an answer", .ofText "user" "thank you",
  .ofText "assistant" "you are welcome"]

/-- A call that finds a summary, and another one when it looks again. -/
def changedLooks : Looks := ⟨{ summary := "old" }, .empty, { summary := "later" }, .empty⟩

/-- Of the four turns behind the later summary two are summarized and two stay. A window summarizes
the first one of the four. -/
theorem fourTurns_accounted :
    (∃ job result,
      ledTo? (.threshold wholeSettings) {} {} { agent := "a" } changedLooks fourTurns = some job ∧
      job.result { agent := "a" } (.text "new") = .ok result ∧
      Accounted (.threshold wholeSettings) { agent := "a" } fourTurns (turnOf "later" :: fourTurns)
        job.request.turns (job.compacted (.text "new")) result ∧
      result.summarized = 2 ∧ result.kept = 2) ∧
    let window := Strategy.sliding wholeSettings 2
    let run := window.compact {} { agent := "a" } (fun _ => .answer { content := .text "S" })
      fourTurns .empty
    ∃ request result, run.outcome = .ok (some result) ∧ run.sent = some request ∧
      Accounted window { agent := "a" } fourTurns fourTurns request.turns run.turns result := by
  constructor
  · have hcounts : ((ledTo? (.threshold wholeSettings) {} {} { agent := "a" } changedLooks
        fourTurns).bind fun job => (job.result { agent := "a" } (.text "new")).toOption).map
          (fun result => (result.summarized, result.kept)) = some (2, 2) := by decide +kernel
    obtain ⟨result, hfound, hcounts⟩ := Option.map_eq_some_iff.mp hcounts
    obtain ⟨job, hled, hfound⟩ := Option.bind_eq_some_iff.mp hfound
    have hresult : job.result { agent := "a" } (.text "new") = .ok result := by
      cases hany : job.result { agent := "a" } (.text "new") with
      | error fault =>
        rw [hany] at hfound
        contradiction
      | ok other =>
        rw [hany] at hfound
        exact congrArg Except.ok (Option.some.inj hfound)
    obtain ⟨hsummarized, hkept⟩ := Prod.mk.inj hcounts
    exact ⟨job, result, hled, hresult,
      compaction_accounted.1 _ _ _ _ _ _ _ _ _ hled hresult, hsummarized, hkept⟩
  · have hsome : (compaction? ((Strategy.sliding wholeSettings 2).compact {} { agent := "a" }
        (fun _ => .answer { content := .text "S" }) fourTurns .empty)).isSome = true := by
      decide +kernel
    obtain ⟨result, hresult⟩ := exists_compaction hsome
    obtain ⟨request, hsent, haccounted⟩ := compaction_accounted.2 _ _ _ _ _ _ result hresult
    exact ⟨request, result, hresult, hsent, haccounted⟩

end Condense.Proofs
