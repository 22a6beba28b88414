import Condense.Config.Validate
import Condense.Proofs.RealShares
import Condense.Proofs.ThresholdRivals

/-!
# What a buffer leaves of a window

The threshold of a compaction lies below the context window by a buffer. For a small window the
buffer is a share of it, which is less than the window in floating point too; for a large one it is
a number of tokens of its own, and nothing keeps it below the window. Where it is not, the
conversation is summarized however short it is.
-/

namespace Condense.Proofs
open Summary

section Settings

variable {members : List (Key × Value)} {settings : CompactionSettings}

lemma part_eq_ok {α β : Type} {whole : Condense.Checked (α → β)} {next : Condense.Checked α} {b : β}
    (h : whole.part next = .ok b) : ∃ f a, whole = .ok f ∧ next = .ok a ∧ f a = b := by
  cases whole with
  | error issues => cases next <;> exact nomatch h
  | ok f =>
    cases next with
    | error issues => exact nomatch h
    | ok a => exact ⟨f, a, rfl, rfl, Except.ok.inj h⟩

/-- A setting is the default or what has been read. -/
lemma setting_cases {α : Type} {name : String} {default a : α} {read : Value → Condense.Checked α}
    (h : Lenient.setting members name default read = .ok a) :
    a = default ∨ ∃ v, read v = .ok a := by
  unfold Lenient.setting at h
  split at h
  case h_1 v hmember =>
    right
    refine ⟨v, ?_⟩
    cases hread : read v with
    | error issues =>
      rw [hread] at h
      exact nomatch h
    | ok found =>
      rw [hread] at h
      exact h
  case h_2 => exact Or.inl (Except.ok.inj h).symm

lemma properShare_eq_ok {v : Value} {x : Binary64} (h : Lenient.properShare v = .ok x) :
    Positive x ∧ x.lt Lenient.one = true := by
  unfold Lenient.properShare at h
  cases hreal : Lenient.real v with
  | error issues =>
    rw [hreal] at h
    exact nomatch h
  | ok y =>
    rw [hreal] at h
    change (if y.lt Lenient.one then Lenient.positive y else .issue .lessThan) = .ok x at h
    unfold Lenient.positive at h
    split at h
    case isTrue hless =>
      split at h
      case isTrue hpositive => exact Except.ok.inj h ▸ ⟨hpositive, hless⟩
      case isFalse => exact nomatch h
    case isFalse => exact nomatch h

/-- The share of a small window that is read lies between zero and one. -/
theorem proper_ratio (h : CompactionSettings.read members = .ok settings) :
    Positive settings.smallWindowRatio ∧ settings.smallWindowRatio.lt Lenient.one = true := by
  unfold CompactionSettings.read at h
  obtain ⟨_, least, hsliding, -, rfl⟩ := part_eq_ok h
  obtain ⟨_, sliding, hchars, -, rfl⟩ := part_eq_ok hsliding
  obtain ⟨_, chars, hwords, -, rfl⟩ := part_eq_ok hchars
  obtain ⟨_, words, hsummary, -, rfl⟩ := part_eq_ok hwords
  obtain ⟨_, summary, hrecent, -, rfl⟩ := part_eq_ok hsummary
  obtain ⟨_, recent, hsmall, -, rfl⟩ := part_eq_ok hrecent
  obtain ⟨_, ratio, hbuffer, hratio, rfl⟩ := part_eq_ok hsmall
  obtain ⟨_, buffer, hthreshold, -, rfl⟩ := part_eq_ok hbuffer
  obtain ⟨_, threshold, hmake, -, rfl⟩ := part_eq_ok hthreshold
  cases hmake
  rcases setting_cases hratio with rfl | ⟨v, hread⟩
  · exact validCompaction_default.smallWindowRatio
  · exact properShare_eq_ok hread

end Settings

section Limits

variable {settings : CompactionSettings} {window : Quantity} {limits : Limits}

/-- The window counts as large. -/
def isLarge (settings : CompactionSettings) (window : Quantity) : Bool :=
  (Quantity.whole settings.largeWindowThreshold).lt window

/-- If the window counts as large, the buffer leaves something of it. -/
def LeavesRoom (settings : CompactionSettings) (window : Quantity) : Prop :=
  isLarge settings window = true →
    ∃ rest, window.sub (.whole settings.largeWindowBuffer) = .ok rest ∧
      (Quantity.whole 0).lt rest = true

/-- Nothing that is needed in floating point is too large for it. -/
def Computable (settings : CompactionSettings) (window : Quantity) : Prop :=
  if isLarge settings window then
    ∃ rest, window.sub (.whole settings.largeWindowBuffer) = .ok rest
  else ∃ x, window.toReal = .ok x

/-- Below a window of so many tokens room is left unless the buffer is no less. -/
theorem leavesRoom_whole (settings : CompactionSettings) (n : Int) :
    LeavesRoom settings (.whole n) ↔
      (settings.largeWindowThreshold < n → settings.largeWindowBuffer < n) := by
  unfold LeavesRoom isLarge
  rw [Quantity.lt_whole, Quantity.sub_whole, decide_eq_true_eq]
  constructor
  · intro h hlarge
    obtain ⟨rest, hrest, hpositive⟩ := h hlarge
    cases hrest
    have := of_decide_eq_true hpositive
    omega
  · intro h hlarge
    have hless := h hlarge
    exact ⟨_, rfl, decide_eq_true (by omega)⟩

lemma limits_eq_ok {tuning : Tuning} :
    Limits.of tuning window = .ok limits ↔
      tuning.buffer window = .ok limits.buffer ∧
        window.sub limits.buffer = .ok limits.threshold ∧ limits.window = window := by
  obtain ⟨limitsWindow, buffer, threshold⟩ := limits
  unfold Limits.of
  simp only [bind_eq_ok, mapError_eq_ok]
  constructor
  · rintro ⟨found, hbuffer, rest, hrest, hpure⟩
    cases hpure
    exact ⟨hbuffer, hrest, rfl⟩
  · rintro ⟨hbuffer, hrest, rfl⟩
    exact ⟨buffer, hbuffer, threshold, hrest, rfl⟩

lemma buffer_of_large (h : isLarge settings window = true) :
    settings.tuning.buffer window = .ok (.whole settings.largeWindowBuffer) := if_pos h

lemma buffer_of_small (h : isLarge settings window = false) :
    settings.tuning.buffer window =
      (share window (.real settings.smallWindowRatio)).map .whole :=
  if_neg (Bool.eq_false_iff.mp h)

lemma toReal_of_small (hsmall : isLarge settings window = false)
    (hlimits : Limits.of settings.tuning window = .ok limits) :
    ∃ x, window.toReal = .ok x := by
  have hbuffer := (limits_eq_ok.mp hlimits).1
  rw [buffer_of_small hsmall, share_real] at hbuffer
  cases hx : window.toReal with
  | error why =>
    rw [hx] at hbuffer
    exact nomatch hbuffer
  | ok x => exact ⟨x, rfl⟩

variable (hratio : Positive settings.smallWindowRatio ∧
  settings.smallWindowRatio.lt Lenient.one = true)
  (hwindow : (Quantity.whole 0).lt window = true)

include hratio hwindow

/-- The buffer of a small window is less than the window, and leaves something of it. -/
lemma exists_small (hsmall : isLarge settings window = false) {x : Binary64}
    (hx : window.toReal = .ok x) :
    ∃ limits, Limits.of settings.tuning window = .ok limits ∧
      limits.buffer.lt window = true ∧ (Quantity.whole 0).lt limits.threshold = true := by
  have hfinite : window ≠ .real (.infinite false) := by
    rintro rfl
    have hlarge : isLarge settings (.real (.infinite false)) = true := rfl
    exact Bool.false_ne_true (hsmall.symm.trans hlarge)
  obtain ⟨b, hshare, hless, rest, hrest, hpositive⟩ := share_of_window hwindow hfinite hx hratio
  refine ⟨⟨window, .whole b, rest⟩, limits_eq_ok.mpr ⟨?_, hrest, rfl⟩, hless, hpositive⟩
  rw [buffer_of_small hsmall, hshare]
  rfl

theorem exists_limits_iff :
    (∃ limits, Limits.of settings.tuning window = .ok limits) ↔ Computable settings window := by
  unfold Computable
  cases hlarge : isLarge settings window with
  | true =>
    rw [if_pos rfl]
    constructor
    · rintro ⟨limits, hlimits⟩
      obtain ⟨hbuffer, hrest, -⟩ := limits_eq_ok.mp hlimits
      rw [buffer_of_large hlarge] at hbuffer
      exact ⟨_, Except.ok.inj hbuffer ▸ hrest⟩
    · rintro ⟨rest, hrest⟩
      exact ⟨⟨window, _, rest⟩, limits_eq_ok.mpr ⟨buffer_of_large hlarge, hrest, rfl⟩⟩
  | false =>
    rw [if_neg Bool.false_ne_true]
    constructor
    · rintro ⟨limits, hlimits⟩
      exact toReal_of_small hlarge hlimits
    · rintro ⟨x, hx⟩
      obtain ⟨limits, hlimits, -⟩ := exists_small hratio hwindow hlarge hx
      exact ⟨limits, hlimits⟩

theorem buffer_lt_iff (hlimits : Limits.of settings.tuning window = .ok limits) :
    limits.buffer.lt window = true ↔ (isLarge settings window = true →
      (Quantity.whole settings.largeWindowBuffer).lt window = true) := by
  cases hlarge : isLarge settings window with
  | true =>
    have hbuffer := (limits_eq_ok.mp hlimits).1
    rw [buffer_of_large hlarge] at hbuffer
    rw [← Except.ok.inj hbuffer]
    exact ⟨fun h _ => h, fun h => h rfl⟩
  | false =>
    obtain ⟨x, hx⟩ := toReal_of_small hlarge hlimits
    obtain ⟨found, hfound, hless, -⟩ := exists_small hratio hwindow hlarge hx
    rw [Except.ok.inj (hlimits.symm.trans hfound)]
    exact ⟨fun _ => nofun, fun _ => hless⟩

theorem threshold_positive_iff (hlimits : Limits.of settings.tuning window = .ok limits) :
    (Quantity.whole 0).lt limits.threshold = true ↔ LeavesRoom settings window := by
  unfold LeavesRoom
  cases hlarge : isLarge settings window with
  | true =>
    obtain ⟨hbuffer, hrest, -⟩ := limits_eq_ok.mp hlimits
    rw [buffer_of_large hlarge] at hbuffer
    rw [← Except.ok.inj hbuffer] at hrest
    rw [hrest]
    constructor
    · exact fun hpositive _ => ⟨_, rfl, hpositive⟩
    · intro h
      obtain ⟨rest, hsame, hpositive⟩ := h rfl
      exact Except.ok.inj hsame ▸ hpositive
  | false =>
    obtain ⟨x, hx⟩ := toReal_of_small hlarge hlimits
    obtain ⟨found, hfound, -, hpositive⟩ := exists_small hratio hwindow hlarge hx
    rw [Except.ok.inj (hlimits.symm.trans hfound)]
    exact ⟨fun _ => nofun, fun _ => hpositive⟩

end Limits

section Decisions

variable {settings : Condense.Settings} {limits : Limits} {registry : Registry} {call : Call}
  {record : Record} {turns : List Turn}

lemma lt_of_le_whole {least most : Nat} (hle : least ≤ most) {q : Quantity}
    (h : (Quantity.whole most).lt q = true) : (Quantity.whole least).lt q = true := by
  cases hinteger : q.integer? with
  | some w =>
    rw [lt_of_integer hinteger, decide_eq_true_eq] at h ⊢
    omega
  | none =>
    cases q with
    | truth | whole => contradiction
    | real x => exact whole_lt_of_le hle h

lemma pos_of_reached {tokens : Nat} (hpositive : (Quantity.whole 0).lt limits.threshold = true)
    (hreached : staysBelow tokens limits.threshold = false) : 0 < tokens := by
  rw [Nat.pos_iff_ne_zero]
  rintro rfl
  exact Bool.false_ne_true (hreached.symm.trans hpositive)

lemma summarizeOver_tokens {previous : Text} {tokens : Nat} {job : Job}
    (h : (Pending.summarizeOver settings limits call previous tokens turns).next = .go job) :
    job.tokensBefore = tokens := by
  unfold Pending.summarizeOver at h
  split at h
  case h_1 => contradiction
  case h_2 budget hbudget =>
    dsimp only at h
    split at h
    case isTrue => contradiction
    case isFalse =>
      split at h
      case h_1 => contradiction
      case h_2 request hrequest =>
        cases h
        rfl

/-- Nothing that is measured at zero is summarized below a positive threshold, whatever comes between
the two looks at the record. -/
lemma job_positive (hpositive : (Quantity.whole 0).lt limits.threshold = true) {pending : Pending}
    (hcheck : (Plan.check (.threshold settings limits) call record turns).next = .go pending)
    {record' : Record} {turns' : List Turn} {job : Job}
    (hgo : (pending.recheck registry call record' turns').next = .go job) :
    0 < job.tokensBefore := by
  obtain ⟨tokens, rfl, -, hreached, -⟩ := check_threshold_go hcheck
  unfold Pending.recheck at hgo
  dsimp only at hgo
  split at hgo
  case isTrue =>
    rw [summarizeOver_tokens hgo]
    exact pos_of_reached hpositive hreached
  case isFalse =>
    split at hgo
    case h_1 => contradiction
    case h_2 found hmeasure =>
      split at hgo
      case isTrue => contradiction
      case isFalse hreached' =>
        rw [summarizeOver_tokens hgo]
        exact pos_of_reached hpositive (Bool.eq_false_iff.mpr hreached')

lemma check_zero (hpositive : (Quantity.whole 0).lt limits.threshold = true)
    (hmeasure : measure call (inject record.summary turns) = .ok 0) :
    Plan.check (.threshold settings limits) call record turns =
      ⟨inject record.summary turns, [], .stop⟩ := by
  have hbelow : staysBelow 0 limits.threshold = true := hpositive
  unfold Plan.check
  dsimp only
  rw [hmeasure]
  dsimp only
  rw [if_pos hbelow]

/-- Where the threshold is not positive every conversation reaches it. -/
lemma check_goes_on (hspent : (Quantity.whole 0).lt limits.threshold ≠ true) :
    (Plan.check (.threshold settings limits) call record turns).next ≠ .stop := by
  unfold Plan.check
  dsimp only
  cases measure call (inject record.summary turns) with
  | error fault => exact nofun
  | ok tokens =>
    have hreached : ¬staysBelow tokens limits.threshold = true := fun hbelow =>
      hspent (lt_of_le_whole (Nat.zero_le tokens) hbelow)
    dsimp only
    rw [if_neg hreached]
    split <;> exact nofun

/-- A conversation that is measured at zero is left alone below a positive threshold. -/
lemma compact_zero {window : Quantity}
    (hresolved : (settings.window registry call.model).2 = .ok window)
    (hlimits : Limits.of settings.tuning window = .ok limits)
    (hpositive : (Quantity.whole 0).lt limits.threshold = true)
    (provider : Request → Reply) {store : Store}
    (hmeasure : measure call (inject (recordIn call.agent store).summary turns) = .ok 0) :
    ((Strategy.threshold settings).compact registry call provider turns store).sent = none ∧
      ((Strategy.threshold settings).compact registry call provider turns store).outcome =
        .ok none := by
  have hplan : ((Strategy.threshold settings).plan registry call turns).2 =
      .ok (.threshold settings limits) := by
    unfold Strategy.plan
    dsimp only
    rw [hresolved]
    change (Limits.of settings.tuning window >>= fun limits =>
      .ok (Plan.threshold settings limits)) = _
    rw [hlimits]
    rfl
  have hcheck : Plan.check (.threshold settings limits) call
      (Record.load call.agent store).2.2 turns = _ := check_zero hpositive hmeasure
  unfold Strategy.compact
  generalize (Strategy.threshold settings).plan registry call turns = planned at hplan
  obtain ⟨notices, plan⟩ := planned
  cases hplan
  dsimp only
  rw [hcheck]
  exact ⟨rfl, rfl⟩

end Decisions

/-- Under settings that have been read, the buffer below a window is less than the window unless the
window counts as large and the buffer of large windows is no less. If room is left below the window,
a conversation that is measured at zero is left alone, and nothing is ever summarized that was
measured at zero. If none is left, no conversation is left alone. -/
theorem idle_iff_leavesRoom {members : List (Key × Value)} {settings : CompactionSettings}
    (hread : CompactionSettings.read members = .ok settings) {strategy : Condense.Settings}
    (htuning : strategy.tuning = settings.tuning) {registry : Registry} {call : Call}
    {window : Quantity} (hresolved : (strategy.window registry call.model).2 = .ok window)
    (hwindow : (Quantity.whole 0).lt window = true) :
    ((∃ limits, Limits.of strategy.tuning window = .ok limits) ↔ Computable settings window) ∧
      ∀ limits, Limits.of strategy.tuning window = .ok limits →
        (limits.buffer.lt window = true ↔ (isLarge settings window = true →
          (Quantity.whole settings.largeWindowBuffer).lt window = true)) ∧
        ((Quantity.whole 0).lt limits.threshold = true ↔ LeavesRoom settings window) ∧
        (LeavesRoom settings window →
          (∀ provider turns store,
            measure call (inject (recordIn call.agent store).summary turns) = .ok 0 →
              ((Strategy.threshold strategy).compact registry call provider turns store).sent =
                none ∧
              ((Strategy.threshold strategy).compact registry call provider turns store).outcome =
                .ok none) ∧
          ∀ record turns pending,
            (Plan.check (.threshold strategy limits) call record turns).next = .go pending →
            ∀ record' turns' job,
              (pending.recheck registry call record' turns').next = .go job →
                0 < job.tokensBefore) ∧
        (¬LeavesRoom settings window → ∀ record turns,
          (Plan.check (.threshold strategy limits) call record turns).next ≠ .stop) := by
  have hratio := proper_ratio hread
  rw [htuning]
  refine ⟨exists_limits_iff hratio hwindow, fun limits hlimits => ?_⟩
  have hthreshold := threshold_positive_iff hratio hwindow hlimits
  refine ⟨buffer_lt_iff hratio hwindow hlimits, hthreshold, fun hroom => ⟨?_, ?_⟩, ?_⟩
  · intro provider turns store hmeasure
    rw [← htuning] at hlimits
    exact compact_zero hresolved hlimits (hthreshold.mpr hroom) provider hmeasure
  · intro record turns pending hcheck record' turns' job hgo
    exact job_positive (hthreshold.mpr hroom) hcheck hgo
  · intro hspent record turns
    exact check_goes_on (mt hthreshold.mp hspent)

/-- With a low threshold for large windows the usual buffer exceeds a window. Three words, which are
measured at zero, are then summarized. -/
theorem lowThreshold_leaves_no_room :
    let settings : CompactionSettings := { largeWindowThreshold := 10000 }
    let strategy : Condense.Settings := {
      model := "m"
      summaryModel := "m"
      windowOverride := some (.whole 16000)
      tuning := settings.tuning }
    let limits : Limits := ⟨.whole 16000, .whole 20000, .whole (-4000)⟩
    let call : Call := { agent := "a" }
    let turns : List Turn := [.ofText "user" "hi", .ofText "assistant" "yes", .ofText "user" "go"]
    let answer : Reply := .answer { content := .text "S" }
    CompactionSettings.read [(.text "large_context_window_threshold", .int 10000)] = .ok settings ∧
      (strategy.window {} call.model).2 = .ok (.whole 16000) ∧
      Limits.of strategy.tuning (.whole 16000) = .ok limits ∧
      limits.buffer.lt (.whole 16000) = false ∧
      (∀ record turns, (Plan.check (.threshold strategy limits) call record turns).next ≠ .stop) ∧
      (compaction? ((Strategy.threshold strategy).compact {} call (fun _ => answer) turns
        (.memory {}))).map (·.tokensBefore) = some 0 := by
  intro settings strategy limits call turns answer
  have hread : CompactionSettings.read
      [(.text "large_context_window_threshold", .int 10000)] = .ok settings := by rfl
  have hresolved : (strategy.window {} call.model).2 = .ok (.whole 16000) := rfl
  have hlimits : Limits.of strategy.tuning (.whole 16000) = .ok limits := rfl
  have hspent : ¬LeavesRoom settings (.whole 16000) := by
    rw [leavesRoom_whole]
    decide
  obtain ⟨-, hall⟩ := idle_iff_leavesRoom hread rfl hresolved rfl
  obtain ⟨hbuffer, -, -, hnever⟩ := hall limits hlimits
  refine ⟨hread, hresolved, hlimits, ?_, hnever hspent, by decide +kernel⟩
  rw [Bool.eq_false_iff, Ne, hbuffer]
  intro hless
  exact absurd (hless rfl) (by decide)

end Condense.Proofs
