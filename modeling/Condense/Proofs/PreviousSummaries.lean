import Condense.Proofs.Dialogue

/-!
# The summary before this one

A summary lives twice, in front of the list and in the store. A compaction drops the copy in the
list and passes on what it reads from the store, so that the summary is passed on if and only if the
store still gives it out. That both copies agree rests on the writes: as long as no write of a
summary was refused, only a refused read can lose one.
-/

namespace Condense.Proofs
open Summary

/-- The list begins with the turn that carries a summary. -/
def LedBy (summary : Text) (turns : List Turn) : Prop := turns.head? = some (turnOf summary)

instance (summary : Text) (turns : List Turn) : Decidable (LedBy summary turns) :=
  match turns with
  | ⟨role, [.text t]⟩ :: _ =>
    decidable_of_iff (role = "user" ∧ t = openingMarker ++ "\n" ++ summary ++ "\n" ++ closingMarker)
      (by simp [LedBy, turnOf, Turn.ofText])
  | [] => isFalse (by simp [LedBy])
  | ⟨_, []⟩ :: _ => isFalse (by simp [LedBy, turnOf, Turn.ofText])
  | ⟨_, _ :: _ :: _⟩ :: _ => isFalse (by simp [LedBy, turnOf, Turn.ofText])
  | ⟨_, [.call ..]⟩ :: _ => isFalse (by simp [LedBy, turnOf, Turn.ofText])
  | ⟨_, [.result ..]⟩ :: _ => isFalse (by simp [LedBy, turnOf, Turn.ofText])
  | ⟨_, [.other _]⟩ :: _ => isFalse (by simp [LedBy, turnOf, Turn.ofText])

lemma turnOf_inj {summary other : Text} : turnOf summary = turnOf other ↔ summary = other := by
  simp [turnOf, Turn.ofText]

lemma Plain.not_ledBy {turns : List Turn} (h : Plain turns) (summary : Text) :
    ¬LedBy summary turns := by
  intro hled
  have hisLed : isLed turns = true := by
    unfold isLed
    rw [hled]
    exact isSummary_turnOf summary
  rw [h.not_isLed] at hisLed
  contradiction

lemma LedBy.of_append {turns more : List Turn} {summary : Text}
    (h : LedBy summary (turns ++ more)) (hmore : Plain more) : LedBy summary turns := by
  cases turns with
  | nil => exact absurd h (hmore.not_ledBy summary)
  | cons first rest => exact h

lemma Behind.of_ledBy {kept turns : List Turn} {summary : Text} (h : Behind kept turns)
    (hplain : Plain kept) (hled : LedBy summary turns) :
    summary ≠ [] ∧ turns = turnOf summary :: kept := by
  cases h with
  | bare => exact absurd hled (hplain.not_ledBy summary)
  | led hother =>
    rw [turnOf_inj.mp (Option.some.inj hled)] at hother ⊢
    exact ⟨hother, rfl⟩

/-- The provider answers in texts. -/
def Event.IsTextual : Event → Prop
  | .append _ => True
  | .call _ _ _ provider => ∀ request answer, provider request = .answer answer →
      ∀ octets, answer.content ≠ .bytes octets

/-- A table that has not refused any write of an agent's summary so far. -/
def AllKept (agent : Text) : Store → Prop
  | .memory table =>
    ∀ count < table.accesses, table.refuses count (.write agent Record.summaryKey) = false
  | .file _ => False

/-- The summary that leads the turns, if one does, is the one in the store. -/
def Agrees (agent : Text) (turns : List Turn) (store : Store) : Prop :=
  ∀ summary, LedBy summary turns → found? (summaryPlace agent) store = some (.text summary)

lemma AllKept.of_consulted {agent : Text} {store read : Store} (hall : AllKept agent read)
    (h : Consulted store read) : AllKept agent store := by
  cases h with
  | memory table hcount => exact fun count hlt => hall count (Nat.lt_of_lt_of_le hlt hcount)
  | file store => exact hall
  | emptied store hown hcontents => exact hall

lemma Found.agrees {agent : Text} {store : Store} {kept turns after : List Turn}
    (h : Found (looksAt agent store) kept turns after) (hagrees : Agrees agent turns store) :
    Agrees agent after store := by
  cases h with
  | same => exact hagrees
  | @led found hsome hfound =>
    intro summary hled
    obtain rfl : found = summary := turnOf_inj.mp (Option.some.inj hled)
    rcases hfound with hfirst | hsecond
    · exact found?_of_recordIn hsome hfirst.symm
    · rw [looksAt_second] at hsecond
      rw [← (lookedAt_consulted agent store).held]
      exact found?_of_recordIn hsome hsecond.symm

lemma summary_eq_text {request : Request} {limit : Option Quantity} {reply : Reply}
    {summary : Value}
    (h : ∀ answer, reply = .answer answer → ∀ octets, answer.content ≠ .bytes octets)
    (hsummary : (request.receive limit reply).2 = .ok summary) : ∃ t, summary = .text t := by
  obtain ⟨answer, hanswer, -, ⟨-, -, -, t, -, htext⟩ | ⟨hcontent, -⟩⟩ := receive_eq_ok hsummary
  · exact ⟨t, htext⟩
  · rcases content_eq_ok hcontent with htext | ⟨octets, hoctets, -⟩
    · exact htext
    · exact absurd hoctets (h answer hanswer octets)

/-- A list and a store agree after a summary has been kept, unless that was refused. -/
lemma agrees_savedIn {agent : Text} {job : Job} {summary : Text} (kept : List Turn) {store : Store}
    (hall : AllKept agent (savedIn agent job (.text summary) store)) :
    Agrees agent (turnOf summary :: kept) (savedIn agent job (.text summary) store) := by
  cases store with
  | memory table =>
    obtain ⟨after, hafter, hrefuses, hcount, hheld⟩ :=
      savedIn_memory agent job (.text summary) table
    rw [hafter] at hall ⊢
    have hgranted : table.refuses table.accesses (.write agent Record.summaryKey) = false := by
      rw [← hrefuses]
      exact hall table.accesses hcount
    intro other hled
    obtain rfl : summary = other := turnOf_inj.mp (Option.some.inj hled)
    rw [hheld, if_pos hgranted]
  | file store =>
    obtain ⟨after, hafter⟩ := savedIn_file agent job (.text summary) store
    rw [hafter] at hall
    exact hall.elim

/-- The list has grown from what was appended, and it agrees with a table that kept everything. -/
structure Traced (agent : Text) (dialogue : Dialogue) : Prop where
  grown : dialogue.Grown
  agrees : AllKept agent dialogue.store → Agrees agent dialogue.turns dialogue.store

theorem traced_step (guard : Guard) (agent : Text) (dialogue : Dialogue) (event : Event)
    (hevent : event.IsPlain ∧ event.IsTextual) (h : Traced agent dialogue) :
    Traced agent (dialogue.step guard agent event) := by
  refine ⟨Dialogue.grown_step guard agent dialogue event hevent.1 h.grown, ?_⟩
  obtain ⟨⟨hplain, dropped, kept, happended, hbehind⟩, hagrees⟩ := h
  have hkept := hplain.of_eq_append happended
  cases event with
  | append turns =>
    intro hall summary hled
    exact hagrees hall summary (hled.of_append hevent.1)
  | call registry system model provider =>
    have hcalled := beforeModelCall_called guard registry ⟨agent, system, model⟩ provider
      dialogue.store hbehind hkept
    unfold Dialogue.step
    dsimp only
    cases hcalled with
    | quiet hfound hread =>
      intro hall summary hled
      rw [hread.held]
      exact hfound.agrees (hagrees (hall.of_consulted hread)) summary hled
    | @compacted _ _ _ job hjob hparts _ hsummary hafter hstore =>
      obtain ⟨summary, rfl⟩ := summary_eq_text (hevent.2 job.request) hsummary
      rw [hafter, hstore]
      exact agrees_savedIn job.kept

/-- As long as a table keeps every summary, the one in front of the list is the one that it holds. -/
theorem agrees_run (guard : Guard) (agent : Text) (store : Store) {events : List Event}
    (hevents : ∀ event ∈ events, event.IsPlain ∧ event.IsTextual)
    (hall : AllKept agent (Dialogue.run guard agent { store } events).store) :
    Agrees agent (Dialogue.run guard agent { store } events).turns
      (Dialogue.run guard agent { store } events).store := by
  have hstart : Traced agent { store } := by
    refine ⟨Dialogue.grown_start store, fun _ summary hled => ?_⟩
    cases hled
  exact (Dialogue.run_invariant (traced_step guard agent) hevents hstart).agrees hall

/-- A compaction that drops a summary from the front of the list asks for the next one with that
summary if and only if the store gives it out at the second look. While no summary was refused, that
is so whenever the look is granted. The other turns that it drops are all in the request. -/
theorem previous_eq_leading_iff (guard : Guard) (agent : Text) (store : Store) {events : List Event}
    (hevents : ∀ event ∈ events, event.IsPlain) (strategy : Strategy) (registry : Registry)
    (system model : Text) (provider : Request → Reply) {result : Compaction} :
    let dialogue := Dialogue.run guard agent { store } events
    let run := strategy.compact registry ⟨agent, system, model⟩ provider dialogue.turns
      dialogue.store
    let second := summaryRead agent (lookedAt agent dialogue.store)
    run.outcome = .ok (some result) →
    ∃ request kept, run.sent = some request ∧ Behind (request.turns ++ kept) dialogue.turns ∧
      run.turns = turnOf result.summary.plain :: kept ∧
      ∀ summary, LedBy summary dialogue.turns ∨
          LedBy summary (cutTurns strategy (looksAt agent dialogue.store) dialogue.turns) →
        summary ≠ [] ∧
        (request.previous = summary ↔ second = .ok (some (.text summary))) ∧
        (AllKept agent dialogue.store → (∀ event ∈ events, event.IsTextual) →
          (request.previous = summary ↔ ∃ found, second = .ok found)) := by
  intro dialogue run second houtcome
  obtain ⟨hplain, dropped, kept, happended, hbehind⟩ := Dialogue.grown_run guard agent store hevents
  have hkept := hplain.of_eq_append happended
  have hcut : Found (looksAt agent dialogue.store) kept dialogue.turns
      (cutTurns strategy (looksAt agent dialogue.store) dialogue.turns) := hbehind.cut hkept strategy
  have hcourse : Course strategy ⟨agent, system, model⟩ provider dialogue.turns dialogue.store
      (looksAt agent dialogue.store) run := compact_course _ _ _ _ _ _
  clear_value run
  generalize hlooks : looksAt agent dialogue.store = looks at hcourse
  cases hcourse with
  | @compacted told bound job hjob summary _ hsummary hresult =>
    rw [hjob.result_eq] at hresult
    cases hresult
    cases houtcome
    subst hlooks
    have hbefore := hbehind.found hcut
    have hparts := hbefore.parts hkept hjob
    refine ⟨job.request, job.kept, rfl, ?_, rfl, fun summary hled => ?_⟩
    · rw [hparts]
      exact hbehind
    · have hsome : summary ≠ [] := by
        rcases hled with hturns | hcutTurns
        · exact (hbehind.of_ledBy hkept hturns).1
        · exact (hbefore.of_ledBy hkept hcutTurns).1
      have hiff : job.request.previous = summary ↔ second = .ok (some (.text summary)) := by
        rw [hjob.previous, looksAt_second]
        exact summary_recordIn agent _ hsome
      refine ⟨hsome, hiff, fun hall htextual => hiff.trans ⟨fun h => ⟨_, h⟩, ?_⟩⟩
      -- The copies agree, so that a look which is granted finds the summary.
      rintro ⟨found, hfound⟩
      have hagrees := agrees_run guard agent store
        (fun event hevent => ⟨hevents event hevent, htextual event hevent⟩) hall
      have hstored : found? (summaryPlace agent) dialogue.store = some (.text summary) := by
        rcases hled with hturns | hcutTurns
        · exact hagrees summary hturns
        · exact hcut.agrees hagrees summary hcutTurns
      rw [hfound, ← found?_of_summaryRead hfound, (lookedAt_consulted agent _).held, hstored]
  | _ => cases houtcome

/-- A host whose store refuses to keep summaries. -/
def forgetful : Store :=
  .memory { refuses := fun _ access => access == .write "a" Record.summaryKey }

def forgottenEvents : List Event :=
  let say (text : Text) : Turn := .ofText "user" text
  [.append [say "a", say "b", say "c", say "d"],
    .call {} [] [] fun _ => .answer { content := .text "S" },
    .append [say "e", say "f", say "g", say "h", say "i"]]

theorem forgotten_summary :
    let strategy := Strategy.sliding wholeSettings 3
    let dialogue := Dialogue.run (Guard.install 0 [("a", strategy)]) "a" { store := forgetful }
      forgottenEvents
    let run := strategy.compact {} ⟨"a", [], []⟩ (fun _ => .answer { content := .text "T" })
      dialogue.turns dialogue.store
    LedBy "S" dialogue.turns ∧ LedBy "T" run.turns ∧
      ∃ request, run.sent = some request ∧ request.previous ≠ "S" := by
  intro strategy dialogue run
  have hcompacted : (compaction? run).isSome = true := by decide +kernel
  obtain ⟨result, hresult⟩ := exists_compaction hcompacted
  have hevents : ∀ event ∈ forgottenEvents, event.IsPlain := by decide
  obtain ⟨request, kept, hsent, -, -, hleading⟩ :=
    previous_eq_leading_iff (Guard.install 0 [("a", strategy)]) "a" forgetful hevents strategy {}
      [] [] (fun _ => .answer { content := .text "T" }) hresult
  have hled : LedBy "S" dialogue.turns := by decide +kernel
  refine ⟨hled, by decide +kernel, request, hsent, ?_⟩
  obtain ⟨hsome, hiff, -⟩ := hleading "S" (Or.inl hled)
  rw [Ne, hiff, ← summary_recordIn "a" _ hsome]
  decide +kernel

end Condense.Proofs
