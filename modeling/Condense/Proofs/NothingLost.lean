import Condense.Proofs.Dialogue

/-!
# Nothing is lost without a model

As long as the provider has nothing to say, every text that was ever appended stays in the list, or
its excerpt stands in the summary that is kept. What a compaction drops is found again in its
summary, and every later summary continues that one.
-/

namespace Condense.Proofs
open Summary

/-- A reply without words: a failure, or an answer that is blank. -/
def Wordless : Reply → Prop
  | .answer answer => answer.isError = true ∨
      ∀ content, Request.content answer = .ok content → content.isTruthy = false
  | _ => True

def Event.IsWordless : Event → Prop
  | .append _ => True
  | .call _ _ _ provider => ∀ request, Wordless (provider request)

/-- A table that refuses nothing. -/
def Reliable : Store → Prop
  | .memory store => ∀ count access, store.refuses count access = false
  | .file _ => False

/-- A summary holds the excerpts of all texts of some turns. -/
def Holds (chars : Quantity) (turns : List Turn) (summary : Text) : Prop :=
  ∀ turn ∈ turns, ∀ t, .text t ∈ turn.parts → t ≠ [] → excerptOf chars turn t <:+: summary

lemma Wordless.fallback {request : Request} {limit : Option Quantity} {reply : Reply}
    {summary : Value} (h : Wordless reply)
    (hsummary : (request.receive limit reply).2 = .ok summary) :
    ∃ t, request.fallback = .ok t ∧ summary = .text t := by
  obtain ⟨answer, rfl, hfine, ⟨-, -, -, hfallback⟩ | ⟨hcontent, htruthy⟩⟩ := receive_eq_ok hsummary
  · exact hfallback
  · rcases h with herror | hblank
    · rw [hfine] at herror
      contradiction
    · rw [hblank summary hcontent] at htruthy
      contradiction

section Reliable

variable {store after : Store}

lemma Reliable.consulted (h : Reliable store) (hread : Consulted store after) : Reliable after := by
  cases hread with
  | memory store hcount => exact h
  | file store => exact h
  | emptied store hown hcontents => exact h

lemma Reliable.summaryRead (h : Reliable store) (agent : Text) :
    summaryRead agent store = .ok (found? (summaryPlace agent) store) := by
  cases store with
  | memory store =>
    have hgranted : store.refuses store.accesses (.read agent Record.summaryKey) = false := h _ _
    rw [summaryRead_memory, hgranted]
    rfl
  | file store => exact h.elim

lemma Reliable.savedIn (h : Reliable store) (agent : Text) (job : Job) (summary : Value) :
    Reliable (savedIn agent job summary store) ∧
      found? (summaryPlace agent) (Proofs.savedIn agent job summary store) = some summary := by
  cases store with
  | memory store =>
    obtain ⟨after, hafter, hrefuses, -, hheld⟩ := savedIn_memory agent job summary store
    have hgranted : store.refuses store.accesses (.write agent Record.summaryKey) = false := h _ _
    rw [hafter]
    refine ⟨fun count access => ?_, ?_⟩
    · rw [hrefuses]
      exact h count access
    · rw [hheld, if_pos hgranted]
  | file store => exact h.elim

/-- What a table holds while `previous` is the last summary; the empty one stands for none. -/
def Last (agent : Text) (store : Store) (previous : Text) : Prop :=
  found? (summaryPlace agent) store = if previous = [] then none else some (.text previous)

lemma Last.consulted {agent previous : Text} (h : Last agent store previous)
    (hread : Consulted store after) : Last agent after previous := by
  unfold Last
  rw [hread.held]
  exact h

lemma Reliable.found (h : Reliable store) {agent previous : Text} (hlast : Last agent store previous) :
    (recordIn agent store).summary = previous := by
  have hread := h.summaryRead agent
  rw [hlast] at hread
  by_cases hnone : previous = []
  · rw [if_pos hnone] at hread
    rw [hnone]
    by_contra hsome
    rw [(summary_recordIn agent store hsome).mp rfl] at hread
    cases hread
  · rw [if_neg hnone] at hread
    exact (summary_recordIn agent store hnone).mpr hread

end Reliable

lemma Holds.append {chars : Quantity} {front back : List Turn} {summary : Text}
    (hfront : Holds chars front summary) (hback : Holds chars back summary) :
    Holds chars (front ++ back) summary := by
  intro turn hturn
  rcases List.mem_append.mp hturn with hmem | hmem
  · exact hfront turn hmem
  · exact hback turn hmem

lemma Holds.trans {chars : Quantity} {turns : List Turn} {summary later : Text}
    (h : Holds chars turns summary) (hlater : summary <:+: later) : Holds chars turns later :=
  fun turn hturn t hpart ht => (h turn hturn t hpart ht).trans hlater

/-- A part of what was appended has been dropped, and the last summary holds it. The rest is in the
list, behind that summary. -/
structure Chained (agent : Text) (chars : Quantity) (dialogue : Dialogue) : Prop where
  plain : Plain dialogue.appended
  reliable : Reliable dialogue.store
  parts : ∃ dropped kept previous, dialogue.appended = dropped ++ kept ∧
    dialogue.turns = inject previous kept ∧ Last agent dialogue.store previous ∧
    Holds chars dropped previous

lemma inject_behind {kept : List Turn} (hplain : Plain kept) (summary : Text) :
    Behind kept (inject summary kept) := by
  by_cases hnone : summary = []
  · rw [hnone]
    exact .bare
  · rw [inject_of_not_isLed hnone hplain.not_isLed]
    exact .led hnone

lemma inject_append {kept more : List Turn} (hkept : Plain kept) (hmore : Plain more)
    (summary : Text) : inject summary kept ++ more = inject summary (kept ++ more) := by
  by_cases hnone : summary = []
  · rw [hnone, inject_nil, inject_nil]
  · rw [inject_of_not_isLed hnone hkept.not_isLed,
      inject_of_not_isLed hnone (hkept.append hmore).not_isLed, List.cons_append]

lemma Found.stays {looks : Looks} {kept turns after : List Turn} {previous : Text}
    (h : Found looks kept turns after) (hplain : Plain kept)
    (hfirst : looks.first.summary = previous) (hsecond : looks.second.summary = previous)
    (hturns : turns = inject previous kept) : after = inject previous kept := by
  cases h with
  | same => exact hturns
  | @led summary hsome hsummary =>
    rw [hfirst, hsecond, or_self] at hsummary
    rw [← hsummary, inject_of_not_isLed hsome hplain.not_isLed]

theorem chained_step {guard : Guard} {agent : Text} {installed : Installed}
    (hinstalled : guard.strategyFor? agent = some installed) (dialogue : Dialogue) (event : Event)
    (hevent : event.IsPlain ∧ event.IsWordless)
    (h : Chained agent installed.strategy.settings.tuning.excerptChars dialogue) :
    Chained agent installed.strategy.settings.tuning.excerptChars
      (dialogue.step guard agent event) := by
  obtain ⟨hplain, hreliable, dropped, kept, previous, happended, hturns, hlast, hholds⟩ := h
  have hkept := hplain.of_eq_append happended
  cases event with
  | append turns =>
    refine ⟨hplain.append hevent.1, hreliable, dropped, kept ++ turns, previous, ?_, ?_, hlast,
      hholds⟩
    · rw [← List.append_assoc, ← happended]
      rfl
    · rw [← inject_append hkept hevent.1, ← hturns]
      rfl
  | call registry system model provider =>
    have hbehind : Behind kept dialogue.turns := by
      rw [hturns]
      exact inject_behind hkept previous
    obtain ⟨honce, htwice⟩ := looksAt_consulted agent dialogue.store
    have hfirst : (looksAt agent dialogue.store).first.summary = previous :=
      hreliable.found hlast
    have hsecond : (looksAt agent dialogue.store).second.summary = previous := by
      rw [looksAt_once] at honce
      exact (hreliable.consulted honce).found (hlast.consulted honce)
    have hcalled := beforeModelCall_called guard registry ⟨agent, system, model⟩ provider
      dialogue.store hbehind hkept
    unfold Dialogue.step
    dsimp only
    cases hcalled with
    | quiet hfound hread =>
      exact ⟨hplain, hreliable.consulted hread, dropped, kept, previous, happended,
        hfound.stays hkept hfirst hsecond hturns, hlast.consulted hread, hholds⟩
    | @compacted other hother _ job hjob hparts _ hsummary hafter hstore =>
      obtain rfl : other = installed := Option.some.inj (hother.symm.trans hinstalled)
      obtain ⟨summary, hfallback, rfl⟩ := (hevent.2 job.request).fallback hsummary
      obtain ⟨hsome, hprevious, hlines⟩ := fallback_keeps hfallback hjob.exists_old
      rw [hjob.previous, hsecond] at hprevious
      rw [hjob.excerpts] at hlines
      obtain ⟨hsaved, hheld⟩ := (hreliable.consulted htwice).savedIn agent job (.text summary)
      have hrest := hkept.of_eq_append hparts.symm
      -- The turns that were asked about join the dropped ones, and the new summary holds both.
      refine ⟨hplain, ?_, dropped ++ job.request.turns, job.kept, summary, ?_, ?_, ?_, ?_⟩
      · rw [hstore]
        exact hsaved
      · rw [happended, ← hparts, List.append_assoc]
      · rw [hafter, inject_of_not_isLed hsome hrest.not_isLed]
        rfl
      · unfold Last
        rw [if_neg hsome, hstore]
        exact hheld
      · exact (hholds.trans hprevious).append hlines

lemma mem_inject {turn : Turn} {kept : List Turn} (h : turn ∈ kept) (summary : Text) :
    turn ∈ inject summary kept := by
  unfold inject
  split
  · exact h
  · split
    · split
      · exact h
      · exact List.mem_cons_of_mem _ h
    · contradiction

/-- If the provider has nothing to say, every text that was ever appended is in the list or in the
summary that is kept, and behind that summary stand the turns that were appended last. -/
theorem nothing_lost {guard : Guard} {agent : Text} {installed : Installed}
    (hinstalled : guard.strategyFor? agent = some installed) {events : List Event}
    (hevents : ∀ event ∈ events, event.IsPlain ∧ event.IsWordless) :
    let dialogue := Dialogue.run guard agent { store := .empty } events
    let stored := found? (summaryPlace agent) dialogue.store
    let chars := installed.strategy.settings.tuning.excerptChars
    (∀ turn ∈ dialogue.appended, ∀ t, .text t ∈ turn.parts → t ≠ [] →
      turn ∈ dialogue.turns ∨
        ∃ summary, stored = some (.text summary) ∧ excerptOf chars turn t <:+: summary) ∧
    ∀ value, stored = some value → ∃ summary kept, value = .text summary ∧
      kept <:+ dialogue.appended ∧ dialogue.turns = turnOf summary :: kept := by
  have hstart : Chained agent installed.strategy.settings.tuning.excerptChars
      { store := .empty } :=
    ⟨by simp [Plain], fun _ _ => rfl, [], [], [], rfl, rfl, rfl, by simp [Holds]⟩
  obtain ⟨hplain, -, dropped, kept, previous, happended, hturns, hlast, hholds⟩ :=
    Dialogue.run_invariant (chained_step hinstalled) hevents hstart
  dsimp only
  have hkept := hplain.of_eq_append happended
  rw [hlast, happended, hturns]
  constructor
  · intro turn hturn t hpart ht
    rcases List.mem_append.mp hturn with hdropped | hstays
    · right
      have hinfix := hholds turn hdropped t hpart ht
      have hsome : previous ≠ [] := by
        rintro rfl
        exact excerptOf_ne_nil _ turn t (List.infix_nil.mp hinfix)
      exact ⟨previous, if_neg hsome, hinfix⟩
    · left
      exact mem_inject hstays previous
  · intro value hvalue
    split at hvalue
    case isTrue => contradiction
    case isFalse hsome =>
      cases hvalue
      exact ⟨previous, kept, rfl, List.suffix_append dropped kept,
        inject_of_not_isLed hsome hkept.not_isLed⟩

/-- A host that appends turns in three portions, with a provider that answers with a blank, fails,
and answers with nothing. -/
def blankEvents : List Event :=
  let ask (reply : Reply) : Event := .call {} [] [] fun _ => reply
  let say (text : Text) : Turn := .ofText "user" text
  [.append [say "a", say "b", say "c", say "d"], ask (.answer { content := .text " " }),
    .append [say "e"], ask (.failed "overloaded"),
    .append [say "f", say "g", say "h", say "i", say "j"], ask (.answer {})]

theorem blankEvents_lose_nothing :
    let guard := Guard.install 0 [("a", .sliding wholeSettings 3)]
    let dialogue := Dialogue.run guard "a" { store := .empty } blankEvents
    dialogue.turns.length < dialogue.appended.length ∧
      ∀ turn ∈ dialogue.appended, ∀ t, .text t ∈ turn.parts → t ≠ [] →
        turn ∈ dialogue.turns ∨ ∃ summary,
          found? (summaryPlace "a") dialogue.store = some (.text summary) ∧
            excerptOf (.whole 200) turn t <:+: summary := by
  have hinstalled : (Guard.install 0 [("a", .sliding wholeSettings 3)]).strategyFor? "a" =
      some ⟨0, .sliding wholeSettings 3⟩ := rfl
  have hblank : ∀ content : Value, Request.content { content } = .ok (.text []) →
      Wordless (.answer { content }) := by
    intro content hcontent
    right
    intro other hother
    rw [hcontent] at hother
    cases hother
    rfl
  have hevents : ∀ event ∈ blankEvents, event.IsPlain ∧ event.IsWordless := by
    intro event hevent
    simp only [blankEvents, List.mem_cons, List.not_mem_nil, or_false] at hevent
    rcases hevent with rfl | rfl | rfl | rfl | rfl | rfl
    · exact ⟨by decide, trivial⟩
    · exact ⟨trivial, fun _ => hblank (.text " ") rfl⟩
    · exact ⟨by decide, trivial⟩
    · exact ⟨trivial, fun _ => trivial⟩
    · exact ⟨by decide, trivial⟩
    · exact ⟨trivial, fun _ => hblank .null rfl⟩
  exact ⟨by decide +kernel, (nothing_lost hinstalled hevents).1⟩

end Condense.Proofs
