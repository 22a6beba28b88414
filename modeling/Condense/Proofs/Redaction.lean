import Condense.Provider.Chat
import Mathlib.Data.List.Infix
import Mathlib.Tactic.Lemma

/-!
# Keys in reports

A call that fails is reported in words that may quote the key it was made with. Replacing a key cuts
the words into gaps between its occurrences, and neither a gap nor a place where gaps are joined
again holds the key, as long as no star and no blank belongs to it.
-/

namespace Condense.Proofs

section Gaps

variable {part new t : Text}

/-- The gaps are the same before and after, and what is replaced stands in none of them. -/
lemma replaceFrom_gaps (hpart : part ≠ []) (skip : Nat) (t : Text) :
    ∃ first others, t.drop skip = Text.join part (first :: others) ∧
      Text.replaceFrom part new skip t = Text.join new (first :: others) ∧
      ∀ gap ∈ first :: others, ¬part <:+: gap := by
  have hnil : ∀ gap ∈ [([] : Text)], ¬part <:+: gap := by
    simpa using hpart
  fun_induction Text.replaceFrom part new skip t with
  | case1 skip => exact ⟨[], [], by simp [Text.join], by simp [Text.join], hnil⟩
  | case2 skip p rest ih => exact ih
  | case3 p rest hfound ih =>
    obtain ⟨first, others, hrest, hreplaced, hgaps⟩ := ih
    have hprefix : part <+: p :: rest := by
      simpa [hpart] using hfound
    have hdrop : p :: rest = part ++ rest.drop (part.length - 1) := by
      obtain ⟨tail, htail⟩ := hprefix
      cases part with
      | nil => contradiction
      | cons q queue =>
        obtain ⟨rfl, rfl⟩ := List.cons.inj htail
        simp
    refine ⟨[], first :: others, ?_, ?_, ?_⟩
    · rw [List.drop_zero, hdrop, hrest]
      simp [Text.join]
    · rw [hreplaced]
      simp [Text.join]
    · exact List.forall_mem_cons.mpr ⟨hnil [] List.mem_cons_self, hgaps⟩
  | case4 p rest hfound ih =>
    obtain ⟨first, others, hrest, hreplaced, hgaps⟩ := ih
    have hprefix : ¬part <+: p :: rest := by
      simpa [hpart] using hfound
    have hjoin : ∀ separator, Text.join separator ((p :: first) :: others) =
        p :: Text.join separator (first :: others) := by
      intro separator
      cases others <;> simp [Text.join]
    refine ⟨p :: first, others, ?_, ?_, ?_⟩
    · rw [hjoin, ← hrest]
      rfl
    · rw [hjoin, hreplaced]
    · obtain ⟨hfirst, hothers⟩ := List.forall_mem_cons.mp hgaps
      refine List.forall_mem_cons.mpr ⟨fun hinfix => ?_, hothers⟩
      rcases List.infix_cons_iff.mp hinfix with hfront | hlater
      · -- The gap is the front of the text, at which nothing was found.
        have hgap : p :: first <+: p :: rest := by
          rw [List.drop_zero] at hrest
          rw [hrest, ← hjoin]
          cases others with
          | nil => simp [Text.join]
          | cons other more =>
            rw [Text.join, List.intercalate_cons_cons, List.append_assoc]
            exact List.prefix_append _ _
        exact hprefix (hfront.trans hgap)
      · exact hfirst hlater

/-- A text is cut at every occurrence of a part, and its gaps are joined by something else. -/
theorem replace_gaps (hpart : part ≠ []) (new t : Text) :
    ∃ gaps, t = Text.join part gaps ∧ Text.replace part new t = Text.join new gaps ∧
      ∀ gap ∈ gaps, ¬part <:+: gap := by
  obtain ⟨first, others, hjoin, hreplaced, hgaps⟩ := replaceFrom_gaps hpart 0 t
  exact ⟨first :: others, hjoin, hreplaced, hgaps⟩

end Gaps

section Joints

variable {key separator : Text}

/-- What shares no code point with a separator and stands in front of and behind it stands on one
side of it. -/
lemma infix_beside {front back : Text} (hseparator : separator ≠ [])
    (hapart : ∀ p ∈ separator, p ∉ key) (h : key <:+: front ++ (separator ++ back)) :
    key <:+: front ∨ key <:+: back := by
  induction separator generalizing front with
  | nil => contradiction
  | cons p rest ih =>
    have hp : p ∉ key := hapart p List.mem_cons_self
    rcases List.infix_append_iff.mp h with hfront | hlater | ⟨head, tail, hkey, hhead, htail⟩
    · exact Or.inl hfront
    · rcases List.infix_cons_iff.mp hlater with hstart | hrest
      · cases key with
        | nil => exact Or.inl List.nil_infix
        | cons q queue =>
          obtain ⟨rfl, -⟩ := List.cons_prefix_cons.mp hstart
          exact absurd List.mem_cons_self hp
      · cases rest with
        | nil => exact Or.inr hrest
        | cons q queue =>
          have hempty : key <:+: [] ++ (q :: queue ++ back) := hrest
          rcases ih (List.cons_ne_nil _ _) (fun q hq => hapart q (List.mem_cons_of_mem p hq)) hempty
            with hnone | hback
          · exact Or.inl (hnone.trans List.nil_infix)
          · exact Or.inr hback
    · cases tail with
      | nil =>
        rw [hkey, List.append_nil]
        exact Or.inl hhead.isInfix
      | cons q queue =>
        obtain ⟨rfl, -⟩ := List.cons_prefix_cons.mp htail
        rw [hkey] at hp
        exact absurd (List.mem_append_right head List.mem_cons_self) hp

/-- What shares no code point with the separator of some texts stands in one of them, if it stands
in what they are joined to. -/
lemma infix_of_join (hkey : key ≠ []) (hseparator : separator ≠ [])
    (hapart : ∀ p ∈ separator, p ∉ key) {texts : List Text} (h : key <:+: Text.join separator texts) :
    ∃ t ∈ texts, key <:+: t := by
  induction texts with
  | nil => exact absurd (List.infix_nil.mp h) hkey
  | cons first rest ih =>
    cases rest with
    | nil =>
      rw [Text.join, List.intercalate_singleton] at h
      exact ⟨first, List.mem_cons_self, h⟩
    | cons second others =>
      rw [Text.join, List.intercalate_cons_cons, List.append_assoc] at h
      rcases infix_beside hseparator hapart h with hfirst | hothers
      · exact ⟨first, List.mem_cons_self, hfirst⟩
      · obtain ⟨t, ht, hinfix⟩ := ih hothers
        exact ⟨t, List.mem_cons_of_mem first ht, hinfix⟩

lemma join_snoc (separator : Text) (texts : List Text) (last : Text) :
    Text.join separator (texts ++ [last]) = Text.join separator (texts ++ [[]]) ++ last := by
  unfold Text.join
  induction texts with
  | nil => simp
  | cons first rest ih =>
    cases rest with
    | nil => simp
    | cons second others =>
      rw [List.cons_append, List.cons_append] at ih ⊢
      rw [List.intercalate_cons_cons, ih]
      simp [List.intercalate_cons_cons]

end Joints

/-- A key that a provider hides: it is long enough, and neither a blank nor a star belongs to it. -/
structure Hideable (key : Text) : Prop where
  long : 8 < key.length
  noBlank : CodePoint.char ' ' ∉ key
  noStar : CodePoint.char '*' ∉ key

namespace Hideable

variable {key : Text} (h : Hideable key)

include h

lemma ne_nil : key ≠ [] := by
  rintro rfl
  exact absurd h.long (by decide)

/-- Short words in front of a message do not bring the key into it. -/
lemma not_infix_behind {words : List Text} (hwords : ∀ word ∈ words, word.length ≤ 8)
    {message : Text} (hmessage : ¬key <:+: message) :
    ¬key <:+: Text.join " " (words ++ [[]]) ++ message := by
  intro hinfix
  rw [← join_snoc] at hinfix
  have hblank : ∀ p ∈ Text.ofString " ", p ∉ key := by
    intro p hp
    rw [show p = .char ' ' from List.mem_singleton.mp hp]
    exact h.noBlank
  obtain ⟨word, hmem, hword⟩ := infix_of_join h.ne_nil (by decide) hblank hinfix
  rcases List.mem_append.mp hmem with hfront | hback
  · have hshort := hwords word hfront
    have hlong := hword.length_le
    have hkey := h.long
    omega
  · rw [List.mem_singleton.mp hback] at hword
    exact hmessage hword

/-- Stars between gaps do not bring the key back. -/
lemma not_infix_starred {gaps : List Text} (hgaps : ∀ gap ∈ gaps, ¬key <:+: gap) :
    ¬key <:+: Text.join "***" gaps := by
  intro hinfix
  have hstar : ∀ p ∈ Text.ofString "***", p ∉ key := by
    intro p hp
    have hp : p = .char '*' := by
      simpa [Text.ofString, Text.ofChars] using hp
    rw [hp]
    exact h.noStar
  obtain ⟨gap, hmem, hgap⟩ := infix_of_join h.ne_nil (by decide) hstar hinfix
  exact hgaps gap hmem hgap

lemma redact_gaps {provider : Provider} (hprovider : provider.apiKey = some key) (why : Text) :
    ∃ gaps, why = Text.join key gaps ∧ provider.redact why = Text.join "***" gaps ∧
      ∀ gap ∈ gaps, ¬key <:+: gap := by
  unfold Provider.redact
  rw [hprovider]
  dsimp only
  rw [if_pos h.long]
  exact replace_gaps h.ne_nil "***" why

end Hideable

/-- An exchange goes wrong, and this is what is said about it: the call of the endpoint fails, or
what it returns is no answer. -/
inductive Fails : Exchange → Text → Prop where
  | calling (why : Text) : Fails (.failed why) why
  | reading {completion : Completion} {why : CompletionFault}
      (h : completion.answer = .error why) : Fails (.completion completion) why.message

lemma Fails.received {exchange : Exchange} {why : Text} (h : Fails exchange why)
    (provider : Provider) :
    provider.receive exchange = (provider.report why).map id .ok := by
  cases h with
  | calling => rfl
  | reading hanswer =>
    unfold Provider.receive
    dsimp only
    rw [hanswer]

/-- Whatever is said about a failure, neither the answer nor the notice holds the provider's key,
and nothing but the key is left out of them. -/
theorem failures_hide_key {provider : Provider} {key : Text} (hprovider : provider.apiKey = some key)
    (hlong : 8 < key.length) (hblank : CodePoint.char ' ' ∉ key)
    (hstar : CodePoint.char '*' ∉ key) (why : Text) :
    let message := provider.redact why
    let content := "Error calling LLM: " ++ message
    let notice := Notice.callError message
    let answer : Answer := { content := .text content, finishReason := .text "error" }
    provider.report why = ([notice], answer) ∧
      (∀ exchange, Fails exchange why → provider.receive exchange = ([notice], .ok answer)) ∧
      ¬key <:+: content ∧ ¬key <:+: notice.text ∧
      ∃ gaps, why = Text.join key gaps ∧ message = Text.join "***" gaps := by
  intro message content notice answer
  have hkey : Hideable key := ⟨hlong, hblank, hstar⟩
  obtain ⟨gaps, hwhy, hredact, hgaps⟩ := hkey.redact_gaps hprovider why
  have hmessage : ¬key <:+: message := by
    rw [show message = Text.join "***" gaps from hredact]
    exact hkey.not_infix_starred hgaps
  refine ⟨rfl, fun exchange hfails => hfails.received provider, ?_, ?_, gaps, hwhy, hredact⟩
  · have hwords : Text.ofString "Error calling LLM: " =
        Text.join " " ([Text.ofString "Error", "calling", "LLM:"] ++ [[]]) := by decide
    change ¬key <:+: Text.ofString "Error calling LLM: " ++ message
    rw [hwords]
    exact hkey.not_infix_behind (by decide) hmessage
  · have hwords : Text.ofString "LLM call error: " =
        Text.join " " ([Text.ofString "LLM", "call", "error:"] ++ [[]]) := by decide
    change ¬key <:+: Text.ofString "LLM call error: " ++ message
    rw [hwords]
    exact hkey.not_infix_behind (by decide) hmessage

/-- A key that overlaps itself in the words of a failure. The first of the two places is replaced,
and what is left of the second is no key. -/
theorem overlappingKey_hidden :
    let provider : Provider := { apiKey := some "abcabcabc" }
    provider.redact "401: abcabcabcabc" = "401: ***abc" ∧
      ∃ answer, provider.receive (.failed "401: abcabcabcabc") =
          ([.callError "401: ***abc"], .ok answer) ∧
        answer.content = .text ("Error calling LLM: " ++ Text.ofString "401: ***abc") ∧
        ¬Text.ofString "abcabcabc" <:+: "Error calling LLM: " ++ Text.ofString "401: ***abc" ∧
        ¬Text.ofString "abcabcabc" <:+: (Notice.callError "401: ***abc").text := by
  intro provider
  have hredact : provider.redact "401: abcabcabcabc" = "401: ***abc" := by decide
  have hkey : provider.apiKey = some (Text.ofString "abcabcabc") := rfl
  obtain ⟨-, hreceive, hcontent, hnotice, -⟩ := failures_hide_key hkey (by decide) (by decide)
    (by decide) "401: abcabcabcabc"
  rw [hredact] at hreceive hcontent hnotice
  exact ⟨hredact, _, hreceive _ (.calling _), rfl, hcontent, hnotice⟩

end Condense.Proofs
