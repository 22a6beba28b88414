import Condense.Proofs.JsonDocuments
import Mathlib.Data.List.TakeWhile

/-!
# Values that were read

Whatever is read from a document has a document of its own that gives the same value back: its
integers are within the digit limit, its brackets within the depth limit, and no two halves of a
surrogate pair stand beside one another in its texts.
-/

namespace Condense.Proofs
open Json

/-- A value that its document gives back as it is. -/
structure Stable (room : Nat) (v : Value) : Prop where
  legible : Legible room v
  respelled : respelled v = v

/-- No half of a surrogate pair stands alone in the text. -/
def Whole (t : Text) : Prop := ∀ unit, CodePoint.half unit ∉ t

lemma Whole.suffix {s t : Text} (h : Whole t) (hsuffix : s <:+ t) : Whole s := fun unit hunit =>
  h unit (hsuffix.subset hunit)

section Texts

/-- A number stands for half of a surrogate pair, or for a character. -/
lemma ofCode_cases (n : Nat) :
    (CodePoint.ofCode n).code = n ∨ ∃ c, CodePoint.ofCode n = .char c := by
  unfold CodePoint.ofCode
  split
  case isTrue hhalf => exact Or.inl (Nat.add_sub_cancel' hhalf.2)
  case isFalse => exact Or.inr ⟨_, rfl⟩

lemma ofCode_beyond {n : Nat} (h : 0x10000 ≤ n) : ∃ c, CodePoint.ofCode n = .char c := by
  unfold CodePoint.ofCode
  rw [dif_neg (by unfold CodePoint.firstHalf; omega)]
  exact ⟨_, rfl⟩

lemma isSpellable_left {s t : Text} (h : isSpellable (s ++ t) = true) : isSpellable s = true := by
  induction s with
  | nil => rfl
  | cons p rest ih =>
    cases rest with
    | nil => rfl
    | cons q rest =>
      change (_ && isSpellable ((q :: rest) ++ t)) = true at h
      rw [Bool.and_eq_true] at h
      change (_ && isSpellable (q :: rest)) = true
      rw [Bool.and_eq_true]
      exact ⟨h.1, ih h.2⟩

/-- What was read of a text can be spelled. A first half of a pair that comes last is kept in mind,
so that no second half gets behind it. -/
structure Sound (spelled : Spelled) : Prop where
  spellable : isSpellable spelled.points.reverse = true
  high : ∀ p ∈ spelled.points.head?, isHighSurrogate p.code = true → spelled.high = some p.code

lemma sound_empty : Sound {} := ⟨rfl, nofun⟩

/-- One more code point that completes no pair. -/
lemma sound_push {points : Text} {p : CodePoint} {high : Option Nat}
    (hpoints : isSpellable points.reverse = true)
    (hpair : ∀ q ∈ points.head?, isHighSurrogate q.code = true → isLowSurrogate p.code = false)
    (hhigh : isHighSurrogate p.code = true → high = some p.code) : Sound ⟨p :: points, high⟩ := by
  refine ⟨?_, fun q hq hfirst => ?_⟩
  · rw [List.reverse_cons]
    refine isSpellable_append hpoints rfl fun q hq r hr => ?_
    obtain rfl := Option.some.inj hr
    rw [List.getLast?_reverse] at hq
    rw [or_iff_not_imp_left, Bool.not_eq_false]
    exact hpair q hq
  · obtain rfl := Option.some.inj hq
    exact hhigh hfirst

lemma sound_char {points : Text} (hpoints : isSpellable points.reverse = true) (c : Char)
    (high : Option Nat) : Sound ⟨.char c :: points, high⟩ :=
  sound_push hpoints (fun _ _ _ => isLowSurrogate_char c) fun hhigh => by
    rw [CodePoint.code, isHighSurrogate_char] at hhigh
    exact absurd hhigh Bool.false_ne_true

lemma Sound.addUnit {spelled : Spelled} (h : Sound spelled) (unit : Nat) :
    Sound (spelled.addUnit unit) := by
  unfold Spelled.addUnit
  split
  case h_1 high _ =>
    -- The first half that came last gives way to the character that the pair stands for.
    have hbeyond : 0x10000 ≤ 0x10000 + (high - 0xD800) * 0x400 + (unit - 0xDC00) := by
      rw [Nat.add_assoc]
      exact Nat.le_add_right _ _
    obtain ⟨c, hc⟩ := ofCode_beyond hbeyond
    have hfront : isSpellable (spelled.points.drop 1).reverse = true := by
      refine isSpellable_left (t := (spelled.points.take 1).reverse) ?_
      rw [← List.reverse_append, List.take_append_drop]
      exact h.spellable
    rw [hc]
    exact sound_char hfront c none
  case h_2 hnone =>
    rw [Option.filter_eq_none_iff] at hnone
    rcases ofCode_cases unit with hcode | ⟨c, hc⟩
    · refine sound_push h.spellable (fun q hq hfirst => ?_) fun hfirst => ?_
      · rw [hcode, ← Bool.not_eq_true]
        exact hnone _ (h.high q hq hfirst)
      · rw [hcode] at hfirst ⊢
        rw [if_pos hfirst]
    · rw [hc]
      exact sound_char h.spellable c _

lemma Sound.spellPoint {spelled : Spelled} (h : Sound spelled) (p : CodePoint) :
    Sound (spellPoint spelled p) := by
  cases p with
  | char c => exact sound_char h.spellable c none
  | half unit => exact h.addUnit _

/-- The text that a document gives back can be spelled. -/
theorem isSpellable_respell (t : Text) : isSpellable (respell t) = true := by
  have hsound : ∀ spelled, Sound spelled → Sound (t.foldl Proofs.spellPoint spelled) := by
    induction t with
    | nil => exact fun _ hsound => hsound
    | cons p rest ih => exact fun spelled hsound => ih _ (hsound.spellPoint p)
  exact (hsound {} sound_empty).spellable

/-- A letter behind a backslash stands for a character. -/
lemma shortEscape?_char {c : Char} {unit : Nat} (h : shortEscape? c = some unit) :
    ∃ d, CodePoint.ofCode unit = .char d := by
  have hchar : ∀ c : Char, ∃ d, CodePoint.ofCode c.toNat = .char d := fun c =>
    ⟨c, ofCode_code (.char c)⟩
  unfold shortEscape? at h
  split at h
  case isTrue =>
    cases h
    exact hchar c
  case isFalse =>
    repeat'
      split at h
      · cases h
        exact ⟨_, rfl⟩
    cases h

lemma readPoints_sound {spelled : Spelled} {t s rest : Text} (hsound : Sound spelled)
    (hwhole : Whole t) (hread : readPoints spelled t = .ok (s, rest)) :
    isSpellable s = true ∧ rest <:+ t := by
  fun_induction readPoints spelled t with
  | case1 | case4 | case6 | case7 | case8 => contradiction
  | case2 spelled tail =>
    cases hread
    exact ⟨hsound.spellable, List.suffix_cons _ _⟩
  | case3 spelled a b c d tail unit hunit ih =>
    have hsuffix := List.suffix_append
      [CodePoint.char '\\', .char 'u', .char a, .char b, .char c, .char d] tail
    obtain ⟨hspell, hrest⟩ := ih (hsound.addUnit unit) (hwhole.suffix hsuffix) hread
    exact ⟨hspell, hrest.trans hsuffix⟩
  | case5 spelled c tail hnot unit hunit ih =>
    have hsuffix := List.suffix_append [CodePoint.char '\\', .char c] tail
    obtain ⟨d, hd⟩ := shortEscape?_char hunit
    rw [hd] at ih hread
    obtain ⟨hspell, hrest⟩ := ih (hsound.spellPoint (.char d)) (hwhole.suffix hsuffix) hread
    exact ⟨hspell, hrest.trans hsuffix⟩
  | case9 spelled p tail hquote hunit hletter hslash hcode ih =>
    have hsuffix := List.suffix_cons p tail
    cases p with
    | half unit => exact absurd List.mem_cons_self (hwhole unit)
    | char c =>
      obtain ⟨hspell, hrest⟩ := ih (hsound.spellPoint (.char c)) (hwhole.suffix hsuffix) hread
      exact ⟨hspell, hrest.trans hsuffix⟩

lemma readString_sound {t s rest : Text} (hwhole : Whole t) (hread : readString t = .ok (s, rest)) :
    isSpellable s = true ∧ rest <:+ t :=
  readPoints_sound sound_empty hwhole hread

end Texts

section Numbers

lemma spanDigits_sound (t : Text) :
    (∀ c ∈ (Json.spanDigits t).1, c.isDigit = true) ∧ (Json.spanDigits t).2 <:+ t := by
  unfold Json.spanDigits
  rw [List.span_eq_takeWhile_dropWhile]
  refine ⟨fun c hc => ?_, List.dropWhile_suffix _⟩
  obtain ⟨p, hp, hchar⟩ := List.mem_filterMap.mp hc
  have hdigit := List.mem_takeWhile_imp hp
  cases p with
  | char d =>
    obtain rfl := Option.some.inj hchar
    exact hdigit
  | half unit => contradiction

lemma wholePart?_sound {t rest : Text} {ds : List Char} (h : wholePart? t = some (ds, rest)) :
    (∀ c ∈ ds, c.isDigit = true) ∧ ds ≠ [] ∧ rest <:+ t := by
  unfold wholePart? at h
  split at h
  case h_1 =>
    cases h
    exact ⟨List.forall_mem_singleton.mpr rfl, List.cons_ne_nil _ _, List.suffix_cons _ _⟩
  case h_2 =>
    obtain ⟨hdigits, hsuffix⟩ := spanDigits_sound t
    dsimp only at h
    split at h
    case isTrue => contradiction
    case isFalse hne =>
      cases h
      exact ⟨hdigits, fun hnil => hne (List.isEmpty_iff.mpr hnil), hsuffix⟩

lemma fractionPart?_suffix (t : Text) : (fractionPart? t).2 <:+ t := by
  unfold fractionPart?
  split
  case h_1 tail =>
    dsimp only
    split
    case isTrue => exact List.suffix_refl _
    case isFalse => exact (spanDigits_sound tail).2.trans (List.suffix_cons _ _)
  case h_2 => exact List.suffix_refl _

lemma sign_suffix (t : Text) : (Json.sign t).2 <:+ t := by
  unfold Json.sign
  split
  case h_1 => exact List.suffix_cons _ _
  case h_2 => exact List.suffix_cons _ _
  case h_3 => exact List.suffix_refl _

lemma powerPart?_suffix (t : Text) : (powerPart? t).2 <:+ t := by
  unfold powerPart?
  split
  case h_1 c tail =>
    split
    case isTrue =>
      dsimp only
      split
      case isTrue => exact List.suffix_refl _
      case isFalse =>
        exact ((spanDigits_sound _).2.trans (sign_suffix tail)).trans (List.suffix_cons _ _)
    case isFalse => exact List.suffix_refl _
  case h_2 => exact List.suffix_refl _

lemma digitsValue_lt {ds : List Char} (h : ∀ c ∈ ds, c.isDigit = true) :
    digitsValue ds < 10 ^ ds.length := by
  induction ds using List.reverseRecOn with
  | nil => decide
  | append_singleton front c ih =>
    have hfront := ih fun d hd => h d (List.mem_append_left _ hd)
    have hc := h c (List.mem_append_right _ List.mem_cons_self)
    have hnine : '9'.toNat = 57 := rfl
    have hlast : digitsValue [c] = c.toNat - 48 := by
      unfold digitsValue
      simp
    rw [Char.isDigit_iff_toNat] at hc
    rw [digitsValue_append, List.length_append, List.length_singleton, Nat.pow_succ, hlast]
    omega

/-- As many digits as an integer may have are enough to write it. -/
lemma digitsObstacle?_digitsValue {ds : List Char} (hdigits : ∀ c ∈ ds, c.isDigit = true)
    (hne : ds ≠ []) (hlimit : ds.length ≤ digitLimit) {n : Int} (hn : n.natAbs = digitsValue ds) :
    digitsObstacle? n = none := by
  have hlength : (Nat.toDigits 10 n.natAbs).length ≤ ds.length := by
    rw [Nat.length_toDigits_le_iff (by decide) (List.length_pos_of_ne_nil hne), hn]
    exact digitsValue_lt hdigits
  exact digitsObstacle?_eq_none.mpr (hlength.trans hlimit)

lemma readMagnitude_sound {negative : Bool} {t rest : Text} {v : Value}
    (hread : readMagnitude negative t = .ok (v, rest)) (room : Nat) :
    Stable room v ∧ rest <:+ t := by
  unfold readMagnitude at hread
  split at hread
  case h_1 => contradiction
  case h_2 whole tail hwhole =>
    obtain ⟨hdigits, hne, hsuffix⟩ := wholePart?_sound hwhole
    have hrest := ((powerPart?_suffix _).trans (fractionPart?_suffix tail)).trans hsuffix
    dsimp only at hread
    split at hread
    case h_1 =>
      split at hread
      case isTrue => contradiction
      case isFalse hlimit =>
        cases hread
        refine ⟨⟨.int room
          (digitsObstacle?_digitsValue hdigits hne (Nat.not_lt.mp hlimit) ?_), rfl⟩, hrest⟩
        split <;> omega
    case h_2 =>
      cases hread
      exact ⟨⟨.real room _, rfl⟩, hrest⟩

lemma readNumber_sound {t rest : Text} {v : Value} (hread : readNumber t = .ok (v, rest))
    (room : Nat) : Stable room v ∧ rest <:+ t := by
  unfold readNumber at hread
  split at hread
  case h_1 tail =>
    obtain ⟨hstable, hrest⟩ := readMagnitude_sound hread room
    exact ⟨hstable, hrest.trans (List.suffix_cons _ _)⟩
  case h_2 => exact readMagnitude_sound hread room

lemma readWord_sound {t rest : Text} {v : Value} (hread : readWord t = .ok (v, rest)) (room : Nat) :
    Stable room v ∧ rest <:+ t := by
  unfold readWord at hread
  split at hread
  case h_1 word hfound =>
    cases hread
    have hword := List.mem_of_find?_eq_some hfound
    refine ⟨?_, List.drop_suffix _ _⟩
    unfold words at hword
    simp only [List.mem_cons, List.not_mem_nil, or_false] at hword
    rcases hword with rfl | rfl | rfl | rfl | rfl | rfl
    · exact ⟨.null room, rfl⟩
    · exact ⟨.bool room true, rfl⟩
    · exact ⟨.bool room false, rfl⟩
    · exact ⟨.real room _, rfl⟩
    · exact ⟨.real room _, rfl⟩
    · exact ⟨.real room _, rfl⟩
  case h_2 => exact readNumber_sound hread room

end Numbers

section Brackets

lemma skipGap_suffix (t : Text) : skipGap t <:+ t := List.dropWhile_suffix _

lemma Stable.empty_dict (room : Nat) : Stable (room + 1) (.dict []) :=
  ⟨.dict (Nat.succ_ne_zero room) List.nodup_nil (List.forall_mem_nil _) (List.forall_mem_nil _),
    rfl⟩

lemma Stable.list {room : Nat} {items : List Value} (h : ∀ v ∈ items, Stable room v) :
    Stable (room + 1) (.list items) := by
  refine ⟨.list (Nat.succ_ne_zero room) fun v hv => (h v hv).legible, ?_⟩
  rw [Proofs.respelled, respelledItems_eq_self fun v hv => (h v hv).respelled]

lemma Stable.put {room : Nat} {name : Text} {v : Value} {members : List (Key × Value)}
    (h : Stable room (.dict members)) (hname : isSpellable name = true)
    (hv : Stable (room - 1) v) : Stable room (.dict (Assoc.put (.text name) v members)) := by
  have hmembers : respelledMembers members = members := Value.dict.inj h.respelled
  refine ⟨h.legible.put hname hv.legible, ?_⟩
  rw [Proofs.respelled, respelledMembers_put, hmembers, hv.respelled]

lemma map_eq_ok {ε α β : Type} {read : Except ε α} {f : α → β} {b : β}
    (h : read.map f = .ok b) : ∃ a, read = .ok a ∧ f a = b := by
  cases read with
  | error fault => cases h
  | ok a => exact ⟨a, rfl, Except.ok.inj h⟩

/-- All that is read with some fuel is stable, and what is left is the end of the text. -/
structure ReadsStably (fuel : Nat) : Prop where
  value : ∀ {room t v rest}, Whole t → readValue fuel room t = .ok (v, rest) →
    Stable room v ∧ rest <:+ t
  items : ∀ {room done t items rest}, Whole t → (∀ v ∈ done, Stable room v) →
    readItems fuel room done t = .ok (items, rest) → (∀ v ∈ items, Stable room v) ∧ rest <:+ t
  members : ∀ {room done t members rest}, Whole t → Stable (room + 1) (.dict done) →
    readMembers fuel room done t = .ok (members, rest) →
      Stable (room + 1) (.dict members) ∧ rest <:+ t

namespace ReadsStably

lemma zero : ReadsStably 0 where
  value _ hread := by
    unfold readValue at hread
    contradiction
  items _ _ hread := by
    unfold readItems at hread
    contradiction
  members _ _ hread := by
    unfold readMembers at hread
    contradiction

variable {fuel room : Nat} {t rest : Text} (h : ReadsStably fuel)

include h

lemma value_succ {v : Value} (hwhole : Whole t)
    (hread : readValue (fuel + 1) room t = .ok (v, rest)) :
    Stable room v ∧ rest <:+ t := by
  unfold readValue at hread
  split at hread
  case h_1 tail =>
    obtain ⟨⟨s, tail'⟩, hstring, hvalue⟩ := map_eq_ok hread
    cases hvalue
    have hsuffix := List.suffix_cons (CodePoint.char '"') tail
    obtain ⟨hspell, hrest⟩ := readString_sound (hwhole.suffix hsuffix) hstring
    exact ⟨⟨.text room s, by rw [Proofs.respelled, respell_of_isSpellable hspell]⟩,
      hrest.trans hsuffix⟩
  case h_2 tail =>
    have hsuffix := (skipGap_suffix tail).trans (List.suffix_cons (CodePoint.char '[') tail)
    split at hread
    case h_1 => contradiction
    case h_2 room =>
      split at hread
      case h_1 tail' hgap =>
        cases hread
        rw [hgap] at hsuffix
        exact ⟨.list (List.forall_mem_nil _), (List.suffix_cons _ _).trans hsuffix⟩
      case h_2 =>
        obtain ⟨_, hitems, hvalue⟩ := map_eq_ok hread
        cases hvalue
        obtain ⟨hstable, hrest⟩ := h.items (hwhole.suffix hsuffix) (List.forall_mem_nil _) hitems
        exact ⟨.list hstable, hrest.trans hsuffix⟩
  case h_3 tail =>
    have hsuffix := (skipGap_suffix tail).trans (List.suffix_cons (CodePoint.char '\x7b') tail)
    split at hread
    case h_1 => contradiction
    case h_2 room =>
      split at hread
      case h_1 tail' hgap =>
        cases hread
        rw [hgap] at hsuffix
        exact ⟨.empty_dict room, (List.suffix_cons _ _).trans hsuffix⟩
      case h_2 =>
        obtain ⟨_, hmembers, hvalue⟩ := map_eq_ok hread
        cases hvalue
        obtain ⟨hstable, hrest⟩ := h.members (hwhole.suffix hsuffix) (.empty_dict room) hmembers
        exact ⟨hstable, hrest.trans hsuffix⟩
  case h_4 => exact readWord_sound hread room

lemma items_succ {done items : List Value} (hwhole : Whole t) (hdone : ∀ v ∈ done, Stable room v)
    (hread : readItems (fuel + 1) room done t = .ok (items, rest)) :
    (∀ v ∈ items, Stable room v) ∧ rest <:+ t := by
  unfold readItems at hread
  split at hread
  case h_1 => contradiction
  case h_2 v tail hvalue =>
    obtain ⟨hv, htail⟩ := h.value hwhole hvalue
    have hmore : ∀ w ∈ v :: done, Stable room w := fun w hw =>
      (List.mem_cons.mp hw).elim (fun hsame => hsame ▸ hv) (hdone w)
    have hsuffix := (skipGap_suffix tail).trans htail
    split at hread
    case h_1 tail' hgap =>
      cases hread
      rw [hgap] at hsuffix
      exact ⟨fun w hw => hmore w (List.mem_reverse.mp hw), (List.suffix_cons _ _).trans hsuffix⟩
    case h_2 tail' hgap =>
      rw [hgap] at hsuffix
      have hfurther := (skipGap_suffix tail').trans ((List.suffix_cons _ _).trans hsuffix)
      obtain ⟨hitems, hrest⟩ := h.items (hwhole.suffix hfurther) hmore hread
      exact ⟨hitems, hrest.trans hfurther⟩
    case h_3 => contradiction

lemma members_succ {done members : List (Key × Value)} (hwhole : Whole t)
    (hdone : Stable (room + 1) (.dict done))
    (hread : readMembers (fuel + 1) room done t = .ok (members, rest)) :
    Stable (room + 1) (.dict members) ∧ rest <:+ t := by
  unfold readMembers at hread
  split at hread
  case h_2 => contradiction
  case h_1 quoted =>
    split at hread
    case h_1 => contradiction
    case h_2 name tail hname =>
      have hquote := List.suffix_cons (CodePoint.char '"') quoted
      obtain ⟨hspell, hbehind⟩ := readString_sound (hwhole.suffix hquote) hname
      have hcolon := (skipGap_suffix tail).trans (hbehind.trans hquote)
      split at hread
      case h_2 => contradiction
      case h_1 tail' hgap =>
        rw [hgap] at hcolon
        have hgapped := (skipGap_suffix tail').trans ((List.suffix_cons _ _).trans hcolon)
        split at hread
        case h_1 => contradiction
        case h_2 v tail hvalue =>
          obtain ⟨hv, htail⟩ := h.value (hwhole.suffix hgapped) hvalue
          have hmore := hdone.put hspell hv
          have hsuffix := (skipGap_suffix tail).trans (htail.trans hgapped)
          dsimp only at hread
          split at hread
          case h_1 hclose =>
            cases hread
            rw [hclose] at hsuffix
            exact ⟨hmore, (List.suffix_cons _ _).trans hsuffix⟩
          case h_2 tail' hcomma =>
            rw [hcomma] at hsuffix
            have hfurther := (skipGap_suffix tail').trans ((List.suffix_cons _ _).trans hsuffix)
            obtain ⟨hmembers, hrest⟩ := h.members (hwhole.suffix hfurther) hmore hread
            exact ⟨hmembers, hrest.trans hfurther⟩
          case h_3 => contradiction

lemma succ : ReadsStably (fuel + 1) where
  value := h.value_succ
  items := h.items_succ
  members := h.members_succ

end ReadsStably

lemma readsStably (fuel : Nat) : ReadsStably fuel := by
  induction fuel with
  | zero => exact .zero
  | succ fuel ih => exact ih.succ

/-- Whatever a text of characters says is given back by its own document. -/
theorem stable_of_read {t : Text} {v : Value} (hwhole : Whole t) (hread : Json.read t = .ok v) :
    Stable depthLimit v := by
  unfold Json.read at hread
  split at hread
  case h_1 => contradiction
  case h_2 w rest hvalue =>
    split at hread
    case isFalse => contradiction
    case isTrue =>
      cases hread
      exact ((readsStably _).value (hwhole.suffix (skipGap_suffix t)) hvalue).1

end Brackets

section Bytes

lemma point?_char {code : Nat} {p : CodePoint} (h : Text.point? false code = some p) :
    ∃ c, p = .char c := by
  unfold Text.point? at h
  dsimp only at h
  rw [Option.ite_none_right_eq_some, Option.some.injEq] at h
  obtain ⟨hchar, rfl⟩ := h
  rw [Bool.and_eq_true, Bool.false_or] at hchar
  generalize CodePoint.ofCode code = p at hchar ⊢
  cases p with
  | char c => exact ⟨c, rfl⟩
  | half unit => exact absurd hchar.2 Bool.false_ne_true

/-- UTF-8 has no bytes for half of a surrogate pair. -/
lemma utf8Point?_char {bytes rest : List UInt8} {p : CodePoint}
    (h : Text.utf8Point? false bytes = some (p, rest)) : ∃ c, p = .char c := by
  have hlast : ∀ {code : Nat} {tail : List UInt8}, ((Text.point? false code).bind fun q =>
      some (q, tail)) = some (p, rest) → ∃ c, p = .char c := by
    intro code tail hbind
    obtain ⟨q, hq, hpair⟩ := Option.bind_eq_some_iff.mp hbind
    rw [Option.some.injEq, Prod.mk.injEq] at hpair
    rw [← hpair.1]
    exact point?_char hq
  unfold Text.utf8Point? at h
  split at h
  case h_1 => cases h
  case h_2 first tail =>
    dsimp only at h
    -- By the first byte: one byte, a byte that begins nothing, or two, three or four bytes.
    split at h
    case isTrue =>
      cases h
      exact ⟨_, rfl⟩
    case isFalse =>
    split at h
    case isTrue => cases h
    case isFalse =>
    split at h
    case isTrue =>
      split at h
      case h_2 => cases h
      case h_1 =>
        obtain ⟨a, -, hpair⟩ := Option.bind_eq_some_iff.mp h
        cases hpair
        exact ⟨_, rfl⟩
    case isFalse =>
    split at h
    case isTrue =>
      split at h
      case h_2 => cases h
      case h_1 =>
        obtain ⟨a, -, h⟩ := Option.bind_eq_some_iff.mp h
        obtain ⟨b, -, h⟩ := Option.bind_eq_some_iff.mp h
        exact hlast (Option.ite_none_left_eq_some.mp h).2
    case isFalse =>
    split at h
    case isFalse => cases h
    case isTrue =>
      split at h
      case h_2 => cases h
      case h_1 =>
        obtain ⟨a, -, h⟩ := Option.bind_eq_some_iff.mp h
        obtain ⟨b, -, h⟩ := Option.bind_eq_some_iff.mp h
        obtain ⟨c, -, h⟩ := Option.bind_eq_some_iff.mp h
        exact hlast (Option.ite_none_left_eq_some.mp h).2

lemma readPoints_whole {fuel : Nat} {done t : Text} {bytes : List UInt8} (hdone : Whole done)
    (h : Text.readPoints (Text.utf8Point? false) fuel done bytes = some t) : Whole t := by
  fun_induction Text.readPoints (Text.utf8Point? false) fuel done bytes with
  | case1 fuel done =>
    cases h
    exact fun unit hunit => hdone unit (List.mem_reverse.mp hunit)
  | case2 => cases h
  | case3 done bytes fuel hne p rest hpoint ih =>
    obtain ⟨c, rfl⟩ := utf8Point?_char hpoint
    refine ih (fun unit hunit => ?_) h
    rcases List.mem_cons.mp hunit with hsame | hmem
    · cases hsame
    · exact hdone unit hmem
  | case4 => cases h

/-- What UTF-8 stands for has no half of a surrogate pair in it. -/
theorem whole_of_decodeUtf8? {bytes : List UInt8} {t : Text}
    (h : Text.decodeUtf8? bytes = some t) : Whole t :=
  readPoints_whole (fun _ hunit => absurd hunit List.not_mem_nil) h

end Bytes

end Condense.Proofs
