import Condense.Json.Reader
import Condense.Json.Writer
import Mathlib.Data.List.TakeDrop
import Mathlib.Tactic.Lemma

/-!
# Texts and integers in documents

What a document says of a text or an integer is read back as it was. The one exception are two
halves of a surrogate pair that stand beside one another without being a character: as escapes they
stand for that character.
-/

namespace Condense.Proofs
open Json

/-- No first half of a surrogate pair stands directly in front of a second one. -/
def isSpellable : Text → Bool
  | p :: q :: rest =>
    !(isHighSurrogate p.code && isLowSurrogate q.code) && isSpellable (q :: rest)
  | _ => true

lemma ofCode_code (p : CodePoint) : CodePoint.ofCode p.code = p := by
  cases p with
  | char c =>
    have hvalid := c.valid
    have hnone : ¬(c.toNat - CodePoint.firstHalf < 0x800 ∧ CodePoint.firstHalf ≤ c.toNat) := by
      have hc : c.toNat < 0xD800 ∨ 0xDFFF < c.toNat ∧ c.toNat < 0x110000 := hvalid
      unfold CodePoint.firstHalf
      omega
    unfold CodePoint.ofCode CodePoint.code
    rw [dif_neg hnone, Char.ofNat_toNat]
  | half unit =>
    have hunit := unit.isLt
    have hsome : CodePoint.firstHalf + unit - CodePoint.firstHalf < 0x800 ∧
        CodePoint.firstHalf ≤ CodePoint.firstHalf + unit := by omega
    unfold CodePoint.ofCode CodePoint.code
    rw [dif_pos hsome]
    exact congrArg CodePoint.half (Fin.ext (Nat.add_sub_cancel_left ..))

/-- Four digits spell every number of at most sixteen bits. -/
lemma fourHex?_hex {n : Nat} (h : n < 0x10000) :
    ∃ a b c d, Text.hex 4 n = [a, b, c, d] ∧ fourHex? a b c d = some n := by
  refine ⟨Text.hexDigit (n / 16 / 16 / 16 % 16), Text.hexDigit (n / 16 / 16 % 16),
    Text.hexDigit (n / 16 % 16), Text.hexDigit (n % 16), rfl, ?_⟩
  have hdigit : ∀ m, Text.hexValue? (Text.hexDigit (m % 16)) = some (m % 16) := fun m =>
    Text.hexValue?_hexDigit _ (Nat.mod_lt m (by decide))
  unfold fourHex?
  simp only [hdigit, Option.pure_def, Option.bind_eq_bind, Option.bind_some, Option.some.injEq]
  omega

lemma readPoints_unitEscape (spelled : Spelled) {n : Nat} (h : n < 0x10000) (rest : Text) :
    readPoints spelled (unitEscape n ++ rest) = readPoints (spelled.addUnit n) rest := by
  obtain ⟨a, b, c, d, hhex, hfour⟩ := fourHex?_hex h
  unfold unitEscape
  rw [hhex]
  change readPoints spelled (.char '\\' :: .char 'u' :: .char a :: .char b :: .char c :: .char d ::
    rest) = _
  rw [readPoints, hfour]

lemma readPoints_short (spelled : Spelled) {p : CodePoint} {c : Char} (hc : c ≠ 'u')
    (hunit : shortEscape? c = some p.code) (rest : Text) :
    readPoints spelled (.char '\\' :: .char c :: rest) = readPoints (spelled.add p) rest := by
  rw [readPoints, hunit]
  · dsimp only
    rw [ofCode_code]
  · intro _ _ _ _ _ _ hu
    exact hc hu

lemma readPoints_plain (spelled : Spelled) {p : CodePoint} (hquote : p ≠ .char '"')
    (hslash : p ≠ .char '\\') (hcode : ¬p.code < 0x20) (rest : Text) :
    readPoints spelled (p :: rest) = readPoints (spelled.add p) rest := by
  rw [readPoints, if_neg hcode]
  · exact hquote
  · intro _ _ _ _ _ hp
    exact absurd hp hslash
  · intro _ _ hp
    exact absurd hp hslash
  · exact hslash

/-- What has been read once another code point of a text is complete. Half of a surrogate pair is
written as an escape, which may complete a pair. -/
def spellPoint (spelled : Spelled) : CodePoint → Spelled
  | .char c => spelled.add (.char c)
  | .half unit => spelled.addUnit (CodePoint.half unit).code

/-- The text that a document gives back for a text. -/
def respell (t : Text) : Text := (t.foldl spellPoint {}).points.reverse

/-- An escape that is not the second half of a pair stands for itself. -/
lemma addUnit_alone {spelled : Spelled} {unit : Nat}
    (h : ∀ high ∈ spelled.high, isLowSurrogate unit = false) :
    spelled.addUnit unit =
      ⟨.ofCode unit :: spelled.points, if isHighSurrogate unit then some unit else none⟩ := by
  have hnone : spelled.high.filter (fun _ => isLowSurrogate unit) = none := by
    rw [Option.filter_eq_none_iff]
    intro high hhigh
    rw [h high hhigh]
    exact Bool.false_ne_true
  unfold Spelled.addUnit
  rw [hnone]

lemma isHighSurrogate_char (c : Char) : isHighSurrogate c.toNat = false := by
  have hc : c.toNat < 0xD800 ∨ 0xDFFF < c.toNat ∧ c.toNat < 0x110000 := c.valid
  unfold isHighSurrogate
  rw [Bool.and_eq_false_iff, decide_eq_false_iff_not, decide_eq_false_iff_not]
  omega

lemma isLowSurrogate_char (c : Char) : isLowSurrogate c.toNat = false := by
  have hc : c.toNat < 0xD800 ∨ 0xDFFF < c.toNat ∧ c.toNat < 0x110000 := c.valid
  unfold isLowSurrogate
  rw [Bool.and_eq_false_iff, decide_eq_false_iff_not, decide_eq_false_iff_not]
  omega

lemma addUnit_char (spelled : Spelled) (c : Char) :
    spelled.addUnit c.toNat = spelled.add (.char c) := by
  rw [addUnit_alone fun _ _ => isLowSurrogate_char c, isHighSurrogate_char,
    if_neg Bool.false_ne_true]
  exact congrArg (fun p => Spelled.mk (p :: spelled.points) none) (ofCode_code (.char c))

lemma code_lt (p : CodePoint) : p.code < 0x110000 := by
  cases p with
  | char c =>
    have hc : c.toNat < 0xD800 ∨ 0xDFFF < c.toNat ∧ c.toNat < 0x110000 := c.valid
    change c.toNat < 0x110000
    omega
  | half unit =>
    have hunit := unit.isLt
    change CodePoint.firstHalf + unit < 0x110000
    unfold CodePoint.firstHalf
    omega

/-- The two halves of a pair stand for one character. -/
lemma addUnit_pair {p : CodePoint} (spelled : Spelled) (hbeyond : 0x10000 ≤ p.code)
    {high low : Nat} (hhigh : high = 0xD800 + (p.code - 0x10000) / 0x400)
    (hlow : low = 0xDC00 + (p.code - 0x10000) % 0x400) :
    (spelled.addUnit high).addUnit low = spelled.add p := by
  have hlt := code_lt p
  have hisHigh : isHighSurrogate high = true := by
    unfold isHighSurrogate
    rw [Bool.and_eq_true, decide_eq_true_eq, decide_eq_true_eq]
    omega
  have hnotLow : isLowSurrogate high = false := by
    unfold isLowSurrogate
    rw [Bool.and_eq_false_iff, decide_eq_false_iff_not, decide_eq_false_iff_not]
    omega
  have hisLow : isLowSurrogate low = true := by
    unfold isLowSurrogate
    rw [Bool.and_eq_true, decide_eq_true_eq, decide_eq_true_eq]
    omega
  have hfirst : spelled.addUnit high = ⟨.ofCode high :: spelled.points, some high⟩ := by
    rw [addUnit_alone fun _ _ => hnotLow, if_pos hisHigh]
  have hcode : 0x10000 + (high - 0xD800) * 0x400 + (low - 0xDC00) = p.code := by omega
  rw [hfirst]
  unfold Spelled.addUnit
  rw [Option.filter_some, hisLow, if_pos rfl]
  dsimp only [List.drop_succ_cons, List.drop_zero]
  rw [hcode, ofCode_code]
  rfl

/-- A code point is written as a letter behind a backslash, by its code units, or as itself. -/
lemma escapePoint_cases (p : CodePoint) :
    (∃ c : Char, c ≠ 'u' ∧ c.toNat < 0x80 ∧ shortEscape? c = some p.code ∧
      escapePoint .file p = [.char '\\', .char c]) ∨
    escapePoint .file p = pointEscape p ∨
    p ≠ .char '"' ∧ p ≠ .char '\\' ∧ 0x20 ≤ p.code ∧ p.code < 0x7F ∧ escapePoint .file p = [p] := by
  unfold escapePoint
  split
  case isTrue hp =>
    obtain rfl := beq_iff_eq.mp hp
    exact Or.inl ⟨'"', by decide, by decide, by decide, rfl⟩
  case isFalse hquote =>
  split
  case isTrue hp =>
    obtain rfl := beq_iff_eq.mp hp
    exact Or.inl ⟨'\\', by decide, by decide, by decide, rfl⟩
  case isFalse hslash =>
  split
  case isTrue hp =>
    obtain rfl := beq_iff_eq.mp hp
    exact Or.inl ⟨'n', by decide, by decide, by decide, rfl⟩
  case isFalse =>
  split
  case isTrue hp =>
    obtain rfl := beq_iff_eq.mp hp
    exact Or.inl ⟨'r', by decide, by decide, by decide, rfl⟩
  case isFalse =>
  split
  case isTrue hp =>
    obtain rfl := beq_iff_eq.mp hp
    exact Or.inl ⟨'t', by decide, by decide, by decide, rfl⟩
  case isFalse =>
  split
  case isTrue hp =>
    rw [beq_iff_eq] at hp
    exact Or.inl ⟨'b', by decide, by decide, by rw [hp]; decide, rfl⟩
  case isFalse =>
  split
  case isTrue hp =>
    rw [beq_iff_eq] at hp
    exact Or.inl ⟨'f', by decide, by decide, by rw [hp]; decide, rfl⟩
  case isFalse =>
  split
  case isTrue => exact Or.inr (Or.inl rfl)
  case isFalse hplain =>
    have hrange : 0x20 ≤ p.code ∧ p.code < 0x7F := by
      simp only [Style.file, Bool.true_and, Bool.or_eq_true, decide_eq_true_eq, not_or] at hplain
      omega
    rw [beq_iff_eq] at hquote hslash
    exact Or.inr (Or.inr ⟨hquote, hslash, hrange.1, hrange.2, rfl⟩)

/-- Half of a pair is written as an escape. -/
lemma escapePoint_half (unit : Fin 0x800) :
    escapePoint .file (.half unit) = unitEscape (CodePoint.half unit).code := by
  have hunit := unit.isLt
  have hcode : (CodePoint.half unit).code = 0xD800 + unit := rfl
  rcases escapePoint_cases (.half unit) with
    ⟨c, -, hascii, hletter, -⟩ | htext | ⟨-, -, -, hcode, -⟩
  · unfold shortEscape? at hletter
    grind
  · rw [htext, pointEscape, if_pos (by omega)]
  · omega

/-- Every way to write a code point stands for it. -/
lemma readPoints_escape (p : CodePoint) (spelled : Spelled) (rest : Text) :
    readPoints spelled (escapePoint .file p ++ rest) = readPoints (spellPoint spelled p) rest := by
  cases p with
  | half unit =>
    have hplane : (CodePoint.half unit).code < 0x10000 := by
      have hunit := unit.isLt
      change 0xD800 + unit.val < 0x10000
      omega
    rw [escapePoint_half, readPoints_unitEscape spelled hplane]
    rfl
  | char c =>
    rcases escapePoint_cases (.char c) with
      ⟨d, hd, -, hunit, htext⟩ | htext | ⟨hquote, hslash, hcode, -, htext⟩
    · rw [htext]
      exact readPoints_short spelled hd hunit rest
    · rw [htext]
      unfold pointEscape
      split
      case isTrue hplane =>
        rw [readPoints_unitEscape spelled hplane]
        exact congrArg (readPoints · rest) (addUnit_char spelled c)
      case isFalse hplane =>
        have hlt := code_lt (.char c)
        dsimp only
        rw [List.append_assoc, readPoints_unitEscape spelled (by omega),
          readPoints_unitEscape _ (by omega), addUnit_pair spelled (Nat.not_lt.mp hplane) rfl rfl]
        rfl
    · rw [htext]
      exact readPoints_plain spelled hquote hslash (Nat.not_lt.mpr hcode) rest

/-- Up to its closing mark a text is read point by point. -/
lemma readPoints_render (t after : Text) (spelled : Spelled) :
    readPoints spelled
        (t.foldr (fun p rest => escapePoint .file p ++ rest) (.char '"' :: after)) =
      .ok ((t.foldl spellPoint spelled).points.reverse, after) := by
  induction t generalizing spelled with
  | nil =>
    rw [List.foldr_nil, readPoints]
    rfl
  | cons p rest ih => rw [List.foldr_cons, readPoints_escape, ih, List.foldl_cons]

theorem readString_respell (t after : Text) :
    readString (t.foldr (fun p rest => escapePoint .file p ++ rest) (.char '"' :: after)) =
      .ok (respell t, after) :=
  readPoints_render t after {}

/-- All that one code point hands on to the next is a first half that a second one could complete.
-/
lemma spellPoint_alone {p : CodePoint} {spelled : Spelled}
    (h : ∀ unit ∈ spelled.high, isLowSurrogate p.code = false) :
    (spellPoint spelled p).points = p :: spelled.points ∧
      ∀ unit ∈ (spellPoint spelled p).high, isHighSurrogate p.code = true := by
  cases p with
  | char c => exact ⟨rfl, nofun⟩
  | half unit =>
    rw [spellPoint, addUnit_alone h, ofCode_code]
    refine ⟨rfl, fun unit hunit => ?_⟩
    dsimp only at hunit
    split at hunit
    case isTrue hhigh => exact hhigh
    case isFalse => contradiction

lemma foldl_spellPoint (t : Text) (spelled : Spelled) (hspell : isSpellable t = true)
    (hhigh : ∀ unit ∈ spelled.high, ∀ p ∈ t.head?, isLowSurrogate p.code = false) :
    (t.foldl spellPoint spelled).points.reverse = spelled.points.reverse ++ t := by
  induction t generalizing spelled with
  | nil => rw [List.foldl_nil, List.append_nil]
  | cons p rest ih =>
    obtain ⟨hpoints, hnext⟩ := spellPoint_alone fun unit hunit => hhigh unit hunit p rfl
    have hrest : isSpellable rest = true ∧
        ∀ q ∈ rest.head?, isHighSurrogate p.code = true → isLowSurrogate q.code = false := by
      cases rest with
      | nil => exact ⟨rfl, nofun⟩
      | cons q rest =>
        unfold isSpellable at hspell
        rw [Bool.and_eq_true, Bool.not_eq_true', Bool.and_eq_false_iff] at hspell
        refine ⟨hspell.2, fun found hfound hfirst => ?_⟩
        cases hfound
        rcases hspell.1 with hnone | hnone
        · rw [hfirst] at hnone
          contradiction
        · exact hnone
    rw [List.foldl_cons, ih _ hrest.1 fun unit hunit q hq => hrest.2 q hq (hnext unit hunit),
      hpoints, List.reverse_cons, List.append_assoc]
    rfl

/-- What can be spelled comes back as it was. -/
theorem respell_of_isSpellable {t : Text} (h : isSpellable t = true) : respell t = t :=
  foldl_spellPoint t {} h nofun

/-- What has been read before comes back in front of the rest. A first half that waits for a second
one has been read with the rest. -/
lemma spellPoint_onto (done : Text) {spelled : Spelled} (h : spelled.high ≠ none → spelled.points ≠ [])
    (p : CodePoint) :
    spellPoint ⟨spelled.points ++ done, spelled.high⟩ p =
        ⟨(spellPoint spelled p).points ++ done, (spellPoint spelled p).high⟩ ∧
      (spellPoint spelled p).points ≠ [] := by
  cases p with
  | char c => exact ⟨rfl, List.cons_ne_nil _ _⟩
  | half unit =>
    unfold spellPoint Spelled.addUnit
    dsimp only
    cases hhigh : spelled.high.filter fun _ => isLowSurrogate (CodePoint.half unit).code with
    | none => exact ⟨rfl, List.cons_ne_nil _ _⟩
    | some high =>
      have hpoints : spelled.points ≠ [] := by
        apply h
        rintro hnone
        rw [hnone] at hhigh
        contradiction
      obtain ⟨q, rest, hq⟩ := List.exists_cons_of_ne_nil hpoints
      rw [hq]
      exact ⟨rfl, List.cons_ne_nil _ _⟩

lemma foldl_spellPoint_onto (done t : Text) {spelled : Spelled}
    (h : spelled.high ≠ none → spelled.points ≠ []) :
    (t.foldl spellPoint ⟨spelled.points ++ done, spelled.high⟩).points =
      (t.foldl spellPoint spelled).points ++ done := by
  induction t generalizing spelled with
  | nil => rfl
  | cons p rest ih =>
    obtain ⟨hstep, hpoints⟩ := spellPoint_onto done h p
    rw [List.foldl_cons, List.foldl_cons, hstep, ih fun _ => hpoints]

/-- Characters in front of a text come back as they were. -/
theorem respell_ofChars_append (cs : List Char) (t : Text) :
    respell (Text.ofChars cs ++ t) = Text.ofChars cs ++ respell t := by
  induction cs with
  | nil => rfl
  | cons c rest ih =>
    have hfirst : respell (.char c :: (Text.ofChars rest ++ t)) =
        .char c :: respell (Text.ofChars rest ++ t) := by
      have honto := @foldl_spellPoint_onto [.char c] (Text.ofChars rest ++ t) {}
        fun hhigh => absurd rfl hhigh
      unfold respell
      rw [List.foldl_cons]
      change ((Text.ofChars rest ++ t).foldl spellPoint ⟨[] ++ [.char c], none⟩).points.reverse = _
      rw [honto, List.reverse_append]
      rfl
    change respell (.char c :: (Text.ofChars rest ++ t)) = .char c :: (Text.ofChars rest ++ respell t)
    rw [hfirst, ih]

lemma respell_ne_nil {t : Text} (h : t ≠ []) : respell t ≠ [] := by
  have hpoints : ∀ (t : Text) (spelled : Spelled), spelled.points ≠ [] →
      (t.foldl spellPoint spelled).points ≠ [] := by
    intro t
    induction t with
    | nil => exact fun _ hsome => hsome
    | cons p rest ih =>
      exact fun spelled hsome => ih _ (spellPoint_onto [] (fun _ => hsome) p).2
  obtain ⟨p, rest, rfl⟩ := List.exists_cons_of_ne_nil h
  have hfirst : (spellPoint {} p).points ≠ [] :=
    (@spellPoint_onto [] {} (fun hhigh => absurd rfl hhigh) p).2
  simpa [respell] using hpoints rest _ hfirst

/-- Whatever consists of characters alone can be spelled. -/
theorem isSpellable_ofChars (cs : List Char) : isSpellable (Text.ofChars cs) = true := by
  induction cs with
  | nil => rfl
  | cons c rest ih =>
    cases rest with
    | nil => rfl
    | cons d rest =>
      change (!(isHighSurrogate c.toNat && _) && _) = true
      rw [isHighSurrogate_char]
      exact ih

/-- Two texts that are spelled stay so beside one another, unless a pair comes about between them.
-/
lemma isSpellable_append {s t : Text} (hs : isSpellable s = true) (ht : isSpellable t = true)
    (hpair : ∀ p ∈ s.getLast?, ∀ q ∈ t.head?,
      isHighSurrogate p.code = false ∨ isLowSurrogate q.code = false) :
    isSpellable (s ++ t) = true := by
  induction s with
  | nil => exact ht
  | cons p rest ih =>
    cases rest with
    | nil =>
      cases t with
      | nil => exact hs
      | cons q t =>
        have hnone := hpair p rfl q rfl
        change (!(isHighSurrogate p.code && isLowSurrogate q.code) && isSpellable (q :: t)) = true
        rw [ht, Bool.and_true, Bool.not_eq_true', Bool.and_eq_false_iff]
        exact hnone
    | cons q rest =>
      unfold isSpellable at hs
      rw [Bool.and_eq_true] at hs
      change (_ && isSpellable ((q :: rest) ++ t)) = true
      rw [ih hs.2 hpair, hs.1]
      rfl

lemma digitsValue_toDigits (n : Nat) : digitsValue (Nat.toDigits 10 n) = n := by
  have hcore : digitsValue (Nat.toDigits 10 n) = Nat.ofDigitChars 10 (Nat.toDigits 10 n) 0 := by
    unfold digitsValue Nat.ofDigitChars
    simp only [Nat.mul_comm]
    rfl
  rw [hcore, Nat.ofDigitChars_ten_toDigits]

/-- Only zero begins with a zero. -/
lemma toDigits_head_zero {n : Nat} {ds : List Char} (h : Nat.toDigits 10 n = '0' :: ds) :
    n = 0 := by
  induction n using Nat.strongRecOn generalizing ds with
  | ind n ih =>
    by_cases hlt : n < 10
    · rw [Nat.toDigits_of_lt_base hlt] at h
      exact Nat.digitChar_eq_zero.mp (List.cons.inj h).1
    · have hle : 10 ≤ n := Nat.not_lt.mp hlt
      rw [Nat.toDigits_of_base_le (by decide) hle] at h
      cases hfront : Nat.toDigits 10 (n / 10) with
      | nil => exact absurd hfront Nat.toDigits_ne_nil
      | cons d front =>
        rw [hfront] at h
        rw [(List.cons.inj h).1] at hfront
        have hzero := ih (n / 10) (by omega) hfront
        omega

lemma isDigit_of_mem {n : Nat} {c : Char} (h : c ∈ Nat.toDigits 10 n) : c.isDigit = true :=
  Nat.isDigit_of_mem_toDigits (by decide) (by decide) h

/-- A number that stands in front of the text ends there. -/
def endsNumber : Text → Bool
  | .char c :: _ => !(c.isDigit || c == '.' || c == 'e' || c == 'E')
  | _ => true

/-- Digits are taken from the front of a text up to the first character that is none. -/
lemma spanDigits_ofChars {ds : List Char} {after : Text} (hds : ∀ c ∈ ds, c.isDigit = true)
    (hafter : ∀ p ∈ after.head?, p.is Char.isDigit = false) :
    Json.spanDigits (Text.ofChars ds ++ after) = (ds, after) := by
  have hdigits : ∀ p ∈ Text.ofChars ds, p.is Char.isDigit = true := by
    intro p hp
    obtain ⟨c, hc, rfl⟩ := List.mem_map.mp hp
    exact hds c hc
  have hend : after.takeWhile (·.is Char.isDigit) = [] ∧
      after.dropWhile (·.is Char.isDigit) = after := by
    cases after with
    | nil => exact ⟨rfl, rfl⟩
    | cons p rest =>
      have hp := Bool.eq_false_iff.mp (hafter p rfl)
      exact ⟨List.takeWhile_cons_of_neg hp, List.dropWhile_cons_of_neg hp⟩
  have hchars : (Text.ofChars ds).filterMap CodePoint.char? = ds := by
    unfold Text.ofChars
    rw [List.filterMap_map]
    exact List.filterMap_some
  unfold Json.spanDigits
  rw [List.span_eq_takeWhile_dropWhile, List.takeWhile_append_of_pos hdigits,
    List.dropWhile_append_of_pos hdigits, hend.1, hend.2, List.append_nil]
  dsimp only
  rw [hchars]

lemma head_not_digit {after : Text} (h : endsNumber after = true) :
    ∀ p ∈ after.head?, p.is Char.isDigit = false := by
  intro p hp
  match after, hp, h with
  | .half _ :: _, rfl, _ => rfl
  | .char c :: _, rfl, h =>
    change c.isDigit = false
    unfold endsNumber at h
    grind

lemma spanDigits_append {ds : List Char} {after : Text} (hds : ∀ c ∈ ds, c.isDigit = true)
    (hafter : endsNumber after = true) : Json.spanDigits (Text.ofChars ds ++ after) = (ds, after) :=
  spanDigits_ofChars hds (head_not_digit hafter)

lemma wholePart?_digits (n : Nat) {after : Text} (hafter : endsNumber after = true) :
    wholePart? (Text.ofChars (Nat.toDigits 10 n) ++ after) = some (Nat.toDigits 10 n, after) := by
  have hspan := spanDigits_append (fun c hc => isDigit_of_mem hc (n := n)) hafter
  cases hds : Nat.toDigits 10 n with
  | nil => exact absurd hds Nat.toDigits_ne_nil
  | cons d ds =>
    rw [hds] at hspan
    by_cases hd : d = '0'
    · subst hd
      have hn := toDigits_head_zero hds
      subst hn
      have hnil := (List.cons.inj hds).2
      rw [← hnil]
      rfl
    · change wholePart? (.char d :: (Text.ofChars ds ++ after)) = _
      unfold wholePart?
      split
      case h_1 heq => exact absurd (CodePoint.char.inj (List.cons.inj heq).1) hd
      case h_2 =>
        have hwhole : Json.spanDigits (.char d :: (Text.ofChars ds ++ after)) = (d :: ds, after) :=
          hspan
        rw [hwhole]
        rfl

lemma fractionPart?_end {after : Text} (h : endsNumber after = true) :
    fractionPart? after = (none, after) := by
  unfold fractionPart?
  split
  case h_1 => contradiction
  case h_2 => rfl

lemma powerPart?_end {after : Text} (h : endsNumber after = true) :
    powerPart? after = (none, after) := by
  unfold powerPart?
  split
  case h_1 c tail =>
    have hc : ¬(c == 'e' || c == 'E') = true := by
      unfold endsNumber at h
      grind
    rw [if_neg hc]
  case h_2 => rfl

/-- Digits within the limit are read back, behind either sign. -/
lemma readMagnitude_digits (negative : Bool) {n : Nat} {after : Text}
    (hlength : (Nat.toDigits 10 n).length ≤ digitLimit) (hafter : endsNumber after = true) :
    readMagnitude negative (Text.ofChars (Nat.toDigits 10 n) ++ after) =
      .ok (.int (if negative then -(n : Int) else n), after) := by
  unfold readMagnitude
  rw [wholePart?_digits n hafter]
  dsimp only
  rw [fractionPart?_end hafter]
  dsimp only
  rw [powerPart?_end hafter]
  dsimp only
  rw [if_neg (Nat.not_lt.mpr hlength), digitsValue_toDigits]

/-- Every integer begins with a digit, behind a minus if it is negative. -/
lemma integerText_cases (n : Int) :
    ∃ d ds, d.isDigit = true ∧ Nat.toDigits 10 n.natAbs = d :: ds ∧
      integerText n = (if n < 0 then [.char '-'] else []) ++ .char d :: Text.ofChars ds := by
  obtain ⟨d, ds, hds⟩ := List.exists_cons_of_ne_nil (Nat.toDigits_ne_nil (b := 10) (n := n.natAbs))
  refine ⟨d, ds, isDigit_of_mem (n := n.natAbs) (hds ▸ List.mem_cons_self), hds, ?_⟩
  unfold integerText integerChars
  rw [hds, Text.ofChars_append]
  split <;> rfl

lemma ne_of_isDigit {c d : Char} (hc : c.isDigit = false) (hd : d.isDigit = true) : c ≠ d := by
  rintro rfl
  rw [hc] at hd
  contradiction

lemma digitsObstacle?_eq_none {n : Int} :
    digitsObstacle? n = none ↔ (Nat.toDigits 10 n.natAbs).length ≤ digitLimit := by
  unfold digitsObstacle? isOverlong
  simp

/-- An integer within the digit limit is read back. -/
lemma readNumber_integerText {n : Int} {after : Text} (hdigits : digitsObstacle? n = none)
    (hafter : endsNumber after = true) :
    readNumber (integerText n ++ after) = .ok (.int n, after) := by
  have hlength := digitsObstacle?_eq_none.mp hdigits
  have hread := fun negative => readMagnitude_digits negative hlength hafter
  obtain ⟨d, ds, hd, hds, htext⟩ := integerText_cases n
  rw [hds] at hread
  rw [htext]
  by_cases hneg : n < 0
  · have habs : -(n.natAbs : Int) = n := by omega
    rw [if_pos hneg]
    exact (hread true).trans (by rw [if_pos rfl, habs])
  · have habs : (n.natAbs : Int) = n := by omega
    rw [if_neg hneg]
    unfold readNumber
    split
    case h_1 heq =>
      exact absurd (CodePoint.char.inj (List.cons.inj heq).1).symm (ne_of_isDigit (by decide) hd)
    case h_2 =>
      exact (hread false).trans (by rw [if_neg Bool.false_ne_true, habs])

lemma isPrefixOf_of_ne {c d : Char} (h : c ≠ d) (s t : Text) :
    (CodePoint.char c :: s).isPrefixOf (.char d :: t) = false := by
  rw [List.isPrefixOf_cons_cons, Bool.and_eq_false_iff, beq_eq_false_iff_ne]
  exact Or.inl fun hsame => h (CodePoint.char.inj hsame)

/-- No word begins with a digit. -/
lemma find?_words_digit {d : Char} (hd : d.isDigit = true) (rest : Text) :
    words.find? (fun word => word.1.isPrefixOf (.char d :: rest)) = none := by
  rw [List.find?_eq_none]
  intro word hword
  rw [Bool.not_eq_true]
  unfold words at hword
  simp only [List.mem_cons, List.not_mem_nil, or_false] at hword
  rcases hword with rfl | rfl | rfl | rfl | rfl | rfl <;>
    exact isPrefixOf_of_ne (ne_of_isDigit (by decide) hd) _ _

/-- No word begins with a minus in front of a digit. -/
lemma find?_words_minus {d : Char} (hd : d.isDigit = true) (rest : Text) :
    words.find? (fun word => word.1.isPrefixOf (.char '-' :: .char d :: rest)) = none := by
  rw [List.find?_eq_none]
  intro word hword
  rw [Bool.not_eq_true]
  unfold words at hword
  simp only [List.mem_cons, List.not_mem_nil, or_false] at hword
  rcases hword with rfl | rfl | rfl | rfl | rfl | rfl
  case inr.inr.inr.inr.inr =>
    change ((CodePoint.char '-' == .char '-') && ([CodePoint.char 'I'] ++ _).isPrefixOf _) = false
    exact Bool.and_eq_false_iff.mpr (Or.inr (isPrefixOf_of_ne (ne_of_isDigit (by decide) hd) _ _))
  all_goals exact isPrefixOf_of_ne (by decide) _ _

lemma find?_words_integerText (n : Int) (after : Text) :
    words.find? (fun word => word.1.isPrefixOf (integerText n ++ after)) = none := by
  obtain ⟨d, ds, hd, -, htext⟩ := integerText_cases n
  rw [htext]
  split
  · exact find?_words_minus hd _
  · exact find?_words_digit hd _

lemma readWord_integerText {n : Int} {after : Text} (hdigits : digitsObstacle? n = none)
    (hafter : endsNumber after = true) :
    readWord (integerText n ++ after) = .ok (.int n, after) := by
  unfold readWord
  rw [find?_words_integerText]
  exact readNumber_integerText hdigits hafter

end Condense.Proofs
