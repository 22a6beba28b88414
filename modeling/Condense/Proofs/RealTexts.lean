import Condense.Proofs.JsonTokens
import Condense.Proofs.RealDigits

/-!
# Floating point numbers in documents

A floating point number is read back from the text that a document has for it: from digits around a
point, from digits in front of a power of ten, and from the three words for what is no finite
number.
-/

namespace Condense.Proofs
open Json

attribute [local instance (high)] instPowNat

/-- The characters of a part behind the point. -/
def pointChars : Option (List Char) → List Char
  | none => []
  | some ds => '.' :: ds

/-- The characters of a power of ten. -/
def powerChars : Option Int → List Char
  | none => []
  | some e => Layout.exponentText e

lemma digitsValue_append (front back : List Char) :
    digitsValue (front ++ back) = digitsValue front * 10 ^ back.length + digitsValue back := by
  induction back using List.reverseRecOn with
  | nil => simp [digitsValue]
  | append_singleton back c ih =>
    have hlast : ∀ cs, digitsValue (cs ++ [c]) = digitsValue cs * 10 + (c.toNat - 48) := by
      intro cs
      unfold digitsValue
      rw [List.foldl_append]
      rfl
    rw [← List.append_assoc, hlast, hlast, ih, List.length_append, List.length_singleton,
      Nat.pow_succ, Nat.add_mul, Nat.mul_assoc, Nat.add_assoc]

lemma digitsValue_zeros (n : Nat) : digitsValue (List.replicate n '0') = 0 := by
  induction n with
  | zero => rfl
  | succ n ih => exact ih

section Parts

variable {ds : List Char} {after : Text}

lemma wholePart?_of_digits (hds : ∀ c ∈ ds, c.isDigit = true) (hne : ds ≠ [])
    (hzero : ds.head? = some '0' → ds = ['0'])
    (hafter : ∀ p ∈ after.head?, p.is Char.isDigit = false) :
    wholePart? (Text.ofChars ds ++ after) = some (ds, after) := by
  have hspan := spanDigits_ofChars hds hafter
  cases ds with
  | nil => exact absurd rfl hne
  | cons d ds =>
    by_cases hd : d = '0'
    · subst hd
      rw [hzero rfl]
      rfl
    · change wholePart? (.char d :: (Text.ofChars ds ++ after)) = _
      unfold wholePart?
      split
      case h_1 heq => exact absurd (CodePoint.char.inj (List.cons.inj heq).1) hd
      case h_2 =>
        have hwhole : Json.spanDigits (.char d :: (Text.ofChars ds ++ after)) = (d :: ds, after) :=
          hspan
        rw [hwhole]
        rfl

lemma fractionPart?_of_digits (hds : ∀ c ∈ ds, c.isDigit = true) (hne : ds ≠ [])
    (hafter : ∀ p ∈ after.head?, p.is Char.isDigit = false) :
    fractionPart? (Text.ofChars ('.' :: ds) ++ after) = (some ds, after) := by
  have hspan := spanDigits_ofChars hds hafter
  change fractionPart? (.char '.' :: (Text.ofChars ds ++ after)) = _
  unfold fractionPart?
  split
  case h_1 tail heq =>
    obtain rfl := (List.cons.inj heq).2
    rw [hspan]
    dsimp only
    rw [List.isEmpty_eq_false_iff.mpr hne, if_neg Bool.false_ne_true]
  case h_2 hother => exact absurd rfl (hother _)

end Parts

/-- A power of ten has digits behind its sign, and they spell it. -/
lemma exponentText_eq (e : Int) : ∃ ds, ds ≠ [] ∧ (∀ c ∈ ds, c.isDigit = true) ∧
    digitsValue ds = e.natAbs ∧
    Layout.exponentText e = 'e' :: (if e < 0 then '-' else '+') :: ds := by
  have hdigit : ∀ c ∈ Nat.toDigits 10 e.natAbs, c.isDigit = true := fun c hc => isDigit_of_mem hc
  by_cases hshort : (Nat.toDigits 10 e.natAbs).length < 2
  · refine ⟨'0' :: Nat.toDigits 10 e.natAbs, List.cons_ne_nil _ _, fun c hc => ?_,
      digitsValue_toDigits _, ?_⟩
    · rcases List.mem_cons.mp hc with rfl | hmem
      · rfl
      · exact hdigit c hmem
    · unfold Layout.exponentText
      dsimp only
      rw [if_pos hshort]
  · refine ⟨_, Nat.toDigits_ne_nil, hdigit, digitsValue_toDigits _, ?_⟩
    unfold Layout.exponentText
    dsimp only
    rw [if_neg hshort]

lemma powerPart?_exponentText (e : Int) {after : Text} (hafter : endsNumber after = true) :
    powerPart? (Text.ofChars (Layout.exponentText e) ++ after) = (some e, after) := by
  obtain ⟨ds, hne, hds, hvalue, htext⟩ := exponentText_eq e
  have hspan := spanDigits_append hds hafter
  have hread : powerPart? (Text.ofChars (Layout.exponentText e) ++ after) =
      (some (if (e < 0 : Bool) then -(digitsValue ds : Int) else digitsValue ds), after) := by
    have hsign : sign (.char (if e < 0 then '-' else '+') :: (Text.ofChars ds ++ after)) =
        ((e < 0 : Bool), Text.ofChars ds ++ after) := by
      by_cases hneg : e < 0
      · rw [if_pos hneg, decide_eq_true hneg]
        rfl
      · rw [if_neg hneg, decide_eq_false hneg]
        rfl
    rw [htext]
    change powerPart? (.char 'e' :: .char (if e < 0 then '-' else '+') ::
      (Text.ofChars ds ++ after)) = _
    unfold powerPart?
    dsimp only
    rw [if_pos (by decide), hsign]
    dsimp only
    rw [hspan]
    dsimp only
    rw [List.isEmpty_eq_false_iff.mpr hne, if_neg Bool.false_ne_true]
  rw [hread, hvalue]
  congr 2
  split
  case isTrue hneg =>
    rw [decide_eq_true_eq] at hneg
    omega
  case isFalse hneg =>
    rw [decide_eq_true_eq] at hneg
    omega

lemma head_exponentText (e : Int) (after : Text) :
    ∀ p ∈ (Text.ofChars (Layout.exponentText e) ++ after).head?, p.is Char.isDigit = false := by
  intro p hp
  cases hp
  rfl

/-- Digits around a point, or in front of a power of ten, as the grammar wants them. -/
structure RealParts (whole : List Char) (fraction : Option (List Char)) (power : Option Int) :
    Prop where
  wholeDigits : ∀ c ∈ whole, c.isDigit = true
  nonempty : whole ≠ []
  leading : whole.head? = some '0' → whole = ['0']
  fractionDigits : ∀ ds, fraction = some ds → ds ≠ [] ∧ ∀ c ∈ ds, c.isDigit = true
  isReal : (fraction.isSome || power.isSome) = true

/-- The decimal that the parts stand for. -/
def partsDecimal (whole : List Char) (fraction : Option (List Char)) (power : Option Int) :
    Decimal :=
  ⟨digitsValue (whole ++ fraction.getD []), power.getD 0 - (fraction.getD []).length⟩

lemma RealParts.read {whole : List Char} {fraction : Option (List Char)} {power : Option Int}
    (h : RealParts whole fraction power) (negative : Bool) {after : Text}
    (hafter : endsNumber after = true) :
    readMagnitude negative
        (Text.ofChars (whole ++ (pointChars fraction ++ powerChars power)) ++ after) =
      .ok (.real (Binary64.ofDecimal negative (partsDecimal whole fraction power)), after) := by
  have hpower : powerPart? (Text.ofChars (powerChars power) ++ after) = (power, after) := by
    cases power with
    | none => exact powerPart?_end hafter
    | some e => exact powerPart?_exponentText e hafter
  have hend : ∀ p ∈ (Text.ofChars (powerChars power) ++ after).head?,
      p.is Char.isDigit = false := by
    cases power with
    | none => exact head_not_digit hafter
    | some e => exact head_exponentText e after
  have hpoint : fractionPart? (Text.ofChars (pointChars fraction) ++
      (Text.ofChars (powerChars power) ++ after)) =
        (fraction, Text.ofChars (powerChars power) ++ after) := by
    cases fraction with
    | some ds =>
      obtain ⟨hne, hdigits⟩ := h.fractionDigits ds rfl
      exact fractionPart?_of_digits hdigits hne hend
    | none =>
      cases power with
      | none => exact absurd h.isReal Bool.false_ne_true
      | some e => rfl
  have hrest : ∀ p ∈ (Text.ofChars (pointChars fraction) ++
      (Text.ofChars (powerChars power) ++ after)).head?, p.is Char.isDigit = false := by
    cases fraction with
    | none => exact hend
    | some ds =>
      intro p hp
      cases hp
      rfl
  rw [Text.ofChars_append, Text.ofChars_append, List.append_assoc, List.append_assoc]
  unfold readMagnitude
  rw [wholePart?_of_digits h.wholeDigits h.nonempty h.leading hrest]
  dsimp only
  rw [hpoint]
  dsimp only
  rw [hpower]
  dsimp only
  split
  case h_1 => exact absurd h.isReal Bool.false_ne_true
  case h_2 => rfl

/-- The characters are the parts of a number that stands for the decimal. -/
def Spelling (cs : List Char) (d : Decimal) : Prop :=
  ∃ whole fraction power, RealParts whole fraction power ∧
    cs = whole ++ (pointChars fraction ++ powerChars power) ∧
    ∀ negative, Binary64.ofDecimal negative (partsDecimal whole fraction power) =
      Binary64.ofDecimal negative d

/-- The digits of a number that is not zero. -/
structure Numeral (ds : List Char) (n : Nat) : Prop where
  digits : ∀ c ∈ ds, c.isDigit = true
  value : digitsValue ds = n
  head : ds.head? ≠ some '0'
  nonempty : ds ≠ []

lemma numeral_toDigits {n : Nat} (hn : n ≠ 0) : Numeral (Nat.toDigits 10 n) n where
  digits _ hc := isDigit_of_mem hc
  value := digitsValue_toDigits n
  head hzero := by
    obtain ⟨ds, hds⟩ := List.head?_eq_some_iff.mp hzero
    exact hn (toDigits_head_zero hds)
  nonempty := Nat.toDigits_ne_nil

namespace Numeral

lemma isDigit_zeros (k : Nat) : ∀ c ∈ List.replicate k '0', c.isDigit = true := by
  intro c hc
  rw [List.eq_of_mem_replicate hc]
  rfl

variable {ds : List Char} {n : Nat} (h : Numeral ds n)

include h

/-- Zeros between the point and the first digit. -/
lemma spelling_small (k : Nat) :
    Spelling ('0' :: '.' :: (List.replicate k '0' ++ ds)) ⟨n, -((k + ds.length : Nat) : Int)⟩ := by
  refine ⟨['0'], some (List.replicate k '0' ++ ds), none, ?parts, by simp [pointChars, powerChars],
    fun negative => ?value⟩
  case parts =>
    refine ⟨List.forall_mem_singleton.mpr rfl, List.cons_ne_nil _ _, fun _ => rfl, ?_, rfl⟩
    rintro _ ⟨⟩
    exact ⟨List.append_ne_nil_of_right_ne_nil _ h.nonempty, fun c hc =>
      (List.mem_append.mp hc).elim (isDigit_zeros k c) (h.digits c)⟩
  case value =>
    have hzero : digitsValue ['0'] = 0 := rfl
    unfold partsDecimal
    rw [Option.getD_some, Option.getD_none, digitsValue_append, digitsValue_append,
      digitsValue_zeros, h.value, hzero, Nat.zero_mul, Nat.zero_mul, Nat.zero_add, Nat.zero_add,
      List.length_append, List.length_replicate, Int.zero_sub]

/-- The point between two digits. -/
lemma spelling_split {k : Nat} (hk : 0 < k) (hlong : k < ds.length) :
    Spelling (ds.take k ++ '.' :: ds.drop k) ⟨n, k - ds.length⟩ := by
  refine ⟨ds.take k, some (ds.drop k), none, ?parts, by simp [pointChars, powerChars],
    fun negative => ?value⟩
  case parts =>
    refine ⟨fun c hc => h.digits c (List.mem_of_mem_take hc), ?_, fun hzero => ?_, ?_, rfl⟩
    · rw [Ne, List.take_eq_nil_iff, not_or]
      exact ⟨hk.ne', h.nonempty⟩
    · rw [List.head?_take, if_neg hk.ne'] at hzero
      exact absurd hzero h.head
    · rintro _ ⟨⟩
      refine ⟨?_, fun c hc => h.digits c (List.mem_of_mem_drop hc)⟩
      rw [Ne, List.drop_eq_nil_iff]
      exact Nat.not_le.mpr hlong
  case value =>
    have hexponent : (0 : Int) - ((ds.length - k : Nat) : Int) = k - ds.length := by omega
    unfold partsDecimal
    rw [Option.getD_some, Option.getD_none, List.take_append_drop, h.value, List.length_drop,
      hexponent]

/-- Zeros between the last digit and the point, and one behind it. -/
lemma spelling_padded (k : Nat) : Spelling (ds ++ List.replicate k '0' ++ ['.', '0']) ⟨n, k⟩ := by
  refine ⟨ds ++ List.replicate k '0', some ['0'], none, ?parts, by simp [pointChars, powerChars],
    fun negative => ?value⟩
  case parts =>
    refine ⟨fun c hc => (List.mem_append.mp hc).elim (h.digits c) (isDigit_zeros k c),
      List.append_ne_nil_of_left_ne_nil h.nonempty _, fun hzero => ?_, ?_, rfl⟩
    · rw [List.head?_append_of_ne_nil _ h.nonempty] at hzero
      exact absurd hzero h.head
    · rintro _ ⟨⟩
      exact ⟨List.cons_ne_nil _ _, List.forall_mem_singleton.mpr rfl⟩
  case value =>
    have hzero : digitsValue ['0'] = 0 := rfl
    have hexponent : (0 : Int) - ((1 : Nat) : Int) = k - ((k + 1 : Nat) : Int) := by
      push_cast
      omega
    unfold partsDecimal
    rw [Option.getD_some, Option.getD_none, digitsValue_append, digitsValue_append,
      digitsValue_zeros, h.value, hzero, Nat.add_zero, Nat.add_zero, List.length_replicate,
      List.length_singleton, Nat.mul_assoc, ← Nat.pow_add, hexponent, ofDecimal_mul_pow]

omit h in
/-- A power of ten behind a single digit. -/
lemma spelling_one {d : Char} (h : Numeral [d] n) (first : Int) :
    Spelling (d :: Layout.exponentText first) ⟨n, first⟩ := by
  refine ⟨[d], none, some first, ⟨h.digits, by simp, fun hzero => absurd hzero h.head, nofun, rfl⟩,
    rfl, fun negative => ?_⟩
  unfold partsDecimal
  rw [Option.getD_none, Option.getD_some, List.append_nil, h.value, List.length_nil,
    Int.natCast_zero, Int.sub_zero]

omit h in
/-- A power of ten behind several digits, of which the first stands in front of the point. -/
lemma spelling_more {d : Char} {rest : List Char} (h : Numeral (d :: rest) n) (hrest : rest ≠ [])
    (first : Int) :
    Spelling (d :: '.' :: rest ++ Layout.exponentText first) ⟨n, first - rest.length⟩ := by
  refine ⟨[d], some rest, some first, ?parts, by simp [pointChars, powerChars],
    fun negative => ?value⟩
  case parts =>
    refine ⟨fun c hc => h.digits c (List.mem_cons.mpr (Or.inl (List.mem_singleton.mp hc))), by simp,
      fun hzero => absurd hzero h.head, ?_, rfl⟩
    rintro _ ⟨⟩
    exact ⟨hrest, fun c hc => h.digits c (List.mem_cons_of_mem d hc)⟩
  case value =>
    unfold partsDecimal
    rw [Option.getD_some, Option.getD_some, List.singleton_append, h.value]

/-- Wherever the point is placed, the number is the same. -/
lemma spelling_place (first : Int) :
    Spelling (Layout.document.place ds first) ⟨n, first + 1 - ds.length⟩ := by
  unfold Layout.place
  split
  case isFalse =>
    match ds, h with
    | [], h => exact absurd rfl h.nonempty
    | [d], h =>
      have hexponent : first + 1 - ([d].length : Int) = first := by simp
      rw [hexponent]
      exact spelling_one h first
    | d :: d' :: rest, h =>
      have hexponent : first + 1 - ((d :: d' :: rest).length : Int) =
          first - ((d' :: rest).length : Int) := by
        rw [List.length_cons (a := d)]
        push_cast
        omega
      rw [hexponent]
      exact spelling_more h (List.cons_ne_nil _ _) first
  case isTrue =>
    split
    case isTrue hneg =>
      have hexponent : -(((-first - 1).toNat + ds.length : Nat) : Int) = first + 1 - ds.length := by
        push_cast
        omega
      rw [← hexponent]
      exact h.spelling_small _
    case isFalse hnonneg =>
      dsimp only
      generalize hwhole : first.toNat + 1 = whole
      rcases Nat.lt_or_ge whole ds.length with hlong | hshort
      · have hnone : whole - ds.length = 0 := by omega
        have hrest : ds.drop whole ≠ [] := by
          rw [Ne, List.drop_eq_nil_iff]
          omega
        have hexponent : first + 1 - ds.length = whole - ds.length := by omega
        rw [hnone, List.replicate_zero, List.append_nil, List.isEmpty_eq_false_iff.mpr hrest,
          if_neg Bool.false_ne_true, hexponent]
        exact h.spelling_split (by omega) hlong
      · have hlength : (ds ++ List.replicate (whole - ds.length) '0').length = whole := by
          rw [List.length_append, List.length_replicate]
          omega
        have hexponent : first + 1 - ds.length = ((whole - ds.length : Nat) : Int) := by omega
        rw [List.take_of_length_le hlength.le, List.drop_of_length_le hlength.le, hexponent]
        exact h.spelling_padded _

end Numeral

/-- A decimal is spelled by the digits of a document. -/
lemma spelling_decimal (d : Decimal) : Spelling (Layout.document.decimal d) d := by
  unfold Layout.decimal
  dsimp only
  split
  case isTrue hzero =>
    have hdigit : ∀ c ∈ ['0'], c.isDigit = true := List.forall_mem_singleton.mpr rfl
    refine ⟨['0'], some ['0'], none, ⟨hdigit, List.cons_ne_nil _ _, fun _ => rfl, ?_, rfl⟩, rfl,
      fun negative => ?_⟩
    · rintro _ ⟨⟩
      exact ⟨List.cons_ne_nil _ _, hdigit⟩
    · unfold Binary64.ofDecimal
      rw [if_pos hzero]
      rfl
  case isFalse hne =>
    have hspelling := (numeral_toDigits hne).spelling_place
      (d.exponent + (Nat.toDigits 10 d.digits).length - 1)
    have hexponent : d.exponent + (Nat.toDigits 10 d.digits).length - 1 + 1 -
        (Nat.toDigits 10 d.digits).length = d.exponent := by omega
    rw [hexponent] at hspelling
    exact hspelling

/-- A decimal is read back from its text, behind either sign. -/
lemma readMagnitude_decimal (negative : Bool) (d : Decimal) {after : Text}
    (hafter : endsNumber after = true) :
    readMagnitude negative (Text.ofChars (Layout.document.decimal d) ++ after) =
      .ok (.real (Binary64.ofDecimal negative d), after) := by
  obtain ⟨whole, fraction, power, hparts, hchars, hvalue⟩ := spelling_decimal d
  rw [hchars, hparts.read negative hafter, hvalue]

/-- The text of a decimal begins with a digit. -/
lemma decimal_head (d : Decimal) :
    ∃ c cs, c.isDigit = true ∧ Layout.document.decimal d = c :: cs := by
  obtain ⟨whole, fraction, power, hparts, hchars, -⟩ := spelling_decimal d
  obtain ⟨c, cs, rfl⟩ := List.exists_cons_of_ne_nil hparts.nonempty
  exact ⟨c, _, hparts.wholeDigits c List.mem_cons_self, hchars⟩

/-- The text of a number begins with a character that opens nothing else and is no white space. -/
lemma chars_head (x : Binary64) :
    ∃ c cs, Layout.document.chars x = c :: cs ∧ isGap c = false ∧ c ∉ ['"', '[', ']', '\x7b'] := by
  cases x with
  | nan => exact ⟨'N', _, rfl, rfl, by decide⟩
  | infinite negative =>
    cases negative with
    | true => exact ⟨'-', _, rfl, rfl, by decide⟩
    | false => exact ⟨'I', _, rfl, rfl, by decide⟩
  | finite negative m e h =>
    obtain ⟨c, cs, hc, hchars⟩ := decimal_head (Binary64.shortest m e)
    cases negative with
    | true => exact ⟨'-', _, rfl, rfl, by decide⟩
    | false =>
      refine ⟨c, cs, hchars, ?_, fun hmem => ?_⟩
      · have hspace := ne_of_isDigit (c := ' ') (by decide) hc
        have htab := ne_of_isDigit (c := '\t') (by decide) hc
        have hline := ne_of_isDigit (c := '\n') (by decide) hc
        have hreturn := ne_of_isDigit (c := '\r') (by decide) hc
        simp [isGap, hspace.symm, htab.symm, hline.symm, hreturn.symm]
      · simp only [List.mem_cons, List.not_mem_nil, or_false] at hmem
        rcases hmem with rfl | rfl | rfl | rfl <;> contradiction

lemma ascii_of_isDigit {c : Char} (h : c.isDigit = true) : c.toNat < 0x80 := by
  have hnine : '9'.toNat = 57 := rfl
  rw [Char.isDigit_iff_toNat] at h
  omega

lemma ascii_of_all {cs : List Char} (h : (cs.all fun c => decide (c.toNat < 0x80)) = true) :
    ∀ c ∈ cs, c.toNat < 0x80 := fun c hc =>
  of_decide_eq_true (List.all_eq_true.mp h c hc)

/-- All characters of a number are ASCII. -/
lemma chars_ascii (x : Binary64) : ∀ c ∈ Layout.document.chars x, c.toNat < 0x80 := by
  have happend : ∀ {front back : List Char}, (∀ c ∈ front, c.toNat < 0x80) →
      (∀ c ∈ back, c.toNat < 0x80) → ∀ c ∈ front ++ back, c.toNat < 0x80 :=
    fun hfront hback c hc => (List.mem_append.mp hc).elim (hfront c) (hback c)
  have hdot : ∀ c ∈ ['.'], c.toNat < 0x80 := ascii_of_all rfl
  cases x with
  | nan => exact ascii_of_all rfl
  | infinite negative => cases negative <;> exact ascii_of_all rfl
  | finite negative m e h =>
    obtain ⟨whole, fraction, power, hparts, hchars, -⟩ := spelling_decimal (Binary64.shortest m e)
    have hpoint : ∀ c ∈ pointChars fraction, c.toNat < 0x80 := by
      cases fraction with
      | none => nofun
      | some ds => exact happend hdot fun c hc =>
          ascii_of_isDigit ((hparts.fractionDigits ds rfl).2 c hc)
    have hpower : ∀ c ∈ powerChars power, c.toNat < 0x80 := by
      cases power with
      | none => nofun
      | some e =>
        obtain ⟨ds, -, hds, -, htext⟩ := exponentText_eq e
        have hsign : ∀ c ∈ ['e', if e < 0 then '-' else '+'], c.toNat < 0x80 := by
          split <;> exact ascii_of_all rfl
        rw [powerChars, htext]
        exact happend hsign fun c hc => ascii_of_isDigit (hds c hc)
    have hsign : ∀ c ∈ (if negative then ['-'] else []), c.toNat < 0x80 := by
      cases negative <;> exact ascii_of_all rfl
    rw [Layout.chars, hchars]
    exact happend hsign (happend (fun c hc => ascii_of_isDigit (hparts.wholeDigits c hc))
      (happend hpoint hpower))

/-- A floating point number is read back from its text. -/
theorem readWord_real (x : Binary64) {after : Text} (hafter : endsNumber after = true) :
    readWord (Text.ofChars (Layout.document.chars x) ++ after) = .ok (.real x, after) := by
  cases x with
  | nan => rfl
  | infinite negative => cases negative <;> rfl
  | finite negative m e h =>
    have hread := readMagnitude_decimal negative (Binary64.shortest m e) hafter
    obtain ⟨c, cs, hc, hchars⟩ := decimal_head (Binary64.shortest m e)
    rw [ofDecimal_shortest negative h] at hread
    rw [hchars] at hread
    rw [Layout.chars, hchars]
    cases negative with
    | true =>
      change readWord (.char '-' :: .char c :: (Text.ofChars cs ++ after)) = _
      unfold readWord
      rw [find?_words_minus hc]
      exact hread
    | false =>
      change readWord (.char c :: (Text.ofChars cs ++ after)) = _
      unfold readWord
      rw [find?_words_digit hc]
      dsimp only
      unfold readNumber
      split
      case h_1 heq =>
        exact absurd (CodePoint.char.inj (List.cons.inj heq).1).symm (ne_of_isDigit (by decide) hc)
      case h_2 => exact hread

end Condense.Proofs
