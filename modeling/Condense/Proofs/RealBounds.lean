import Condense.Proofs.RealRounding

/-!
# Bounds of rounded ratios

Rounding does not carry a ratio past an integer that the format has. So a floating point difference
of a count and a number lies on the same side of every count as the exact difference.
-/

namespace Condense.Proofs
open Binary64

attribute [local instance (high)] instPowNat

/-- The power is left alone, or it would be computed. -/
lemma unitsInOne_eq {power : Nat} (h : power = 1074) : unitsInOne = 2 ^ power := by
  subst h
  rfl

lemma unitsInOne_pos : 0 < unitsInOne := by
  obtain ⟨power, hpower⟩ : ∃ power, power = 1074 := ⟨_, rfl⟩
  rw [unitsInOne_eq hpower]
  exact Nat.pow_pos Nat.two_pos

/-- A ratio that is at most an integer of the format is rounded to a number that is. -/
theorem ofRatio_units_le {num den bound : Nat} (hden : 0 < den) (hbound : bound ≤ 2 ^ 53)
    (h : num ≤ bound * den) (negative : Bool) :
    ∃ magnitude : Nat, (ofRatio negative num den).units? =
      some (if negative then -(magnitude : Int) else magnitude) ∧
      magnitude ≤ bound * unitsInOne := by
  have hformat : InFormat bound 0 := ⟨hbound, by decide, by decide, fun _ => by decide⟩
  have hd : (0 : ℚ) < den := by exact_mod_cast hden
  have hle : (num / den : ℚ) ≤ bound * 2 ^ (0 : Int) := by
    rw [zpow_zero, mul_one, div_le_iff₀ hd]
    exact_mod_cast h
  have hpower : ((0 : Int) + 1074).toNat = 1074 := by decide
  rw [unitsInOne_eq hpower]
  exact ⟨rounded num den, ofRatio_units hden hformat hle negative, rounded_le hden hformat hle⟩

section Differences

-- A proof that looks into it computes a power.
attribute [local irreducible] unitsInOne

variable {count index : Nat} {x : Binary64}

lemma whole_lt_real {units : Int} (h : x.units? = some units) :
    (Quantity.whole index).lt (.real x) = decide ((index : Int) * unitsInOne < units) := by
  cases x with
  | nan => contradiction
  | infinite negative => contradiction
  | finite negative significand exponent canonical =>
    simp only [Quantity.lt, Quantity.integer?, Quantity.place?, h, Option.map_some, Quantity.Place.lt]

lemma whole_lt_of_le {least most : Nat} (hle : least ≤ most)
    (h : (Quantity.whole most).lt (.real x) = true) : (Quantity.whole least).lt (.real x) = true := by
  rcases hx : x.units? with _ | units
  · cases x with
    | nan => contradiction
    | finite => contradiction
    | infinite negative =>
      cases negative with
      | true => contradiction
      | false => rfl
  · have hcounts : (least : Int) * unitsInOne ≤ most * unitsInOne :=
      Int.mul_le_mul_of_nonneg_right (by omega) (by omega)
    rw [whole_lt_real hx, decide_eq_true_eq] at h ⊢
    omega

lemma units?_zero (negative : Bool) : (zero negative).units? = some 0 := by
  cases negative <;> rfl

lemma units?_pack_true (significand : Nat) (exponent : Int) :
    pack true significand exponent = .infinite true ∨
      ∃ magnitude : Nat, (pack true significand exponent).units? = some (-(magnitude : Int)) := by
  unfold pack
  split
  · exact Or.inr ⟨_, rfl⟩
  · split
    · exact Or.inr ⟨_, rfl⟩
    · exact Or.inl rfl

/-- What is rounded from below zero lies in front of every count. -/
lemma not_lt_ofRatio_true (index num den : Nat) :
    (Quantity.whole index).lt (.real (ofRatio true num den)) = false := by
  have hbehind : ∀ {y : Binary64} {units : Int}, y.units? = some units → units ≤ 0 →
      (Quantity.whole index).lt (.real y) = false := by
    intro y units hunits hle
    have hcount : 0 ≤ (index : Int) * unitsInOne := Int.mul_nonneg (by omega) (by omega)
    rw [whole_lt_real hunits, decide_eq_false_iff_not]
    omega
  unfold ofRatio
  split
  case isTrue => exact hbehind (units?_zero true) le_rfl
  case isFalse =>
    dsimp only
    generalize scaled num den (exponentOf num den) = s
    rcases units?_pack_true (roundDiv s.1 s.2) (exponentOf num den) with hinfinite | ⟨magnitude, hunits⟩
    · rw [hinfinite]
      rfl
    · exact hbehind hunits (by omega)

lemma ofInt_eq_ok {units : Int} (h : (ofRatio false count 1).units? = some units) :
    ofInt count = .ok (ofRatio false count 1) := by
  have hsign : decide ((count : Int) < 0) = false := decide_eq_false (by omega)
  rw [ofInt, hsign, Int.natAbs_natCast]
  split
  case h_1 hinfinite =>
    rw [hinfinite] at h
    contradiction
  case h_2 => rfl

lemma toReal_count (hcount : count ≤ 2 ^ 53) :
    ∃ y : Binary64, (Quantity.whole count).toReal = .ok y ∧
      ∃ magnitude : Nat, y.units? = some (magnitude : Int) ∧ magnitude ≤ count * unitsInOne := by
  obtain ⟨magnitude, hunits, hle⟩ :=
    ofRatio_units_le Nat.one_pos hcount (Nat.mul_one count).ge false
  exact ⟨_, ofInt_eq_ok hunits, magnitude, hunits, hle⟩

lemma sub_finite {y : Binary64} {m n : Int} (hy : y.units? = some m) (hx : x.units? = some n) :
    y - x = if m - n = 0 then zero (y.isZero && y.isNegative && !x.isNegative)
      else ofRatio (m - n < 0) (m - n).natAbs unitsInOne := by
  cases y with
  | nan | infinite => contradiction
  | finite =>
    cases x with
    | nan | infinite => contradiction
    | finite =>
      change Binary64.sub _ _ = _
      simp only [Binary64.sub, hy, hx, Option.getD_some]

lemma units_le_of_lt_sub (hcount : count ≤ 2 ^ 53) (hindex : index ≤ count) {y : Binary64}
    {magnitude : Nat} {units : Int} (hy : y.units? = some (magnitude : Int))
    (hmagnitude : magnitude ≤ count * unitsInOne) (hx : x.units? = some units)
    (hlt : (Quantity.whole index).lt (.real (y - x)) = true) :
    units ≤ (count - index : Nat) * unitsInOne := by
  by_contra hmore
  -- The exact difference is below the lesser count, and so it is still when it is rounded.
  have hbelow : magnitude - units < index * unitsInOne := by
    have hsplit : (count : Int) * unitsInOne =
        index * unitsInOne + (count - index : Nat) * unitsInOne := by
      rw [← Int.add_mul]
      congr 1
      omega
    have hunits : (magnitude : Int) ≤ count * unitsInOne := by exact_mod_cast hmagnitude
    omega
  rw [sub_finite hy hx] at hlt
  split at hlt
  case isTrue hzero =>
    rw [whole_lt_real (units?_zero _), decide_eq_true_eq] at hlt
    omega
  case isFalse =>
    by_cases hnegative : magnitude - units < 0
    · rw [decide_eq_true hnegative, not_lt_ofRatio_true] at hlt
      contradiction
    · obtain ⟨difference, hdifference⟩ := Int.eq_ofNat_of_zero_le (not_lt.mp hnegative)
      rw [hdifference] at hbelow hnegative hlt
      have hratio : difference ≤ index * unitsInOne := by exact_mod_cast hbelow.le
      obtain ⟨rounded, hrounded, hle⟩ :=
        ofRatio_units_le unitsInOne_pos (hindex.trans hcount) hratio false
      rw [if_neg Bool.false_ne_true] at hrounded
      rw [decide_eq_false hnegative, Int.natAbs_natCast, whole_lt_real hrounded,
        decide_eq_true_eq] at hlt
      have hless : index * unitsInOne < rounded := by exact_mod_cast hlt
      omega

lemma sub_real_eq_ok {wanted : Quantity}
    (h : (Quantity.whole count).sub (.real x) = .ok wanted) :
    ∃ y, (Quantity.whole count).toReal = .ok y ∧ wanted = .real (y - x) := by
  have hdifference : (Quantity.whole count).sub (.real x) =
      (Quantity.whole count).toReal >>= fun y => .ok (.real (y - x)) := rfl
  rw [hdifference] at h
  cases hreal : (Quantity.whole count).toReal with
  | error why =>
    rw [hreal] at h
    contradiction
  | ok y =>
    rw [hreal] at h
    exact ⟨y, rfl, (Except.ok.inj h).symm⟩

/-- If a count lies below the difference of a greater one and a number, the number is no more than
what the counts differ by. -/
theorem not_lt_of_lt_sub (hcount : count ≤ 2 ^ 53) (hindex : index ≤ count) {wanted : Quantity}
    (hsub : (Quantity.whole count).sub (.real x) = .ok wanted)
    (hlt : (Quantity.whole index).lt wanted = true) :
    (Quantity.whole (count - index : Nat)).lt (.real x) = false := by
  obtain ⟨y, hreal, magnitude, hy, hmagnitude⟩ := toReal_count hcount
  obtain ⟨z, hsame, rfl⟩ := sub_real_eq_ok hsub
  obtain rfl : y = z := Except.ok.inj (hreal.symm.trans hsame)
  rcases hx : x.units? with _ | units
  · cases x with
    | nan => rfl
    | finite => contradiction
    | infinite negative =>
      cases negative with
      | true => rfl
      | false =>
        have hinfinite : y - .infinite false = .infinite true := by
          cases y with
          | nan | infinite => contradiction
          | finite => rfl
        rw [hinfinite] at hlt
        contradiction
  · rw [whole_lt_real hx, decide_eq_false_iff_not, not_lt]
    exact units_le_of_lt_sub hcount hindex hy hmagnitude hx hlt

end Differences

end Condense.Proofs
