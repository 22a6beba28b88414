import Condense.Number.Quantity
import Condense.Proofs.RealDigits

/-!
# Rounding in order

Rounding carries no ratio past a number of the format. A share of a number is therefore no more than
the number, and less than it from one on, where the numbers of the format lie close enough.
-/

namespace Condense.Proofs
open Binary64

attribute [local instance (high)] instPowNat

section Quotients

variable {n d bound : Nat}

/-- A quotient is rounded to less than an integer if it lies more than a half below it, or just a
half and the integer is odd. -/
lemma roundDiv_lt_iff (hd : 0 < d) :
    roundDiv n d < bound ↔
      2 * n + d < 2 * (bound * d) ∨ 2 * n + d = 2 * (bound * d) ∧ bound % 2 = 1 := by
  have hsplit := Nat.div_add_mod' n d
  have hrest := Nat.mod_lt n hd
  unfold roundDiv
  dsimp only
  rcases Nat.lt_trichotomy bound (n / d + 1) with hless | rfl | hmore
  · have hproduct : bound * d ≤ n / d * d := Nat.mul_le_mul_right d (Nat.le_of_lt_succ hless)
    split <;> (try split) <;> omega
  · have hproduct : (n / d + 1) * d = n / d * d + d := Nat.succ_mul _ d
    split <;> (try split) <;> omega
  · have hproduct : (n / d + 1 + 1) * d ≤ bound * d := Nat.mul_le_mul_right d hmore
    rw [Nat.succ_mul, Nat.succ_mul] at hproduct
    split <;> (try split) <;> omega

lemma roundDiv_le (hd : 0 < d) (h : n ≤ bound * d) : roundDiv n d ≤ bound := by
  have hproduct : (bound + 1) * d = bound * d + d := Nat.succ_mul bound d
  rw [← Nat.lt_add_one_iff, roundDiv_lt_iff hd]
  omega

lemma le_roundDiv (hd : 0 < d) (h : bound * d ≤ n) : bound ≤ roundDiv n d := by
  apply Nat.le_of_not_lt
  rw [roundDiv_lt_iff hd]
  omega

end Quotients

section Ratios

variable {num den significand : Nat} {exponent : Int}

/-- The significand of a ratio in units of a power of two. -/
def significandAt (num den : Nat) (exponent : Int) : Nat :=
  roundDiv (scaled num den exponent).1 (scaled num den exponent).2

/-- What a ratio is rounded to, in units of the least positive number, whether or not the format
reaches so far. -/
def rounded (num den : Nat) : Nat :=
  significandAt num den (exponentOf num den) * 2 ^ (exponentOf num den + 1074).toNat

lemma scaled_le_iff (hden : 0 < den) (bound : Nat) :
    (scaled num den exponent).1 ≤ bound * (scaled num den exponent).2 ↔
      (num / den : ℚ) ≤ bound * 2 ^ exponent := by
  have hd : (0 : ℚ) < (scaled num den exponent).2 := by
    exact_mod_cast scaled_pos num hden exponent
  rw [← div_le_iff₀ (by positivity), ← scaled_ratio num hden, div_le_iff₀ hd]
  exact_mod_cast Iff.rfl

lemma le_scaled_iff (hden : 0 < den) (bound : Nat) :
    bound * (scaled num den exponent).2 ≤ (scaled num den exponent).1 ↔
      bound * (2 : ℚ) ^ exponent ≤ num / den := by
  have hd : (0 : ℚ) < (scaled num den exponent).2 := by
    exact_mod_cast scaled_pos num hden exponent
  rw [← le_div_iff₀ (by positivity), ← scaled_ratio num hden, le_div_iff₀ hd]
  exact_mod_cast Iff.rfl

lemma significandAt_le (hden : 0 < den) {bound : Nat} (h : (num / den : ℚ) ≤ bound * 2 ^ exponent) :
    significandAt num den exponent ≤ bound :=
  roundDiv_le (scaled_pos num hden exponent) ((scaled_le_iff hden bound).mpr h)

lemma le_significandAt (hden : 0 < den) {bound : Nat}
    (h : bound * (2 : ℚ) ^ exponent ≤ num / den) : bound ≤ significandAt num den exponent :=
  le_roundDiv (scaled_pos num hden exponent) ((le_scaled_iff hden bound).mpr h)

lemma least_le_exponentOf (hnum : 0 < num) (hden : 0 < den) : -1074 ≤ exponentOf num den := by
  obtain ⟨found, -, hexponent⟩ := exponentOf_fills hnum hden
  omega

lemma significandAt_exponentOf_le (hnum : 0 < num) (hden : 0 < den) :
    significandAt num den (exponentOf num den) ≤ 2 ^ 53 := by
  obtain ⟨found, hfills, hexponent⟩ := exponentOf_fills hnum hden
  apply significandAt_le hden
  have hstep : (2 : ℚ) ^ found ≤ 2 ^ exponentOf num den :=
    zpow_le_zpow_right₀ (by norm_num) (hexponent ▸ le_max_left _ _)
  have hbelow := (div_lt_iff₀ (by positivity)).mp hfills.2
  push_cast
  nlinarith

lemma le_significandAt_exponentOf (hnum : 0 < num) (hden : 0 < den)
    (h : exponentOf num den ≠ -1074) : 2 ^ 52 ≤ significandAt num den (exponentOf num den) := by
  obtain ⟨found, hfills, hexponent⟩ := exponentOf_fills hnum hden
  have hfound : exponentOf num den = found := by omega
  apply le_significandAt hden
  rw [hfound]
  exact_mod_cast (le_div_iff₀ (by positivity)).mp hfills.1

/-- A magnitude of the format, or one that is carried to the next power. -/
structure InFormat (significand : Nat) (exponent : Int) : Prop where
  most : significand ≤ 2 ^ 53
  least : -1074 ≤ exponent
  greatest : exponent ≤ 971
  carried : significand = 2 ^ 53 → exponent ≤ 970

lemma inFormat_of_canonical (h : Canonical significand exponent) : InFormat significand exponent :=
  ⟨h.1.le, h.2.1, h.2.2.1, fun heq => absurd heq h.1.ne⟩

lemma exponentOf_le (hnum : 0 < num) (hden : 0 < den) (h : InFormat significand exponent)
    (hle : (num / den : ℚ) ≤ significand * 2 ^ exponent) :
    exponentOf num den ≤ exponent ∨ exponentOf num den = exponent + 1 ∧ significand = 2 ^ 53 := by
  obtain ⟨found, hfills, hexponent⟩ := exponentOf_fills hnum hden
  have hleast := h.least
  have hmost : (significand : ℚ) ≤ 2 ^ 53 := by exact_mod_cast h.most
  have hlow := (le_div_iff₀ (by positivity)).mp hfills.1
  have hpow : (2 : ℚ) ^ (found + 52) ≤ 2 ^ (exponent + 53) := by
    rw [zpow_add₀ (by norm_num), zpow_add₀ (by norm_num), mul_comm, mul_comm (2 ^ exponent)]
    exact (hlow.trans hle).trans (mul_le_mul_of_nonneg_right hmost (by positivity))
  have hexp := (zpow_le_zpow_iff_right₀ (by norm_num : (1 : ℚ) < 2)).mp hpow
  rcases Int.lt_or_le exponent found with hnext | hwithin
  · obtain rfl : found = exponent + 1 := by omega
    have hfull : (2 : ℚ) ^ 53 ≤ significand := by
      have hpos : (0 : ℚ) < 2 ^ exponent := by positivity
      have hdouble := hlow.trans hle
      rw [zpow_add_one₀ (by norm_num)] at hdouble
      nlinarith
    exact Or.inr ⟨by omega, le_antisymm h.most (by exact_mod_cast hfull)⟩
  · exact Or.inl (by omega)

lemma significandAt_zero (den : Nat) (exponent : Int) : significandAt 0 den exponent = 0 := by
  unfold significandAt scaled roundDiv
  split <;> simp

lemma rounded_zero (den : Nat) : rounded 0 den = 0 := by
  unfold rounded
  rw [significandAt_zero, Nat.zero_mul]

/-- A ratio is not carried past a number of the format. -/
theorem rounded_le (hden : 0 < den) (h : InFormat significand exponent)
    (hle : (num / den : ℚ) ≤ significand * 2 ^ exponent) :
    rounded num den ≤ significand * 2 ^ (exponent + 1074).toNat := by
  rcases Nat.eq_zero_or_pos num with rfl | hnum
  · rw [rounded_zero]
    exact Nat.zero_le _
  · have hleast := least_le_exponentOf hnum hden
    unfold rounded
    rcases exponentOf_le hnum hden h hle with hwithin | ⟨hnext, rfl⟩
    · generalize exponentOf num den = e at hleast hwithin ⊢
      obtain ⟨k, rfl⟩ : ∃ k : Nat, exponent = e + k := ⟨(exponent - e).toNat, by omega⟩
      have hsignificand : significandAt num den e ≤ significand * 2 ^ k := by
        apply significandAt_le hden
        rw [zpow_add₀ (by norm_num), zpow_natCast] at hle
        push_cast
        linarith
      have hpower : (e + k + 1074).toNat = k + (e + 1074).toNat := by omega
      rw [hpower, Nat.pow_add, ← Nat.mul_assoc]
      exact Nat.mul_le_mul_right _ hsignificand
    · rw [hnext]
      have hsignificand : significandAt num den (exponent + 1) ≤ 2 ^ 52 := by
        apply significandAt_le hden
        rw [zpow_add_one₀ (by norm_num)]
        push_cast at hle ⊢
        linarith
      have hpower : (exponent + 1 + 1074).toNat = (exponent + 1074).toNat + 1 := by
        have := h.least
        omega
      rw [hpower, Nat.pow_succ]
      have := Nat.mul_le_mul_right (2 ^ (exponent + 1074).toNat * 2) hsignificand
      omega

/-- Nor is it rounded to less than a number of the format that it reaches. -/
theorem le_rounded (hden : 0 < den) (hmost : significand ≤ 2 ^ 53) (hleast : -1074 ≤ exponent)
    (hle : significand * (2 : ℚ) ^ exponent ≤ num / den) :
    significand * 2 ^ (exponent + 1074).toNat ≤ rounded num den := by
  rcases Nat.eq_zero_or_pos significand with rfl | hpos
  · rw [Nat.zero_mul]
    exact Nat.zero_le _
  · have hnum : 0 < num := by
      rw [Nat.pos_iff_ne_zero]
      rintro rfl
      have hpositive : (0 : ℚ) < significand * 2 ^ exponent := by positivity
      rw [Nat.cast_zero, zero_div] at hle
      linarith
    have hfirst := least_le_exponentOf hnum hden
    unfold rounded
    rcases Int.lt_or_le exponent (exponentOf num den) with hbeyond | hwithin
    · have hfull := le_significandAt_exponentOf hnum hden (by omega)
      have hpower : 2 ^ ((exponent + 1074).toNat + 1) ≤ 2 ^ (exponentOf num den + 1074).toNat :=
        Nat.pow_le_pow_right Nat.two_pos (by omega)
      calc significand * 2 ^ (exponent + 1074).toNat
          ≤ 2 ^ 53 * 2 ^ (exponent + 1074).toNat := Nat.mul_le_mul_right _ hmost
        _ = 2 ^ 52 * 2 ^ ((exponent + 1074).toNat + 1) := by rw [Nat.pow_succ]; omega
        _ ≤ 2 ^ 52 * 2 ^ (exponentOf num den + 1074).toNat := Nat.mul_le_mul_left _ hpower
        _ ≤ _ := Nat.mul_le_mul_right _ hfull
    · generalize exponentOf num den = e at hfirst hwithin ⊢
      obtain ⟨k, rfl⟩ : ∃ k : Nat, exponent = e + k := ⟨(exponent - e).toNat, by omega⟩
      have hsignificand : significand * 2 ^ k ≤ significandAt num den e := by
        apply le_significandAt hden
        rw [zpow_add₀ (by norm_num), zpow_natCast] at hle
        push_cast
        linarith
      have hpower : (e + k + 1074).toNat = k + (e + 1074).toNat := by omega
      rw [hpower, Nat.pow_add, ← Nat.mul_assoc]
      exact Nat.mul_le_mul_right _ hsignificand

lemma pack_units (negative : Bool) (h : InFormat significand exponent)
    (hfull : 2 ^ 52 ≤ significand ∨ exponent = -1074) :
    (pack negative significand exponent).units? =
      some (if negative then -(significand * 2 ^ (exponent + 1074).toNat : Nat)
        else (significand * 2 ^ (exponent + 1074).toNat : Nat) : Int) := by
  have hleast := h.least
  unfold pack
  rcases Nat.lt_or_eq_of_le h.most with hlt | rfl
  · rw [dif_pos ⟨hlt, h.least, h.greatest, hfull⟩]
    rfl
  · have hcarried := h.carried rfl
    have hbeyond : ¬Canonical (2 ^ 53) exponent := fun h => absurd h.1 (Nat.lt_irrefl _)
    have hhalf : Canonical (2 ^ 53 / 2) (exponent + 1) :=
      ⟨by decide, by omega, by omega, Or.inl (by decide)⟩
    have hunits : 2 ^ 53 / 2 * 2 ^ (exponent + 1 + 1074).toNat =
        2 ^ 53 * 2 ^ (exponent + 1074).toNat := by
      have hnext : (exponent + 1 + 1074).toNat = (exponent + 1074).toNat + 1 := by omega
      rw [hnext, Nat.pow_succ]
      omega
    rw [dif_neg hbeyond, dif_pos hhalf]
    unfold units?
    dsimp only
    rw [hunits]

lemma inFormat_rounded (hnum : 0 < num) (hden : 0 < den) (h : InFormat significand exponent)
    (hle : (num / den : ℚ) ≤ significand * 2 ^ exponent) :
    InFormat (significandAt num den (exponentOf num den)) (exponentOf num den) := by
  have hgreatest := h.greatest
  refine ⟨significandAt_exponentOf_le hnum hden, least_le_exponentOf hnum hden, ?_,
    fun hfull => ?_⟩
  · rcases exponentOf_le hnum hden h hle with hwithin | ⟨hnext, hcarry⟩
    · omega
    · have := h.carried hcarry
      omega
  · by_contra hlast
    have hmost : significandAt num den (exponentOf num den) ≤ significand ∧ significand < 2 ^ 53 ∨
        significandAt num den (exponentOf num den) ≤ 2 ^ 52 := by
      rcases exponentOf_le hnum hden h hle with hwithin | ⟨hnext, rfl⟩
      · have hsame : exponentOf num den = exponent := by omega
        left
        constructor
        · rw [hsame]
          exact significandAt_le hden hle
        · refine Nat.lt_of_le_of_ne h.most fun hcarry => ?_
          have := h.carried hcarry
          omega
      · right
        rw [hnext]
        apply significandAt_le hden
        rw [zpow_add_one₀ (by norm_num)]
        push_cast at hle ⊢
        linarith
    omega

lemma ofRatio_eq_pack (negative : Bool) (hnum : 0 < num) (den : Nat) :
    ofRatio negative num den =
      pack negative (significandAt num den (exponentOf num den)) (exponentOf num den) :=
  if_neg hnum.ne'

lemma pack_ofRatio_units (hnum : 0 < num) (hden : 0 < den) (negative : Bool)
    (h : InFormat (significandAt num den (exponentOf num den)) (exponentOf num den)) :
    (ofRatio negative num den).units? =
      some (if negative then -(rounded num den : Int) else rounded num den) := by
  rw [ofRatio_eq_pack negative hnum, pack_units negative h]
  · rfl
  · by_cases hleast : exponentOf num den = -1074
    · exact Or.inr hleast
    · exact Or.inl (le_significandAt_exponentOf hnum hden hleast)

/-- A ratio is rounded to a number of the format, unless it lies beyond its range. -/
theorem ofRatio_cases (hden : 0 < den) (negative : Bool) :
    ofRatio negative num den = .infinite negative ∨
      (ofRatio negative num den).units? =
        some (if negative then -(rounded num den : Int) else rounded num den) := by
  rcases Nat.eq_zero_or_pos num with rfl | hnum
  · rw [rounded_zero]
    cases negative <;> exact Or.inr rfl
  · by_cases h : InFormat (significandAt num den (exponentOf num den)) (exponentOf num den)
    · exact Or.inr (pack_ofRatio_units hnum hden negative h)
    · left
      have hleast := least_le_exponentOf hnum hden
      have hmost := significandAt_exponentOf_le hnum hden
      rw [ofRatio_eq_pack negative hnum]
      generalize significandAt num den (exponentOf num den) = significand at h hmost ⊢
      generalize exponentOf num den = exponent at h hleast ⊢
      unfold pack
      rw [dif_neg fun hcanonical => h (inFormat_of_canonical hcanonical), dif_neg fun hhalf => h ?_]
      refine ⟨hmost, hleast, ?_, fun _ => ?_⟩
      · have := hhalf.2.2.1
        omega
      · have := hhalf.2.2.1
        omega

/-- A ratio that is at most a number of the format is not beyond its range. -/
theorem ofRatio_units (hden : 0 < den) (h : InFormat significand exponent)
    (hle : (num / den : ℚ) ≤ significand * 2 ^ exponent) (negative : Bool) :
    (ofRatio negative num den).units? =
      some (if negative then -(rounded num den : Int) else rounded num den) := by
  rcases Nat.eq_zero_or_pos num with rfl | hnum
  · rw [rounded_zero]
    cases negative <;> rfl
  · exact pack_ofRatio_units hnum hden negative (inFormat_rounded hnum hden h hle)

end Ratios

section Products

variable {m n : Nat} {e f : Int}

lemma significandAt_lt {num den bound : Nat} {exponent : Int} (hden : 0 < den)
    (h : 2 * (num / den : ℚ) < (2 * bound - 1) * 2 ^ exponent) :
    significandAt num den exponent < bound := by
  have hd : (0 : ℚ) < (scaled num den exponent).2 := by
    exact_mod_cast scaled_pos num hden exponent
  have hratio := scaled_ratio num hden exponent
  have hpos : (0 : ℚ) < 2 ^ exponent := by positivity
  unfold significandAt
  rw [roundDiv_lt_iff (scaled_pos num hden exponent)]
  left
  have hq : 2 * ((scaled num den exponent).1 / (scaled num den exponent).2 : ℚ) <
      2 * bound - 1 := by
    rw [hratio, ← mul_div_assoc, div_lt_iff₀ hpos]
    exact h
  rw [← mul_div_assoc, div_lt_iff₀ hd] at hq
  have hnat : (2 * (scaled num den exponent).1 + (scaled num den exponent).2 : ℚ) <
      2 * (bound * (scaled num den exponent).2) := by linarith
  exact_mod_cast hnat

/-- The greatest number below one is two to the 53rd less than it. -/
lemma le_of_below_one (h : Canonical n f) (hless : (n : ℚ) * 2 ^ f < 1) :
    (n : ℚ) * 2 ^ f ≤ 1 - 1 / 2 ^ 53 := by
  have hf : f ≤ -53 := by
    by_contra hlarge
    have hfull : 2 ^ 52 ≤ n := h.2.2.2.resolve_right (by omega)
    have hpower : (2 : ℚ) ^ (-52 : Int) ≤ 2 ^ f := zpow_le_zpow_right₀ (by norm_num) (by omega)
    have hone : (1 : ℚ) ≤ n * 2 ^ f := by
      calc (1 : ℚ) = 2 ^ 52 * 2 ^ (-52 : Int) := by norm_num
        _ ≤ n * 2 ^ f := by
          have hfullq : (2 : ℚ) ^ 52 ≤ n := by exact_mod_cast hfull
          exact mul_le_mul hfullq hpower (by positivity) (by positivity)
    linarith
  have hn : (n : ℚ) ≤ 2 ^ 53 - 1 := by
    have hlt : n + 1 ≤ 2 ^ 53 := h.1
    have hq : ((n + 1 : Nat) : ℚ) ≤ 2 ^ 53 := by exact_mod_cast hlt
    push_cast at hq
    linarith
  calc (n : ℚ) * 2 ^ f ≤ (2 ^ 53 - 1) * 2 ^ (-53 : Int) :=
        mul_le_mul hn (zpow_le_zpow_right₀ (by norm_num) hf) (by positivity) (by norm_num)
    _ = 1 - 1 / 2 ^ 53 := by norm_num

/-- A number of the format that is at least one has a full significand. -/
lemma full_of_one_le (h : Canonical m e) (hone : (1 : ℚ) ≤ m * 2 ^ e) : -53 < e ∧ 2 ^ 52 ≤ m := by
  have he : -53 < e := by
    by_contra hsmall
    have hpower : (2 : ℚ) ^ e ≤ 2 ^ (-53 : Int) := zpow_le_zpow_right₀ (by norm_num) (by omega)
    have hlt : (m : ℚ) < 2 ^ 53 := by exact_mod_cast h.1
    have hless : (m : ℚ) * 2 ^ e < 2 ^ 53 * 2 ^ (-53 : Int) :=
      mul_lt_mul hlt hpower (by positivity) (by norm_num)
    norm_num at hless
    linarith
  exact ⟨he, h.2.2.2.resolve_right (by omega)⟩

lemma exponentOf_of_between {num den : Nat} (hden : 0 < den) (hleast : -1074 ≤ e)
    (hlow : (2 : ℚ) ^ 52 * 2 ^ e ≤ num / den) (hhigh : (num / den : ℚ) < 2 ^ 53 * 2 ^ e) :
    exponentOf num den = e := by
  have hpos : (0 : ℚ) < 2 ^ e := by positivity
  have hnum : 0 < num := by
    rw [Nat.pos_iff_ne_zero]
    rintro rfl
    rw [Nat.cast_zero, zero_div] at hlow
    nlinarith
  have hfills : Fills num den e := ⟨(le_div_iff₀ hpos).mpr hlow, (div_lt_iff₀ hpos).mpr hhigh⟩
  rw [exponentOf_eq hnum hden hfills]
  omega

/-- A share of a number that is at least one is rounded to less than the number. -/
theorem rounded_lt {num den : Nat} (hden : 0 < den) (h : Canonical m e)
    (hone : (1 : ℚ) ≤ m * 2 ^ e) (hshare : (num / den : ℚ) ≤ m * 2 ^ e * (1 - 1 / 2 ^ 53)) :
    rounded num den < m * 2 ^ (e + 1074).toNat := by
  obtain ⟨he, hfull⟩ := full_of_one_le h hone
  have hgreatest := h.2.2.1
  rcases Nat.lt_or_eq_of_le hfull with hmore | rfl
  · rcases le_total (num / den : ℚ) (2 ^ 52 * 2 ^ e) with hlow | hlow
    · have hformat : InFormat (2 ^ 52) e :=
        ⟨by decide, by omega, hgreatest, fun heq => absurd heq (by decide)⟩
      have hle := rounded_le hden hformat (by push_cast; exact hlow)
      exact hle.trans_lt (Nat.mul_lt_mul_of_pos_right hmore (Nat.two_pow_pos _))
    · have hpos : (0 : ℚ) < 2 ^ e := by positivity
      have hmost : (m : ℚ) < 2 ^ 53 := by exact_mod_cast h.1
      have hsame := exponentOf_of_between hden (by omega) hlow (by nlinarith)
      have hless : significandAt num den e < m := by
        apply significandAt_lt hden
        nlinarith
      unfold rounded
      rw [hsame]
      exact Nat.mul_lt_mul_of_pos_right hless (Nat.two_pow_pos _)
  · -- Below a power of two the numbers of the format lie twice as close.
    have hformat : InFormat (2 ^ 53 - 1) (e - 1) :=
      ⟨by decide, by omega, by omega, fun heq => absurd heq (by decide)⟩
    have hbelow : (num / den : ℚ) ≤ (2 ^ 53 - 1 : Nat) * 2 ^ (e - 1) := by
      rw [zpow_sub_one₀ (by norm_num)]
      push_cast at hshare ⊢
      linarith
    have hle := rounded_le hden hformat hbelow
    have hpower : (e + 1074).toNat = (e - 1 + 1074).toNat + 1 := by omega
    have hunit : 0 < 2 ^ (e - 1 + 1074).toNat := Nat.two_pow_pos _
    rw [hpower, Nat.pow_succ]
    omega

end Products

end Condense.Proofs
