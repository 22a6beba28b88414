import Condense.Number.Decimal
import Mathlib.Algebra.Order.Field.Power
import Mathlib.Data.Rat.Cast.Order
import Mathlib.Tactic.FieldSimp
import Mathlib.Tactic.Lemma
import Mathlib.Tactic.Linarith
import Mathlib.Tactic.NormNum
import Mathlib.Tactic.Positivity
import Mathlib.Tactic.Ring

/-!
# Digits of floating point numbers

The decimal that is chosen for a floating point number stands for that very number again. What a
decimal stands for depends on its value alone, so that zeros may be added to its digits or taken
away; and a ratio that a number of the format has is rounded to that number.
-/

namespace Condense.Proofs
open Binary64

attribute [local instance (high)] instPowNat

/-- In units of `2 ^ exponent` the integer part of the ratio has 53 binary digits. -/
def Fills (num den : Nat) (exponent : Int) : Prop :=
  (2 : ℚ) ^ 52 ≤ num / den / (2 : ℚ) ^ exponent ∧ (num / den / (2 : ℚ) ^ exponent : ℚ) < 2 ^ 53

lemma scaled_pos (num : Nat) {den : Nat} (hden : 0 < den) (exponent : Int) :
    0 < (scaled num den exponent).2 := by
  unfold scaled
  split
  · exact Nat.mul_pos hden (Nat.two_pow_pos _)
  · exact hden

lemma scaled_ratio (num : Nat) {den : Nat} (hden : 0 < den) (exponent : Int) :
    ((scaled num den exponent).1 / (scaled num den exponent).2 : ℚ) =
      num / den / (2 : ℚ) ^ exponent := by
  have hd : (den : ℚ) ≠ 0 := by positivity
  unfold scaled
  split
  case isTrue hnonneg =>
    obtain ⟨k, rfl⟩ := Int.eq_ofNat_of_zero_le hnonneg
    simp only [Int.toNat_natCast, zpow_natCast]
    push_cast
    field_simp
  case isFalse hneg =>
    obtain ⟨k, rfl⟩ : ∃ k : Nat, exponent = -(k : Int) := ⟨(-exponent).toNat, by omega⟩
    simp only [neg_neg, Int.toNat_natCast, zpow_neg, zpow_natCast]
    push_cast
    field_simp

/-- At most one exponent does. -/
lemma Fills.unique {num den : Nat} {exponent other : Int} (h : Fills num den exponent)
    (h' : Fills num den other) : exponent = other := by
  have hle : ∀ {e f : Int}, Fills num den e → Fills num den f → e ≤ f := by
    intro e f he hf
    have hpos : (0 : ℚ) < 2 ^ e := by positivity
    have hpos' : (0 : ℚ) < 2 ^ f := by positivity
    have hlow : (2 : ℚ) ^ 52 * 2 ^ e ≤ num / den := (le_div_iff₀ hpos).mp he.1
    have hhigh : (num / den : ℚ) < 2 ^ 53 * 2 ^ f := (div_lt_iff₀ hpos').mp hf.2
    have hlt : (2 : ℚ) ^ (e + 52) < 2 ^ (f + 53) := by
      rw [zpow_add₀ (by norm_num), zpow_add₀ (by norm_num)]
      norm_num at *
      linarith
    have hexp := (zpow_lt_zpow_iff_right₀ (by norm_num : (1 : ℚ) < 2)).mp hlt
    omega
  exact le_antisymm (hle h h') (hle h' h)

/-- A ratio lies within a factor of two of the powers that lead its two sides. -/
lemma ratio_bounds {num den : Nat} (hnum : 0 < num) (hden : 0 < den) :
    (2 : ℚ) ^ ((num.log2 : Int) - den.log2 - 1) ≤ num / den ∧
      (num / den : ℚ) < 2 ^ ((num.log2 : Int) - den.log2 + 1) := by
  have hd : (0 : ℚ) < den := by exact_mod_cast hden
  have hnumLow : (2 : ℚ) ^ (num.log2 : Int) ≤ num := by
    rw [zpow_natCast]
    exact_mod_cast Nat.log2_self_le hnum.ne'
  have hnumHigh : (num : ℚ) < 2 ^ ((num.log2 : Int) + 1) := by
    have hlt := Nat.lt_log2_self (n := num)
    exact_mod_cast hlt
  have hdenLow : (2 : ℚ) ^ (den.log2 : Int) ≤ den := by
    rw [zpow_natCast]
    exact_mod_cast Nat.log2_self_le hden.ne'
  have hdenHigh : (den : ℚ) < 2 ^ ((den.log2 : Int) + 1) := by
    have hlt := Nat.lt_log2_self (n := den)
    exact_mod_cast hlt
  have htwo : (2 : ℚ) ≠ 0 := by norm_num
  constructor
  · rw [le_div_iff₀ hd]
    calc (2 : ℚ) ^ ((num.log2 : Int) - den.log2 - 1) * den
        ≤ 2 ^ ((num.log2 : Int) - den.log2 - 1) * 2 ^ ((den.log2 : Int) + 1) :=
          mul_le_mul_of_nonneg_left hdenHigh.le (by positivity)
      _ = 2 ^ (num.log2 : Int) := by
          rw [← zpow_add₀ htwo]
          congr 1
          omega
      _ ≤ num := hnumLow
  · rw [div_lt_iff₀ hd]
    calc (num : ℚ) < 2 ^ ((num.log2 : Int) + 1) := hnumHigh
      _ = 2 ^ ((num.log2 : Int) - den.log2 + 1) * 2 ^ (den.log2 : Int) := by
          rw [← zpow_add₀ htwo]
          congr 1
          omega
      _ ≤ 2 ^ ((num.log2 : Int) - den.log2 + 1) * den :=
          mul_le_mul_of_nonneg_left hdenLow (by positivity)

/-- The exponent of a ratio is the one whose significand fills the format, as far as the format
allows. -/
lemma exponentOf_fills {num den : Nat} (hnum : 0 < num) (hden : 0 < den) :
    ∃ exponent, Fills num den exponent ∧ exponentOf num den = max exponent (-1074) := by
  obtain ⟨hlow, hhigh⟩ := ratio_bounds hnum hden
  have htwo : (2 : ℚ) ≠ 0 := by norm_num
  generalize hguess : (num.log2 : Int) - den.log2 - 53 = guess
  have hpos : (0 : ℚ) < 2 ^ guess := by positivity
  have hnext : (2 : ℚ) ^ (guess + 1) = 2 * 2 ^ guess := by rw [zpow_add_one₀ htwo, mul_comm]
  have hleast : (2 : ℚ) ^ 52 * 2 ^ guess ≤ num / den := by
    refine le_trans (le_of_eq ?_) hlow
    rw [← zpow_natCast, ← zpow_add₀ htwo]
    congr 1
    push_cast
    omega
  have hmost : (num / den : ℚ) < 2 ^ 54 * 2 ^ guess := by
    refine lt_of_lt_of_eq hhigh ?_
    rw [← zpow_natCast, ← zpow_add₀ htwo]
    congr 1
    push_cast
    omega
  have hratio := scaled_ratio num hden guess
  have hdpos := scaled_pos num hden guess
  unfold exponentOf
  dsimp only
  rw [hguess]
  generalize scaled num den guess = s at hratio hdpos ⊢
  obtain ⟨n, d⟩ := s
  dsimp only at hratio hdpos ⊢
  have hd : (0 : ℚ) < d := by exact_mod_cast hdpos
  by_cases hsmall : n / d < 2 ^ (53 : Nat)
  · refine ⟨guess, ⟨(le_div_iff₀ hpos).mpr hleast, ?_⟩, by rw [if_pos hsmall]⟩
    rw [← hratio, div_lt_iff₀ hd]
    exact_mod_cast (Nat.div_lt_iff_lt_mul hdpos).mp hsmall
  · refine ⟨guess + 1, ⟨?_, ?_⟩, by rw [if_neg hsmall]⟩
    · rw [Nat.not_lt, Nat.le_div_iff_mul_le hdpos] at hsmall
      have hlarge : (2 : ℚ) ^ 53 * d ≤ n := by exact_mod_cast hsmall
      rw [← le_div_iff₀ hd, hratio, le_div_iff₀ hpos] at hlarge
      rw [le_div_iff₀ (by positivity), hnext]
      linarith
    · rw [div_lt_iff₀ (by positivity), hnext]
      linarith

lemma exponentOf_eq {num den : Nat} (hnum : 0 < num) (hden : 0 < den) {exponent : Int}
    (h : Fills num den exponent) : exponentOf num den = max exponent (-1074) := by
  obtain ⟨found, hfound, heq⟩ := exponentOf_fills hnum hden
  rw [heq, hfound.unique h]

lemma roundDiv_mul (n : Nat) {d : Nat} (hd : 0 < d) : roundDiv (n * d) d = n := by
  unfold roundDiv
  rw [Nat.mul_div_cancel n hd, Nat.mul_mod_left]
  dsimp only
  rw [if_pos (by omega)]

lemma roundDiv_mul_mul (n d : Nat) {factor : Nat} (hfactor : 0 < factor) :
    roundDiv (n * factor) (d * factor) = roundDiv n d := by
  unfold roundDiv
  dsimp only
  rw [Nat.mul_div_mul_right _ _ hfactor, Nat.mul_mod_mul_right, ← Nat.mul_assoc]
  simp only [Nat.mul_lt_mul_right hfactor]

/-- Rounding does not see whether a ratio is in lowest terms. -/
theorem ofRatio_mul (negative : Bool) (num : Nat) {den factor : Nat} (hden : 0 < den)
    (hfactor : 0 < factor) :
    ofRatio negative (num * factor) (den * factor) = ofRatio negative num den := by
  rcases Nat.eq_zero_or_pos num with rfl | hnum
  · rw [Nat.zero_mul]
    rfl
  · obtain ⟨exponent, hfills, hexponent⟩ := exponentOf_fills hnum hden
    have hf : (factor : ℚ) ≠ 0 := by positivity
    have hsame : Fills (num * factor) (den * factor) exponent := by
      unfold Fills
      push_cast
      rw [mul_div_mul_right _ _ hf]
      exact hfills
    have hscaled : ∀ e, scaled (num * factor) (den * factor) e =
        ((scaled num den e).1 * factor, (scaled num den e).2 * factor) := by
      intro e
      unfold scaled
      split <;> simp only [Nat.mul_right_comm]
    unfold ofRatio
    rw [if_neg hnum.ne', if_neg (Nat.mul_pos hnum hfactor).ne', hexponent,
      exponentOf_eq (Nat.mul_pos hnum hfactor) (Nat.mul_pos hden hfactor) hsame]
    dsimp only
    rw [hscaled]
    dsimp only
    rw [roundDiv_mul_mul _ _ hfactor]

/-- A magnitude of the format, as a ratio. -/
lemma magnitude_ratio (significand : Nat) (exponent : Int) :
    ((magnitude significand exponent).1 / (magnitude significand exponent).2 : ℚ) =
      significand * 2 ^ exponent := by
  unfold magnitude
  rcases Int.le_total 0 exponent with hnonneg | hneg
  · obtain ⟨k, rfl⟩ := Int.eq_ofNat_of_zero_le hnonneg
    simp
  · obtain ⟨k, rfl⟩ : ∃ k : Nat, exponent = -(k : Int) := ⟨(-exponent).toNat, by omega⟩
    simp [div_eq_mul_inv]

/-- In units of its own exponent a magnitude of the format is its significand. -/
lemma scaled_magnitude (significand : Nat) (exponent : Int) :
    ∃ d, 0 < d ∧ scaled (magnitude significand exponent).1 (magnitude significand exponent).2
      exponent = (significand * d, d) := by
  unfold scaled magnitude
  rcases Int.lt_or_le exponent 0 with hneg | hnonneg
  · refine ⟨2 ^ (-exponent).toNat, Nat.two_pow_pos _, ?_⟩
    have hzero : exponent.toNat = 0 := by omega
    rw [if_neg (by omega), hzero, Nat.pow_zero, Nat.mul_one]
  · refine ⟨2 ^ exponent.toNat, Nat.two_pow_pos _, ?_⟩
    have hzero : (-exponent).toNat = 0 := by omega
    rw [if_pos hnonneg, hzero, Nat.pow_zero, Nat.one_mul]

/-- The exponent of the format's own representation is the one that is found again. -/
lemma exponentOf_magnitude {significand : Nat} {exponent : Int}
    (h : Canonical significand exponent) (hpos : 0 < significand) :
    exponentOf (magnitude significand exponent).1 (magnitude significand exponent).2 =
      exponent := by
  obtain ⟨hlt, hleast, -, hnormal⟩ := h
  have hnum : 0 < (magnitude significand exponent).1 := Nat.mul_pos hpos (Nat.two_pow_pos _)
  have hden : 0 < (magnitude significand exponent).2 := Nat.two_pow_pos _
  have hunit : (2 : ℚ) ^ exponent ≠ 0 := by positivity
  have hratio := magnitude_ratio significand exponent
  have hltq : (significand : ℚ) < 2 ^ 53 := by exact_mod_cast hlt
  rcases hnormal with hlarge | hleast
  · have hfills : Fills (magnitude significand exponent).1 (magnitude significand exponent).2
        exponent := by
      unfold Fills
      rw [hratio, mul_div_cancel_right₀ _ hunit]
      exact ⟨by exact_mod_cast hlarge, hltq⟩
    rw [exponentOf_eq hnum hden hfills]
    omega
  · -- What fills the format lies at or below the least exponent.
    obtain ⟨found, ⟨hlow, -⟩, heq⟩ := exponentOf_fills hnum hden
    rw [hratio, le_div_iff₀ (by positivity)] at hlow
    have hbelow : (significand : ℚ) * 2 ^ exponent < 2 ^ 53 * 2 ^ exponent :=
      mul_lt_mul_of_pos_right hltq (by positivity)
    have hpow : (2 : ℚ) ^ (found + 52) < 2 ^ (exponent + 53) := by
      rw [add_comm found, add_comm exponent, zpow_add₀ (by norm_num), zpow_add₀ (by norm_num)]
      exact lt_of_le_of_lt hlow hbelow
    have hexp := (zpow_lt_zpow_iff_right₀ (by norm_num : (1 : ℚ) < 2)).mp hpow
    omega

/-- A number of the format is rounded to itself. -/
theorem ofRatio_magnitude (negative : Bool) {significand : Nat} {exponent : Int}
    (h : Canonical significand exponent) (hpos : 0 < significand) :
    ofRatio negative (magnitude significand exponent).1 (magnitude significand exponent).2 =
      .finite negative significand exponent h := by
  have hnum : (magnitude significand exponent).1 ≠ 0 :=
    (Nat.mul_pos hpos (Nat.two_pow_pos _)).ne'
  obtain ⟨d, hd, hscaled⟩ := scaled_magnitude significand exponent
  unfold ofRatio pack
  rw [if_neg hnum, exponentOf_magnitude h hpos]
  dsimp only
  rw [hscaled]
  dsimp only
  rw [roundDiv_mul significand hd, dif_pos h]

/-- A sign decides nothing but the sign. -/
lemma pack_sign {significand : Nat} {exponent : Int} {s : Bool} {m : Nat} {e : Int}
    {h : Canonical m e} (hpack : pack false significand exponent = .finite s m e h)
    (negative : Bool) : pack negative significand exponent = .finite negative m e h := by
  unfold pack at hpack ⊢
  split at hpack
  case isTrue hcanonical =>
    cases hpack
    rw [dif_pos hcanonical]
  case isFalse hbeyond =>
    rw [dif_neg hbeyond]
    split at hpack
    case isTrue hcanonical =>
      cases hpack
      rw [dif_pos hcanonical]
    case isFalse => contradiction

lemma ofDecimal_sign {d : Decimal} {s : Bool} {m : Nat} {e : Int} {h : Canonical m e}
    (hread : ofDecimal false d = .finite s m e h) (negative : Bool) :
    ofDecimal negative d = .finite negative m e h := by
  have hzero : zero false = .finite s m e h → zero negative = .finite negative m e h := by
    intro heq
    cases heq
    rfl
  unfold ofDecimal at hread ⊢
  split at hread
  case isTrue hdigits =>
    rw [if_pos hdigits]
    exact hzero hread
  case isFalse hdigits =>
    rw [if_neg hdigits]
    split at hread
    case isTrue => contradiction
    case isFalse hlarge =>
      rw [if_neg hlarge]
      split at hread
      case isTrue hsmall =>
        rw [if_pos hsmall]
        exact hzero hread
      case isFalse hsmall =>
        rw [if_neg hsmall]
        unfold ofRatio at hread ⊢
        split at hread
        case isTrue hnum =>
          rw [if_pos hnum]
          exact hzero hread
        case isFalse hnum =>
          rw [if_neg hnum]
          exact pack_sign hread negative

lemma width_mul_ten {n : Nat} (h : n ≠ 0) : Decimal.width (n * 10) = Decimal.width n + 1 := by
  unfold Decimal.width
  rw [Nat.toDigits_of_base_le (by decide) (by omega), List.length_append,
    Nat.mul_div_cancel n (by decide)]
  rfl

/-- A zero behind the digits of a decimal changes nothing. -/
lemma ofDecimal_mul_ten (negative : Bool) (digits : Nat) (exponent : Int) :
    ofDecimal negative ⟨digits * 10, exponent - 1⟩ = ofDecimal negative ⟨digits, exponent⟩ := by
  unfold ofDecimal
  dsimp only
  by_cases hdigits : digits = 0
  · rw [if_pos hdigits, if_pos (by omega)]
  · have hwidth : ((Decimal.width (digits * 10) : Nat) : Int) + (exponent - 1) =
        Decimal.width digits + exponent := by
      rw [width_mul_ten hdigits]
      omega
    rw [if_neg hdigits, if_neg (by omega), hwidth]
    congr 2
    unfold Decimal.ratio
    dsimp only
    rcases Int.lt_or_le 0 exponent with hpos | hnonpos
    · have hone : exponent.toNat = (exponent - 1).toNat + 1 := by omega
      have hzero : (-exponent).toNat = 0 := by omega
      have hzero' : (-(exponent - 1)).toNat = 0 := by omega
      rw [hone, hzero, hzero', Nat.pow_succ, Nat.mul_assoc, Nat.mul_comm 10]
    · have hone : (-(exponent - 1)).toNat = (-exponent).toNat + 1 := by omega
      have hzero : exponent.toNat = 0 := by omega
      have hzero' : (exponent - 1).toNat = 0 := by omega
      rw [hone, hzero, hzero', Nat.pow_succ, Nat.pow_zero, Nat.mul_one, Nat.mul_one]
      exact ofRatio_mul negative digits (Nat.pow_pos (by decide)) (by decide)

/-- Nor do several zeros. -/
theorem ofDecimal_mul_pow (negative : Bool) (digits zeros : Nat) (exponent : Int) :
    ofDecimal negative ⟨digits * 10 ^ zeros, exponent - zeros⟩ =
      ofDecimal negative ⟨digits, exponent⟩ := by
  induction zeros with
  | zero => rw [Nat.pow_zero, Nat.mul_one, Int.natCast_zero, Int.sub_zero]
  | succ zeros ih =>
    have hexponent : exponent - ((zeros + 1 : Nat) : Int) = exponent - zeros - 1 := by
      push_cast
      omega
    rw [← ih, hexponent, Nat.pow_succ, ← Nat.mul_assoc, ofDecimal_mul_ten]

/-- Down to the least exponent, a power of five has almost as many digits as one of ten. -/
lemma ten_pow_le_five_pow {k : Nat} (hleast : 401 ≤ k) (hgreatest : k ≤ 1074) :
    (10 : Nat) ^ (k - 401) ≤ 5 ^ k :=
  calc (10 : Nat) ^ (k - 401) = 5 ^ (k - 401) * 2 ^ (k - 401) := by
        rw [← Nat.mul_pow]
    _ ≤ 5 ^ (k - 401) * 2 ^ 673 :=
        Nat.mul_le_mul_left _ (Nat.pow_le_pow_right (by decide) (by omega))
    _ ≤ 5 ^ (k - 401) * 5 ^ 401 := Nat.mul_le_mul_left _ (by decide +kernel)
    _ = 5 ^ k := by rw [← Nat.pow_add, Nat.sub_add_cancel hleast]

/-- All digits of a magnitude are within the bounds beyond which digits are not looked at. -/
lemma width_exactDecimal {significand : Nat} {exponent : Int} (h : Canonical significand exponent)
    (hpos : 0 < significand) :
    let d := exactDecimal significand exponent
    (Decimal.width d.digits : Int) + d.exponent ≤ 400 ∧
      -400 ≤ (Decimal.width d.digits : Int) + d.exponent := by
  obtain ⟨hlt, hleast, hgreatest, -⟩ := h
  have hle : ∀ {n k : Nat}, 0 < k → (Decimal.width n ≤ k ↔ n < 10 ^ k) := fun hk =>
    Nat.length_toDigits_le_iff (by decide) hk
  unfold exactDecimal
  split
  case isTrue hnonneg =>
    obtain ⟨k, rfl⟩ := Int.eq_ofNat_of_zero_le hnonneg
    have hwidth : Decimal.width (significand * 2 ^ k) ≤ 400 := by
      rw [hle (by decide)]
      calc significand * 2 ^ k < 2 ^ 53 * 2 ^ 971 :=
            Nat.mul_lt_mul_of_lt_of_le hlt (Nat.pow_le_pow_right (by decide) (by omega))
              (Nat.two_pow_pos _)
        _ ≤ 10 ^ 400 := by decide +kernel
    dsimp only [Int.toNat_natCast]
    omega
  case isFalse hneg =>
    obtain ⟨k, rfl⟩ : ∃ k : Nat, exponent = -(k : Int) := ⟨(-exponent).toNat, by omega⟩
    have hk : k ≤ 1074 := by omega
    dsimp only
    rw [Int.neg_neg, Int.toNat_natCast]
    have hwidth : Decimal.width (significand * 5 ^ k) ≤ 16 + k := by
      rw [hle (by omega), Nat.pow_add]
      calc significand * 5 ^ k < 2 ^ 53 * 5 ^ k :=
            Nat.mul_lt_mul_of_pos_right hlt (Nat.pow_pos (by decide))
        _ ≤ 10 ^ 16 * 10 ^ k :=
            Nat.mul_le_mul (by decide) (Nat.pow_le_pow_left (by decide) k)
    have hleast : ¬Decimal.width (significand * 5 ^ k) + 401 ≤ k := by
      intro hsmall
      have hwidth : Decimal.width (significand * 5 ^ k) ≤ k - 401 := by omega
      have hsome : 0 < Decimal.width (significand * 5 ^ k) := Nat.length_toDigits_pos
      rw [hle (by omega)] at hwidth
      -- The power of five alone has more digits than that.
      have hfive := ten_pow_le_five_pow (by omega) hk
      have hone : 5 ^ k ≤ significand * 5 ^ k := Nat.le_mul_of_pos_left _ hpos
      omega
    omega

/-- All digits of a number of the format stand for the number. -/
lemma ofDecimal_exactDecimal (negative : Bool) {significand : Nat} {exponent : Int}
    (h : Canonical significand exponent) (hpos : 0 < significand) :
    ofDecimal negative (exactDecimal significand exponent) =
      .finite negative significand exponent h := by
  obtain ⟨hlarge, hsmall⟩ := width_exactDecimal h hpos
  have hratio : ofRatio negative (exactDecimal significand exponent).ratio.1
      (exactDecimal significand exponent).ratio.2 =
        ofRatio negative (magnitude significand exponent).1 (magnitude significand exponent).2 := by
    unfold exactDecimal magnitude
    split
    case isTrue hnonneg =>
      have hzero : (-exponent).toNat = 0 := by omega
      simp [Decimal.ratio, hzero]
    case isFalse hneg =>
      have hzero : exponent.toNat = 0 := by omega
      have hten : (10 : Nat) ^ (-exponent).toNat =
          2 ^ (-exponent).toNat * 5 ^ (-exponent).toNat := by
        rw [← Nat.mul_pow]
      simp only [Decimal.ratio, hzero, Nat.pow_zero, Nat.mul_one]
      rw [hten]
      exact ofRatio_mul negative significand (Nat.two_pow_pos _) (Nat.pow_pos (by decide))
  have hdigits : (exactDecimal significand exponent).digits ≠ 0 := by
    unfold exactDecimal
    split
    · exact (Nat.mul_pos hpos (Nat.two_pow_pos _)).ne'
    · exact (Nat.mul_pos hpos (Nat.pow_pos (by decide))).ne'
  unfold ofDecimal
  rw [if_neg hdigits, if_neg (by omega), if_neg (by omega), hratio,
    ofRatio_magnitude negative h hpos]

/-- The digits that are shown of a number stand for the number, behind either sign. -/
theorem ofDecimal_shortest (negative : Bool) {significand : Nat} {exponent : Int}
    (h : Canonical significand exponent) :
    ofDecimal negative (shortest significand exponent) =
      .finite negative significand exponent h := by
  unfold shortest
  by_cases hzero : significand = 0
  · obtain rfl : exponent = -1074 := by
      have hnormal := h.2.2.2
      omega
    subst hzero
    rfl
  · rw [if_neg hzero]
    dsimp only
    split
    case h_1 d hfound =>
      have hreads := List.find?_some hfound
      split at hreads
      case h_1 s m e hcanonical hread =>
        rw [Bool.and_eq_true, beq_iff_eq, beq_iff_eq] at hreads
        obtain ⟨rfl, rfl⟩ := hreads
        exact ofDecimal_sign hread negative
      case h_2 => contradiction
    case h_2 => exact ofDecimal_exactDecimal negative h (Nat.pos_of_ne_zero hzero)

end Condense.Proofs
