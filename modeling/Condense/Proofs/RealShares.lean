import Condense.Config.Lenient
import Condense.Proofs.RealBounds
import Condense.Proofs.ValidSettings
import Condense.Tuning

/-!
# Shares in floating point

A share of a count or of a number is taken in floating point and loses its fraction. If the ratio
lies between zero and one the share is less than what it is taken of, although the count, the
product and the difference are each rounded.
-/

namespace Condense.Proofs
open Binary64

attribute [local instance (high)] instPowNat

section Values

variable {m u : Nat} {e : Int} {x y : Binary64}

-- A proof that looks into it computes a power.
attribute [local irreducible] unitsInOne

/-- A magnitude of the format in units of the least positive number. -/
lemma units_value (hleast : -1074 ≤ e) :
    ((m * 2 ^ (e + 1074).toNat : Nat) : ℚ) = m * 2 ^ e * unitsInOne := by
  obtain ⟨power, hpower⟩ : ∃ power, power = 1074 := ⟨_, rfl⟩
  obtain ⟨k, hk⟩ : ∃ k : Nat, e + power = k := ⟨(e + power).toNat, by omega⟩
  have hunits : (unitsInOne : ℚ) = 2 ^ (power : Int) := by
    rw [unitsInOne_eq hpower]
    push_cast
    rw [zpow_natCast]
  have hexponent : (e + 1074).toNat = k := by omega
  rw [hunits, mul_assoc, ← zpow_add₀ (by norm_num), hk, zpow_natCast, hexponent]
  push_cast
  rfl

lemma div_unitsInOne (hleast : -1074 ≤ e) :
    m * 2 ^ (e + 1074).toNat / unitsInOne = m * 2 ^ e.toNat / 2 ^ (-e).toNat := by
  obtain ⟨power, hpower⟩ : ∃ power, power = 1074 := ⟨_, rfl⟩
  rw [unitsInOne_eq hpower]
  rcases Int.le_total 0 e with hnonneg | hneg
  · have hexponent : (e + 1074).toNat = e.toNat + power := by omega
    have hzero : (-e).toNat = 0 := by omega
    rw [hexponent, hzero, Nat.pow_add, ← Nat.mul_assoc, Nat.pow_zero, Nat.div_one]
    exact Nat.mul_div_cancel _ (Nat.two_pow_pos power)
  · have hexponent : (-e).toNat + (e + 1074).toNat = power := by omega
    have hzero : e.toNat = 0 := by omega
    rw [← hexponent, hzero, Nat.pow_add, Nat.pow_zero, Nat.mul_one]
    exact Nat.mul_div_mul_right m _ (Nat.two_pow_pos _)

/-- The integer part of a number that is not negative. -/
lemma truncate_of_units (h : x.units? = some (u : Int)) :
    x.truncate = .ok ((u / unitsInOne : Nat) : Int) := by
  cases x with
  | nan | infinite => contradiction
  | finite negative m e canonical =>
    have hvalue := Option.some.inj h
    have hpart := div_unitsInOne canonical.2.1 (m := m)
    unfold truncate
    dsimp only at hvalue ⊢
    rw [← hpart]
    cases negative with
    | true =>
      rw [if_pos rfl] at hvalue ⊢
      obtain ⟨rfl, hzero⟩ : u = 0 ∧ m * 2 ^ (e + 1074).toNat = 0 := by omega
      rw [hzero, Nat.zero_div]
      rfl
    | false =>
      rw [if_neg Bool.false_ne_true] at hvalue ⊢
      rw [Int.ofNat.inj hvalue]

/-- A positive number in the format's representation. -/
lemma exists_finite (h : x.units? = some (u : Int)) (hpos : 0 < u) :
    ∃ m e hcanonical, x = .finite false m e hcanonical ∧ m * 2 ^ (e + 1074).toNat = u ∧
      (u : ℚ) = m * 2 ^ e * unitsInOne := by
  cases x with
  | nan | infinite => contradiction
  | finite negative m e canonical =>
    have hvalue := Option.some.inj h
    cases negative with
    | true =>
      rw [if_pos rfl] at hvalue
      omega
    | false =>
      rw [if_neg Bool.false_ne_true] at hvalue
      have hunits : m * 2 ^ (e + 1074).toNat = u := Int.ofNat.inj hvalue
      exact ⟨m, e, canonical, rfl, hunits, hunits ▸ units_value canonical.2.1⟩

lemma units_of_positive (h : Positive x) :
    x = .infinite false ∨ ∃ u : Nat, 0 < u ∧ x.units? = some (u : Int) := by
  cases x with
  | nan => contradiction
  | infinite negative =>
    cases negative with
    | true => contradiction
    | false => exact Or.inl rfl
  | finite negative m e canonical =>
    right
    have hless : (0 : Int) < if negative then -((m * 2 ^ (e + 1074).toNat : Nat) : Int)
        else (m * 2 ^ (e + 1074).toNat : Nat) := of_decide_eq_true h
    cases negative with
    | true =>
      rw [if_pos rfl] at hless
      omega
    | false =>
      rw [if_neg Bool.false_ne_true] at hless
      exact ⟨_, by exact_mod_cast hless, rfl⟩

lemma units_one : Lenient.one.units? = some (unitsInOne : Int) := by
  decide +kernel

lemma units_lt {v : Nat} (h : x.lt y = true) (hx : x.units? = some (u : Int))
    (hy : y.units? = some (v : Int)) : u < v := by
  cases x with
  | nan | infinite => contradiction
  | finite =>
    cases y with
    | nan | infinite => contradiction
    | finite =>
      simp only [Binary64.lt, hx, hy, decide_eq_true_eq] at h
      exact Int.ofNat_lt.mp h

end Values

section Shares

variable {u : Nat} {x ratio : Binary64}

-- A proof that looks into it computes a power.
attribute [local irreducible] unitsInOne

lemma exists_proper (h : Positive ratio ∧ ratio.lt Lenient.one = true) :
    ∃ n f hcanonical, ratio = .finite false n f hcanonical ∧
      (n : ℚ) * 2 ^ f ≤ 1 - 1 / 2 ^ 53 := by
  rcases units_of_positive h.1 with rfl | ⟨w, hw, hunits⟩
  · exact nomatch h.2
  · obtain ⟨n, f, hn, rfl, -, hvalue⟩ := exists_finite hunits hw
    have hone : (0 : ℚ) < unitsInOne := by exact_mod_cast unitsInOne_pos
    have hlt : (w : ℚ) < unitsInOne := by exact_mod_cast units_lt h.2 hunits units_one
    rw [hvalue] at hlt
    exact ⟨n, f, hn, rfl, le_of_below_one hn (lt_of_mul_lt_mul_right (by rwa [one_mul]) hone.le)⟩

/-- A proper share of a positive number is no more than the number, and less than it from one on. -/
theorem units_share (hx : x.units? = some (u : Int)) (hpos : 0 < u)
    (hratio : Positive ratio ∧ ratio.lt Lenient.one = true) :
    ∃ v : Nat, (x * ratio).units? = some (v : Int) ∧ v ≤ u ∧ (unitsInOne ≤ u → v < u) := by
  obtain ⟨m, e, hm, rfl, hunits, hvalue⟩ := exists_finite hx hpos
  obtain ⟨n, f, hn, rfl, hproper⟩ := exists_proper hratio
  have hproduct : Binary64.finite false m e hm * .finite false n f hn =
      ofRatio false (magnitude (m * n) (e + f)).1 (magnitude (m * n) (e + f)).2 := rfl
  have hden : 0 < (magnitude (m * n) (e + f)).2 := Nat.two_pow_pos _
  have hexact : ((magnitude (m * n) (e + f)).1 / (magnitude (m * n) (e + f)).2 : ℚ) =
      m * 2 ^ e * (n * 2 ^ f) := by
    rw [magnitude_ratio, zpow_add₀ (by norm_num)]
    push_cast
    ring
  rw [hproduct]
  generalize (magnitude (m * n) (e + f)).1 = num at hexact ⊢
  generalize (magnitude (m * n) (e + f)).2 = den at hden hexact ⊢
  have hmagnitude : (0 : ℚ) ≤ m * 2 ^ e := by positivity
  have hwithin : (num / den : ℚ) ≤ m * 2 ^ e := by
    rw [hexact]
    exact mul_le_of_le_one_right hmagnitude (hproper.trans (by norm_num))
  have hformat := inFormat_of_canonical hm
  refine ⟨rounded num den, ofRatio_units hden hformat hwithin false, ?_, fun hlarge => ?_⟩
  · rw [← hunits]
    exact rounded_le hden hformat hwithin
  · have hone : (0 : ℚ) < unitsInOne := by exact_mod_cast unitsInOne_pos
    have hleast : (1 : ℚ) ≤ m * 2 ^ e := by
      have hq : (unitsInOne : ℚ) ≤ u := by exact_mod_cast hlarge
      rw [hvalue] at hq
      exact le_of_mul_le_mul_right (by rwa [one_mul]) hone
    rw [← hunits]
    refine rounded_lt hden hm hleast ?_
    rw [hexact]
    exact mul_le_mul_of_nonneg_left hproper hmagnitude

lemma units_ofInt {count : Nat} (h : ofInt count = .ok x) :
    x.units? = some (rounded count 1 : Int) := by
  rcases ofRatio_cases Nat.one_pos false with hinfinite | hunits
  · have hsign : decide ((count : Int) < 0) = false := decide_eq_false (by omega)
    rw [ofInt, hsign, Int.natAbs_natCast, hinfinite] at h
    contradiction
  · rw [ofInt_eq_ok hunits] at h
    exact Except.ok.inj h ▸ hunits

/-- A count that is at most a number of the format becomes one that is at most that number. -/
lemma ofInt_le {count : Nat} (hx : x.units? = some (u : Int)) (hcount : count * unitsInOne ≤ u) :
    (∃ y, ofInt count = .ok y) ∧ rounded count 1 ≤ u := by
  rcases Nat.eq_zero_or_pos u with rfl | hpos
  · have hzero : count = 0 :=
      (Nat.mul_eq_zero.mp (Nat.le_zero.mp hcount)).resolve_right unitsInOne_pos.ne'
    rw [hzero, rounded_zero]
    exact ⟨⟨_, rfl⟩, Nat.le_refl 0⟩
  · obtain ⟨m, e, hm, -, hunits, hvalue⟩ := exists_finite hx hpos
    have hone : (0 : ℚ) < unitsInOne := by exact_mod_cast unitsInOne_pos
    have hle : ((count : ℚ) / (1 : Nat)) ≤ m * 2 ^ e := by
      have hq : (count : ℚ) * unitsInOne ≤ u := by exact_mod_cast hcount
      rw [hvalue] at hq
      rw [Nat.cast_one, div_one]
      exact le_of_mul_le_mul_right hq hone
    have hformat := inFormat_of_canonical hm
    rw [← hunits]
    exact ⟨⟨_, ofInt_eq_ok (ofRatio_units Nat.one_pos hformat hle false)⟩,
      rounded_le Nat.one_pos hformat hle⟩

lemma unitsInOne_le_rounded {count : Nat} (h : 0 < count) : unitsInOne ≤ rounded count 1 := by
  have hleast : ((1 : Nat) : ℚ) * 2 ^ (0 : Int) ≤ count / (1 : Nat) := by
    rw [Nat.cast_one, div_one, zpow_zero, one_mul]
    exact_mod_cast h
  have hle := le_rounded Nat.one_pos (by decide) (by decide) hleast
  have hpower : ((0 : Int) + 1074).toNat = 1074 := by decide
  rw [Nat.one_mul, ← unitsInOne_eq hpower] at hle
  exact hle

/-- The share of a count that is taken in floating point is less than the count. -/
theorem share_of_count {count : Nat} (hcount : 0 < count) (hx : ofInt count = .ok x)
    (hratio : Positive ratio ∧ ratio.lt Lenient.one = true) :
    ∃ b : Nat, (x * ratio).truncate = .ok (b : Int) ∧ b < count := by
  have hlarge := unitsInOne_le_rounded hcount
  obtain ⟨v, hv, -, hless⟩ :=
    units_share (units_ofInt hx) (unitsInOne_pos.trans_le hlarge) hratio
  refine ⟨v / unitsInOne, truncate_of_units hv, ?_⟩
  apply Nat.lt_of_not_le
  intro hmore
  -- A share that reached the count would be rounded to no less than the count is.
  have hreach : rounded count 1 ≤ v :=
    (ofInt_le hv ((Nat.le_div_iff_mul_le unitsInOne_pos).mp hmore)).2
  exact absurd (hless hlarge) (Nat.not_lt.mpr hreach)

/-- The share of a number is less than the number, and so it is as a floating point number. -/
theorem share_of_real (hx : x.units? = some (u : Int)) (hpos : 0 < u)
    (hratio : Positive ratio ∧ ratio.lt Lenient.one = true) :
    ∃ b : Nat, (x * ratio).truncate = .ok (b : Int) ∧ b * unitsInOne < u ∧
      (∃ y, ofInt b = .ok y) ∧ rounded b 1 < u := by
  obtain ⟨v, hv, hle, hless⟩ := units_share hx hpos hratio
  have hpart : v / unitsInOne * unitsInOne ≤ v := Nat.div_mul_le_self v unitsInOne
  refine ⟨v / unitsInOne, truncate_of_units hv, ?_, (ofInt_le hv hpart).1, ?_⟩
  all_goals
    rcases Nat.lt_or_ge u unitsInOne with hsmall | hlarge
    · rw [Nat.div_eq_of_lt (hle.trans_lt hsmall)]
      simpa [rounded_zero] using hpos
  · exact hpart.trans_lt (hless hlarge)
  · exact (ofInt_le hv hpart).2.trans_lt (hless hlarge)

/-- A greater number less a smaller one is positive, however near they are. -/
lemma sub_positive {y : Binary64} {v : Nat} (hx : x.units? = some (u : Int))
    (hy : y.units? = some (v : Int)) (hless : v < u) :
    (Quantity.whole 0).lt (.real (x - y)) = true := by
  have hdifference : (u : Int) - v = (u - v : Nat) := by omega
  rw [sub_finite hx hy, hdifference, if_neg (by omega), decide_eq_false (by omega),
    Int.natAbs_natCast]
  rcases ofRatio_cases unitsInOne_pos false with hinfinite | hunits
  · rw [hinfinite]
    rfl
  · -- The least positive number is reached.
    have hone : (0 : ℚ) < unitsInOne := by exact_mod_cast unitsInOne_pos
    have hpower : ((-1074 : Int) + 1074).toNat = 0 := by decide
    have hunit : (2 : ℚ) ^ (-1074 : Int) * unitsInOne = 1 := by
      have hvalue := units_value (m := 1) (e := -1074) le_rfl
      rw [hpower, Nat.pow_zero, Nat.mul_one, Nat.cast_one, one_mul] at hvalue
      exact hvalue.symm
    have hleast : ((1 : Nat) : ℚ) * 2 ^ (-1074 : Int) ≤ (u - v : Nat) / unitsInOne := by
      have hq : (1 : ℚ) ≤ (u - v : Nat) := by exact_mod_cast Nat.sub_pos_of_lt hless
      rw [le_div_iff₀ hone, Nat.cast_one, one_mul, hunit]
      exact hq
    have hle := le_rounded unitsInOne_pos (by decide) le_rfl hleast
    rw [hpower, Nat.pow_zero, Nat.mul_one] at hle
    change (Quantity.whole (0 : Nat)).lt _ = true
    rw [whole_lt_real hunits, if_neg Bool.false_ne_true, decide_eq_true_eq]
    omega

end Shares

section Windows

variable {window : Quantity} {ratio : Binary64}

lemma lt_of_integer {n w : Int} (h : window.integer? = some w) :
    (Quantity.whole n).lt window = decide (n < w) := by
  cases window with
  | real x => contradiction
  | truth b => cases h; rfl
  | whole m => cases h; rfl

lemma sub_of_integer {n w : Int} (h : window.integer? = some w) :
    window.sub (.whole n) = .ok (.whole (w - n)) := by
  cases window with
  | real x => contradiction
  | truth b => cases h; rfl
  | whole m => cases h; rfl

lemma toReal_of_integer {w : Int} (h : window.integer? = some w) : window.toReal = ofInt w := by
  cases window with
  | real x => contradiction
  | truth b => cases h; rfl
  | whole m => cases h; rfl

lemma share_real (count : Quantity) (ratio : Binary64) :
    share count (.real ratio) = (do
      let x ← count.toReal.mapError .count
      (x * ratio).truncate.mapError .share) := by
  unfold share
  cases count <;> rfl

lemma positive_of_lt {x : Binary64} (h : (Quantity.whole 0).lt (.real x) = true) : Positive x := by
  cases x with
  | nan => contradiction
  | infinite negative =>
    cases negative with
    | true => contradiction
    | false => rfl
  | finite negative m e canonical =>
    change (Quantity.whole (0 : Nat)).lt _ = true at h
    rw [whole_lt_real rfl, decide_eq_true_eq, Nat.cast_zero, Int.zero_mul] at h
    exact decide_eq_true h

/-- A share of a window that is no floating point infinity can be computed if the window can be
written in floating point. It is less than the window, and the window less it is positive. -/
theorem share_of_window (hwindow : (Quantity.whole 0).lt window = true)
    (hfinite : window ≠ .real (.infinite false)) {x : Binary64} (hx : window.toReal = .ok x)
    (hratio : Positive ratio ∧ ratio.lt Lenient.one = true) :
    ∃ b : Nat, share window (.real ratio) = .ok b ∧ (Quantity.whole b).lt window = true ∧
      ∃ rest, window.sub (.whole b) = .ok rest ∧ (Quantity.whole 0).lt rest = true := by
  rw [share_real, hx]
  cases hinteger : window.integer? with
  | some w =>
    rw [lt_of_integer hinteger, decide_eq_true_eq] at hwindow
    obtain ⟨count, rfl⟩ := Int.eq_ofNat_of_zero_le hwindow.le
    rw [toReal_of_integer hinteger] at hx
    obtain ⟨b, hshare, hless⟩ := share_of_count (by omega) hx hratio
    refine ⟨b, ?_, ?_, .whole (count - b), sub_of_integer hinteger, ?_⟩
    · exact congrArg (Except.mapError ShareFault.share) hshare
    · rw [lt_of_integer hinteger, decide_eq_true_eq]
      exact_mod_cast hless
    · rw [Quantity.lt_whole, decide_eq_true_eq]
      omega
  | none =>
    cases window with
    | truth b => contradiction
    | whole n => contradiction
    | real z =>
      cases hx
      rcases units_of_positive (positive_of_lt hwindow) with rfl | ⟨u, hpos, hu⟩
      · exact absurd rfl hfinite
      · obtain ⟨b, hshare, hless, ⟨y, hy⟩, hrounded⟩ := share_of_real hu hpos hratio
        refine ⟨b, ?_, ?_, .real (x - y), ?_, sub_positive hu (units_ofInt hy) hrounded⟩
        · exact congrArg (Except.mapError ShareFault.share) hshare
        · rw [whole_lt_real hu, decide_eq_true_eq]
          exact_mod_cast hless
        · change (ofInt b >>= fun y => .ok (Quantity.real (x - y))) = _
          rw [hy]
          rfl

end Windows

end Condense.Proofs
