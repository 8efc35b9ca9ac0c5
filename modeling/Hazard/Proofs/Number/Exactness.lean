import Hazard.Proofs.Number.Rounding

/-!
# Natural numbers of 64 bits

A natural number is read without loss exactly if it has few enough significant bits and is not too
large.  Where it is rounded, what it is rounded to is near it.
-/

namespace Hazard.Binary64

/-- The natural number is a number of 64 bits. -/
def Fits (n : Nat) : Prop :=
  ∃ significand exponent : Nat, significand < Nat.pow 2 53 ∧ exponent ≤ 971 ∧
    n = significand * Nat.pow 2 exponent

/-! ## Comparison -/

theorem eqInt_infinite (negative : Bool) (n : Int) : (infinite negative).eqInt n = false := by
  cases negative <;> rfl

theorem eqInt_finite_iff (m : Nat) (e : Int) (n : Nat) :
    (finite false m e).eqInt n = true ↔ (m : ℚ) * 2 ^ e = n := by
  have pos : ((ratio m e).2 : ℚ) ≠ 0 := Nat.cast_ne_zero.mpr (ratio_pos m e).ne'
  rw [eqInt, compareInt?, ← ratio_value, div_eq_iff pos]
  simp only [Bool.false_eq_true, if_false, beq_iff_eq, Option.some.injEq, compare_eq_iff_eq]
  exact_mod_cast Iff.rfl

/-! ## What a natural number is rounded to -/

/-- The exponent that a ratio has before its significand is rounded. -/
def roundingExponent (n d : Nat) : Int := max leastExponent (floorLog2 n d - 52)

/-- The significand that a ratio is rounded to. -/
def roundedSignificand (n d : Nat) : Nat :=
  divideToEven (n * Nat.pow 2 (-roundingExponent n d).toNat)
    (d * Nat.pow 2 (roundingExponent n d).toNat)

theorem ofRatio_eq_finite {negative sign : Bool} {n d m : Nat} {e : Int} (nonzero : n ≠ 0)
    (rounded : ofRatio negative n d = finite sign m e) :
    sign = negative ∧ (m : ℚ) * 2 ^ e = roundedSignificand n d * 2 ^ roundingExponent n d := by
  rw [ofRatio, if_neg (by simpa using nonzero)] at rounded
  dsimp only at rounded
  rw [roundedSignificand, roundingExponent]
  split at rounded
  · rename_i carried
    split at rounded
    · contradiction
    · obtain ⟨rfl, rfl, rfl⟩ := finite.inj rounded
      rw [beq_iff_eq.mp carried, zpow_add_one₀ two_ne_zero]
      norm_num
      ring
  · split at rounded
    · contradiction
    · obtain ⟨rfl, rfl, rfl⟩ := finite.inj rounded
      exact ⟨rfl, rfl⟩

theorem lt_succ_divideToEven_mul {n d : Nat} (pos : 0 < d) : n < (divideToEven n d + 1) * d := by
  have quotient : n / d ≤ divideToEven n d := by
    rw [divideToEven]
    split
    · exact Nat.le_succ _
    · exact Nat.le_refl _
  calc
    n < (n / d + 1) * d := Nat.lt_mul_of_div_lt (Nat.lt_succ_self _) pos
    _ ≤ (divideToEven n d + 1) * d := Nat.mul_le_mul_right d (Nat.succ_le_succ quotient)

/-- A ratio exceeds what it is rounded to by less than one unit of the last place. -/
theorem lt_rounded_add {n d : Nat} (pos : 0 < d) :
    (n : ℚ) / d < (roundedSignificand n d + 1) * 2 ^ roundingExponent n d := by
  have bound := lt_succ_divideToEven_mul (n := n * Nat.pow 2 (-roundingExponent n d).toNat)
    (Nat.mul_pos pos (Nat.pow_pos Nat.two_pos) : 0 < d * Nat.pow 2 (roundingExponent n d).toNat)
  refine not_le.mp fun reached => absurd bound (not_lt.mpr ?_)
  refine (mul_zpow_le_iff pos (roundedSignificand n d + 1) (roundingExponent n d)).mp ?_
  push_cast
  exact reached

/-- A natural number exceeds what it is rounded to by a small part of it at most. -/
theorem lt_of_ofRatio_one {sign : Bool} {n m : Nat} {e : Int} (nonzero : n ≠ 0)
    (rounded : ofRatio false n 1 = finite sign m e) : (n : ℚ) < m * 2 ^ e + n / 2 ^ 52 := by
  have value_eq : (n : ℚ) / (1 : Nat) = n := by rw [Nat.cast_one, div_one]
  have pos : (0 : ℚ) < n := Nat.cast_pos.mpr (Nat.pos_of_ne_zero nonzero)
  have log_eq : floorLog2 n 1 = Int.log 2 (n : ℚ) := by
    rw [floorLog2_eq_log nonzero one_ne_zero, value_eq]
  have log_nonneg : 0 ≤ Int.log 2 (n : ℚ) := by
    rw [Int.log_natCast]
    exact Int.natCast_nonneg _
  have exponent_eq : roundingExponent n 1 = Int.log 2 (n : ℚ) - 52 := by
    rw [roundingExponent, log_eq, leastExponent]
    omega
  have unit_le : (2 : ℚ) ^ roundingExponent n 1 ≤ n / 2 ^ 52 := by
    have power_le := Int.zpow_log_le_self Nat.one_lt_two pos
    rw [exponent_eq, zpow_sub₀ two_ne_zero]
    rw [Nat.cast_ofNat] at power_le
    exact div_le_div_of_nonneg_right power_le (by positivity)
  have near := lt_rounded_add (n := n) Nat.one_pos
  rw [value_eq, add_mul, one_mul, ← (ofRatio_eq_finite nonzero rounded).2] at near
  exact near.trans_le (by gcongr)

/-! ## Decimals without a point -/

theorem ofDecimal_of_long {n : Nat} (long : 400 < (Nat.toDigits 10 n).length) :
    ofDecimal false n 0 = infinite false := by
  have nonzero : n ≠ 0 := by
    rintro rfl
    exact absurd long (by decide)
  have size : (400 : Int) < (Nat.toDigits 10 n).length := by exact_mod_cast long
  have small : ¬ ((Nat.toDigits 10 n).length : Int) < -400 := by omega
  simp [ofDecimal, nonzero, small, size]

theorem ofDecimal_of_short {n : Nat} (nonzero : n ≠ 0)
    (short : (Nat.toDigits 10 n).length ≤ 400) : ofDecimal false n 0 = ofRatio false n 1 := by
  rw [ofDecimal_eq_ofRatio false nonzero (by omega) (by omega)]
  simp

/-- A number with few enough bits has a form in which it is not rounded. -/
theorem exists_canonical {n : Nat} (nonzero : n ≠ 0) (fits : Fits n) :
    ∃ m e, (finite false m e).IsCanonical ∧ (m : ℚ) * 2 ^ e = n := by
  obtain ⟨significand, exponent, small, bounded, rfl⟩ := fits
  have positive : significand ≠ 0 := by
    rintro rfl
    exact nonzero (Nat.zero_mul _)
  simp only [Nat.pow_eq] at small
  have log_le : significand.log2 ≤ 52 := Nat.lt_succ_iff.mp ((Nat.log2_lt positive).mpr small)
  -- The significand is shifted until its first bit is the greatest one.
  obtain ⟨shift, shift_eq⟩ := Nat.exists_eq_add_of_le log_le
  refine ⟨significand * 2 ^ shift, exponent - shift, ⟨?_, ?_, ?_, .inl ?_⟩, ?_⟩
  · calc
      significand * 2 ^ shift < 2 ^ (significand.log2 + 1) * 2 ^ shift :=
        Nat.mul_lt_mul_of_pos_right Nat.lt_log2_self (Nat.pow_pos Nat.two_pos)
      _ = 2 ^ 53 := by
        rw [← Nat.pow_add]
        congr 1
        omega
  · rw [leastExponent]
    omega
  · rw [greatestExponent]
    omega
  · calc
      2 ^ 52 = 2 ^ significand.log2 * 2 ^ shift := by rw [← Nat.pow_add, ← shift_eq]
      _ ≤ significand * 2 ^ shift := Nat.mul_le_mul_right _ (Nat.log2_self_le positive)
  · rw [zpow_sub₀ two_ne_zero, zpow_natCast, zpow_natCast, Nat.pow_eq]
    push_cast
    field_simp

theorem fits_of_value {m n : Nat} {e : Int} (canonical : (finite false m e).IsCanonical)
    (value : (m : ℚ) * 2 ^ e = n) : Fits n := by
  obtain ⟨small, -, greatest, -⟩ := canonical
  rw [greatestExponent] at greatest
  obtain ⟨k, rfl | rfl⟩ := e.eq_nat_or_neg
  · refine ⟨m, k, small, by omega, ?_⟩
    rw [zpow_natCast] at value
    exact_mod_cast value.symm
  · refine ⟨n, 0, ?_, Nat.zero_le _, by simp⟩
    rw [zpow_neg, zpow_natCast, ← div_eq_mul_inv, div_eq_iff (by positivity)] at value
    have product : m = n * 2 ^ k := by exact_mod_cast value
    calc
      n ≤ n * 2 ^ k := Nat.le_mul_of_pos_right n (Nat.pow_pos Nat.two_pos)
      _ = m := product.symm
      _ < Nat.pow 2 53 := small

theorem length_toDigits_of_fits {n : Nat} (fits : Fits n) : (Nat.toDigits 10 n).length ≤ 400 := by
  obtain ⟨significand, exponent, small, bounded, rfl⟩ := fits
  rw [Nat.length_toDigits_le_iff (by decide) (by decide)]
  simp only [Nat.pow_eq] at small ⊢
  calc
    significand * 2 ^ exponent < 2 ^ 53 * 2 ^ exponent :=
      Nat.mul_lt_mul_of_pos_right small (Nat.pow_pos Nat.two_pos)
    _ ≤ 2 ^ 53 * 2 ^ 971 := Nat.mul_le_mul_left _ (Nat.pow_le_pow_right Nat.two_pos bounded)
    _ ≤ 10 ^ 400 := by decide +kernel

/-- A natural number is read without loss exactly if it is a number of 64 bits. -/
theorem eqInt_ofDecimal_self_iff (n : Nat) : (ofDecimal false n 0).eqInt n = true ↔ Fits n := by
  by_cases zero : n = 0
  · subst zero
    exact iff_of_true ((eqInt_finite_iff 0 leastExponent 0).mpr (by simp))
      ⟨0, 0, by decide, by decide, rfl⟩
  constructor
  · intro exact_eq
    rcases Nat.lt_or_ge 400 (Nat.toDigits 10 n).length with long | short
    · rw [ofDecimal_of_long long, eqInt_infinite] at exact_eq
      contradiction
    · have canonical := ofRatio_isCanonical false n Nat.one_pos
      rw [ofDecimal_of_short zero short] at exact_eq
      cases rounded : ofRatio false n 1 with
      | nan =>
          rw [rounded] at exact_eq
          contradiction
      | infinite negative =>
          rw [rounded, eqInt_infinite] at exact_eq
          contradiction
      | finite sign m e =>
          obtain ⟨rfl, -⟩ := ofRatio_eq_finite zero rounded
          rw [rounded] at exact_eq canonical
          exact fits_of_value canonical ((eqInt_finite_iff m e n).mp exact_eq)
  · intro fits
    obtain ⟨m, e, canonical, value⟩ := exists_canonical zero fits
    have same : n * (ratio m e).2 = (ratio m e).1 * 1 := by
      have pos : ((ratio m e).2 : ℚ) ≠ 0 := Nat.cast_ne_zero.mpr (ratio_pos m e).ne'
      rw [← ratio_value, div_eq_iff pos] at value
      rw [Nat.mul_one]
      exact_mod_cast value.symm
    rw [ofDecimal_of_short zero (length_toDigits_of_fits fits),
      ofRatio_congr false Nat.one_pos (ratio_pos m e) same, ofRatio_ratio canonical]
    exact (eqInt_finite_iff m e n).mpr value

/-- A natural number is not read as one that is smaller by a tenth. -/
theorem eqInt_ofDecimal_of_gap {n smaller : Nat} (nonzero : n ≠ 0) (gap : 10 * smaller ≤ 9 * n) :
    (ofDecimal false n 0).eqInt smaller = false := by
  rcases Nat.lt_or_ge 400 (Nat.toDigits 10 n).length with long | short
  · rw [ofDecimal_of_long long, eqInt_infinite]
  · rw [ofDecimal_of_short nonzero short]
    cases rounded : ofRatio false n 1 with
    | nan => rfl
    | infinite negative => exact eqInt_infinite negative smaller
    | finite sign m e =>
        obtain ⟨rfl, -⟩ := ofRatio_eq_finite nonzero rounded
        have near := lt_of_ofRatio_one nonzero rounded
        rw [Bool.eq_false_iff]
        intro exact_eq
        rw [eqInt_finite_iff] at exact_eq
        have pos : (0 : ℚ) < n := Nat.cast_pos.mpr (Nat.pos_of_ne_zero nonzero)
        have gap_cast : (10 : ℚ) * smaller ≤ 9 * n := by exact_mod_cast gap
        rw [exact_eq] at near
        linarith

end Hazard.Binary64
