import Hazard.Number.Shortest
import Mathlib.Data.Int.Log
import Mathlib.Data.Rat.Floor
import Mathlib.Algebra.Order.Field.Power
import Mathlib.Algebra.Order.Floor.Semifield
import Mathlib.Tactic.FieldSimp
import Mathlib.Tactic.Linarith
import Mathlib.Tactic.NormNum
import Mathlib.Tactic.Positivity
import Mathlib.Tactic.Ring

/-!
# Rounding to 64 bits

What a ratio is rounded to depends on its value alone.  A number of 64 bits is rounded to itself, and
whatever is rounded becomes such a number.  So the shortest decimal of a number reads back as the
number.
-/

namespace Hazard.Binary64

/-! ## Powers of two -/

/-- A ratio is compared with a multiple of a power of two in natural numbers. -/
theorem mul_zpow_le_iff {n d : Nat} (pos : 0 < d) (factor : Nat) (e : Int) :
    (factor : ℚ) * 2 ^ e ≤ (n : ℚ) / d ↔
      factor * (d * Nat.pow 2 e.toNat) ≤ n * Nat.pow 2 (-e).toNat := by
  have pos : (0 : ℚ) < d := Nat.cast_pos.mpr pos
  have power_pos (k : Nat) : (0 : ℚ) < 2 ^ k := by positivity
  rw [le_div_iff₀ pos, ← @Nat.cast_le ℚ]
  simp only [Nat.pow_eq, Nat.cast_mul, Nat.cast_pow, Nat.cast_ofNat]
  obtain ⟨k, rfl | rfl⟩ := e.eq_nat_or_neg
  · rw [Int.toNat_natCast, Int.toNat_neg_natCast, zpow_natCast, pow_zero, mul_one, mul_right_comm,
      mul_assoc]
  · rw [Int.toNat_neg_natCast, neg_neg, Int.toNat_natCast, zpow_neg, zpow_natCast, pow_zero, mul_one,
      ← div_eq_mul_inv, div_mul_eq_mul_div, div_le_iff₀ (power_pos k)]

theorem log_eq {q : ℚ} (pos : 0 < q) {k : Int} (lower : 2 ^ k ≤ q) (upper : q < 2 ^ (k + 1)) :
    Int.log 2 q = k := by
  have le := (Int.zpow_le_iff_le_log Nat.one_lt_two pos).mp lower
  have lt := (Int.lt_zpow_iff_log_lt Nat.one_lt_two pos).mp upper
  omega

/-- The numbers of bits of a numerator and a denominator tell the logarithm up to one. -/
theorem log2_sub_log2_bounds {n d : Nat} (hn : n ≠ 0) (hd : d ≠ 0) :
    (2 : ℚ) ^ ((n.log2 : Int) - d.log2 - 1) ≤ (n : ℚ) / d ∧
      (n : ℚ) / d < 2 ^ ((n.log2 : Int) - d.log2 + 1) := by
  have pos : (0 : ℚ) < d := Nat.cast_pos.mpr (Nat.pos_of_ne_zero hd)
  have n_lower : (2 : ℚ) ^ n.log2 ≤ n := by exact_mod_cast Nat.log2_self_le hn
  have n_upper : (n : ℚ) < 2 ^ (n.log2 + 1) := by exact_mod_cast Nat.lt_log2_self
  have d_lower : (2 : ℚ) ^ d.log2 ≤ d := by exact_mod_cast Nat.log2_self_le hd
  have d_upper : (d : ℚ) < 2 ^ (d.log2 + 1) := by exact_mod_cast Nat.lt_log2_self
  have two : (2 : ℚ) ≠ 0 := two_ne_zero
  constructor
  · rw [le_div_iff₀ pos]
    calc (2 : ℚ) ^ ((n.log2 : Int) - d.log2 - 1) * d
        ≤ 2 ^ ((n.log2 : Int) - d.log2 - 1) * 2 ^ (d.log2 + 1) := by gcongr
      _ = 2 ^ n.log2 := by
          rw [← zpow_natCast, ← zpow_natCast, ← zpow_add₀ two]
          congr 1
          push_cast
          ring
      _ ≤ n := n_lower
  · rw [div_lt_iff₀ pos]
    calc (n : ℚ) < 2 ^ (n.log2 + 1) := n_upper
      _ = 2 ^ ((n.log2 : Int) - d.log2 + 1) * 2 ^ d.log2 := by
          rw [← zpow_natCast, ← zpow_natCast, ← zpow_add₀ two]
          congr 1
          push_cast
          ring
      _ ≤ 2 ^ ((n.log2 : Int) - d.log2 + 1) * d := by gcongr

theorem floorLog2_eq_log {n d : Nat} (hn : n ≠ 0) (hd : d ≠ 0) :
    floorLog2 n d = Int.log 2 ((n : ℚ) / d) := by
  have pos : (0 : ℚ) < (n : ℚ) / d :=
    div_pos (Nat.cast_pos.mpr (Nat.pos_of_ne_zero hn)) (Nat.cast_pos.mpr (Nat.pos_of_ne_zero hd))
  obtain ⟨lower, upper⟩ := log2_sub_log2_bounds hn hd
  have compare := mul_zpow_le_iff (n := n) (Nat.pos_of_ne_zero hd) 1 (n.log2 - d.log2)
  rw [Nat.cast_one, one_mul, one_mul] at compare
  rw [floorLog2]
  split
  · rename_i reached
    exact (log_eq pos (compare.mpr reached) upper).symm
  · rename_i missed
    have below := not_le.mp fun reached => missed (compare.mp reached)
    refine (log_eq pos lower ?_).symm
    rwa [sub_add_cancel]

/-! ## Rounding to an integer -/

theorem divideToEven_mul_left {k : Nat} (pos : 0 < k) (n d : Nat) :
    divideToEven (k * n) (k * d) = divideToEven n d := by
  have twice : 2 * (k * n % (k * d)) = k * (2 * (n % d)) := by
    rw [Nat.mul_mod_mul_left, Nat.mul_left_comm]
  rw [divideToEven, divideToEven, twice, Nat.mul_div_mul_left n d pos]
  simp only [Nat.mul_lt_mul_left pos, beq_eq_decide, Nat.mul_right_inj pos.ne']

/-- The rounded quotient depends on the value of the ratio alone. -/
theorem divideToEven_congr {n d n' d' : Nat} (pos : 0 < d) (pos' : 0 < d')
    (same : n * d' = n' * d) : divideToEven n d = divideToEven n' d' := by
  rw [← divideToEven_mul_left pos' n d, ← divideToEven_mul_left pos n' d', Nat.mul_comm d' n, same,
    Nat.mul_comm n' d, Nat.mul_comm d d']

theorem divideToEven_mul_self {d : Nat} (pos : 0 < d) (n : Nat) : divideToEven (n * d) d = n := by
  simp [divideToEven, Nat.mul_div_cancel n pos, pos.ne]

theorem le_divideToEven {bound n d : Nat} (pos : 0 < d) (le : bound * d ≤ n) :
    bound ≤ divideToEven n d := by
  have quotient : bound ≤ n / d := (Nat.le_div_iff_mul_le pos).mpr le
  rw [divideToEven]
  split
  · exact Nat.le_succ_of_le quotient
  · exact quotient

theorem divideToEven_le {bound n d : Nat} (lt : n < bound * d) : divideToEven n d ≤ bound := by
  have quotient : n / d < bound := Nat.div_lt_of_lt_mul (Nat.mul_comm d bound ▸ lt)
  rw [divideToEven]
  split
  · exact quotient
  · exact quotient.le

/-! ## Rounding to a number of 64 bits -/

/-- What a ratio is rounded to depends on its value alone. -/
theorem ofRatio_congr (negative : Bool) {n d n' d' : Nat} (pos : 0 < d) (pos' : 0 < d')
    (same : n * d' = n' * d) : ofRatio negative n d = ofRatio negative n' d' := by
  by_cases zero : n = 0
  · obtain rfl : n' = 0 := by
      rw [zero, Nat.zero_mul] at same
      exact (Nat.mul_eq_zero.mp same.symm).resolve_right pos.ne'
    rw [zero, ofRatio, ofRatio]
    rfl
  · have zero' : n' ≠ 0 := by
      rintro rfl
      rw [Nat.zero_mul] at same
      exact zero ((Nat.mul_eq_zero.mp same).resolve_right pos'.ne')
    have value_eq : (n : ℚ) / d = n' / d' := by
      rw [div_eq_div_iff (by positivity) (by positivity)]
      exact_mod_cast same
    have log_same : floorLog2 n d = floorLog2 n' d' := by
      rw [floorLog2_eq_log zero pos.ne', floorLog2_eq_log zero' pos'.ne', value_eq]
    have significand_same (e : Int) :
        divideToEven (n * Nat.pow 2 (-e).toNat) (d * Nat.pow 2 e.toNat) =
          divideToEven (n' * Nat.pow 2 (-e).toNat) (d' * Nat.pow 2 e.toNat) := by
      refine divideToEven_congr (Nat.mul_pos pos (Nat.pow_pos Nat.two_pos))
        (Nat.mul_pos pos' (Nat.pow_pos Nat.two_pos)) ?_
      rw [Nat.mul_mul_mul_comm, same, Nat.mul_mul_mul_comm]
    simp only [ofRatio, beq_iff_eq, zero, zero', if_false, log_same, significand_same]

theorem ratio_pos (m : Nat) (e : Int) : 0 < (ratio m e).2 := Nat.pow_pos Nat.two_pos

theorem ratio_value (m : Nat) (e : Int) : ((ratio m e).1 : ℚ) / (ratio m e).2 = m * 2 ^ e := by
  rw [ratio]
  obtain ⟨k, rfl | rfl⟩ := e.eq_nat_or_neg
  · simp
  · simp [div_eq_mul_inv]

theorem significand_le {n d : Nat} (hn : n ≠ 0) (pos : 0 < d) {e : Int}
    (log_le : floorLog2 n d ≤ e + 52) :
    divideToEven (n * Nat.pow 2 (-e).toNat) (d * Nat.pow 2 e.toNat) ≤ Nat.pow 2 53 := by
  refine divideToEven_le (Nat.lt_of_not_le fun reached => ?_)
  have value_ge := (mul_zpow_le_iff pos (Nat.pow 2 53) e).mpr reached
  have value_pos : (0 : ℚ) < (n : ℚ) / d := by positivity
  have power_eq : ((Nat.pow 2 53 : Nat) : ℚ) * 2 ^ e = 2 ^ (e + 53) := by
    rw [zpow_add₀ two_ne_zero, mul_comm]
    norm_num
  rw [power_eq] at value_ge
  have log_ge := (Int.zpow_le_iff_le_log Nat.one_lt_two value_pos).mp value_ge
  rw [floorLog2_eq_log hn pos.ne'] at log_le
  omega

theorem le_significand {n d : Nat} (hn : n ≠ 0) (pos : 0 < d) {e : Int}
    (le_log : e + 52 ≤ floorLog2 n d) :
    Nat.pow 2 52 ≤ divideToEven (n * Nat.pow 2 (-e).toNat) (d * Nat.pow 2 e.toNat) := by
  refine le_divideToEven (Nat.mul_pos pos (Nat.pow_pos Nat.two_pos)) ?_
  rw [← mul_zpow_le_iff pos]
  have value_pos : (0 : ℚ) < (n : ℚ) / d := by positivity
  have power_eq : ((Nat.pow 2 52 : Nat) : ℚ) * 2 ^ e = 2 ^ (e + 52) := by
    rw [zpow_add₀ two_ne_zero, mul_comm]
    norm_num
  rw [power_eq]
  rw [floorLog2_eq_log hn pos.ne'] at le_log
  exact (Int.zpow_le_iff_le_log Nat.one_lt_two value_pos).mpr le_log

/-- Whatever is rounded becomes a number of 64 bits in its one form. -/
theorem ofRatio_isCanonical (negative : Bool) (n : Nat) {d : Nat} (pos : 0 < d) :
    (ofRatio negative n d).IsCanonical := by
  rw [ofRatio]
  split
  · exact ⟨by decide, le_refl _, by decide, .inr rfl⟩
  · rename_i zero
    have hn : n ≠ 0 := by simpa using zero
    set e := max leastExponent (floorLog2 n d - 52) with e_eq
    have least : leastExponent ≤ e := le_max_left _ _
    have upper := significand_le hn pos (by omega : floorLog2 n d ≤ e + 52)
    have lower : e = leastExponent ∨ Nat.pow 2 52 ≤
        divideToEven (n * Nat.pow 2 (-e).toNat) (d * Nat.pow 2 e.toNat) := by
      rcases le_total (floorLog2 n d - 52) leastExponent with small | large
      · exact .inl (max_eq_left small)
      · have := max_eq_right large
        exact .inr (le_significand hn pos (by omega))
    dsimp only
    split
    · split
      · trivial
      · rename_i bounded
        have small : Nat.pow 2 52 < Nat.pow 2 53 := by decide
        exact ⟨small, by omega, not_lt.mp bounded, .inl (le_refl _)⟩
    · rename_i differs
      split
      · trivial
      · rename_i bounded
        have ne : divideToEven (n * Nat.pow 2 (-e).toNat) (d * Nat.pow 2 e.toNat) ≠ Nat.pow 2 53 := by
          simpa using differs
        exact ⟨lt_of_le_of_ne upper ne, least, not_lt.mp bounded, lower.symm⟩

/-- A number of 64 bits is rounded to itself. -/
theorem ofRatio_ratio {negative : Bool} {m : Nat} {e : Int}
    (canonical : (finite negative m e).IsCanonical) :
    ofRatio negative (ratio m e).1 (ratio m e).2 = finite negative m e := by
  obtain ⟨small, least, greatest, normal⟩ := canonical
  by_cases zero : m = 0
  · obtain rfl : e = leastExponent := normal.resolve_left (by rw [zero]; decide)
    subst zero
    rfl
  · have nonzero : (ratio m e).1 ≠ 0 := Nat.mul_ne_zero zero (Nat.pow_pos Nat.two_pos).ne'
    have m_pos : (0 : ℚ) < m := Nat.cast_pos.mpr (Nat.pos_of_ne_zero zero)
    have value_pos : (0 : ℚ) < m * 2 ^ e := by positivity
    have log_eq : floorLog2 (ratio m e).1 (ratio m e).2 = Int.log 2 ((m : ℚ) * 2 ^ e) := by
      rw [floorLog2_eq_log nonzero (ratio_pos m e).ne', ratio_value]
    have log_lt : Int.log 2 ((m : ℚ) * 2 ^ e) < 53 + e := by
      rw [← Int.lt_zpow_iff_log_lt Nat.one_lt_two value_pos, Nat.cast_ofNat, zpow_add₀ two_ne_zero]
      have : (m : ℚ) < 2 ^ (53 : Int) := by exact_mod_cast small
      gcongr
    have exponent_eq : max leastExponent (Int.log 2 ((m : ℚ) * 2 ^ e) - 52) = e := by
      rcases normal with normal | rfl
      · have le_log : 52 + e ≤ Int.log 2 ((m : ℚ) * 2 ^ e) := by
          rw [← Int.zpow_le_iff_le_log Nat.one_lt_two value_pos, Nat.cast_ofNat,
            zpow_add₀ two_ne_zero]
          have : (2 : ℚ) ^ (52 : Int) ≤ m := by exact_mod_cast normal
          gcongr
        omega
      · omega
    have significand_eq : divideToEven ((ratio m e).1 * Nat.pow 2 (-e).toNat)
        ((ratio m e).2 * Nat.pow 2 e.toNat) = m := by
      rw [ratio, Nat.mul_assoc, Nat.mul_comm (Nat.pow 2 e.toNat)]
      exact divideToEven_mul_self
        (Nat.mul_pos (Nat.pow_pos Nat.two_pos) (Nat.pow_pos Nat.two_pos)) m
    simp only [ofRatio, beq_iff_eq, nonzero, if_false, log_eq, exponent_eq, significand_eq, small.ne,
      not_lt.mpr greatest]

/-! ## Decimals -/

theorem ofRatio_negated (n d : Nat) : ofRatio true n d = (ofRatio false n d).negated := by
  rw [ofRatio, ofRatio]
  split
  · rfl
  · dsimp only
    split
    · split
      · rfl
      · rfl
    · split
      · rfl
      · rfl

theorem ofDecimal_negated (digits : Nat) (power : Int) :
    ofDecimal true digits power = (ofDecimal false digits power).negated := by
  rw [ofDecimal, ofDecimal]
  split
  · rfl
  · split
    · rfl
    · exact ofRatio_negated _ _

/-- The sign of a decimal is the sign of its number. -/
theorem ofDecimal_eq_finite {digits m : Nat} {power e : Int}
    (read : ofDecimal false digits power = finite false m e) (negative : Bool) :
    ofDecimal negative digits power = finite negative m e := by
  cases negative with
  | false => exact read
  | true => rw [ofDecimal_negated, read, negated, Bool.not_false]

theorem ofDecimal_isCanonical (negative : Bool) (digits : Nat) (power : Int) :
    (ofDecimal negative digits power).IsCanonical := by
  rw [ofDecimal]
  split
  · exact ⟨by decide, le_refl _, by decide, .inr rfl⟩
  · split
    · trivial
    · exact ofRatio_isCanonical negative _ (Nat.pow_pos (by decide))

theorem length_toDigits_mul_ten {n : Nat} (pos : n ≠ 0) :
    (Nat.toDigits 10 (n * 10)).length = (Nat.toDigits 10 n).length + 1 := by
  rw [Nat.toDigits_of_base_le (by decide) (by omega : 10 ≤ n * 10), List.length_append,
    Nat.mul_div_cancel n (by decide)]
  rfl

/-- A zero after the digits is one power of ten. -/
theorem ofDecimal_mul_ten (negative : Bool) (digits : Nat) (power : Int) :
    ofDecimal negative (digits * 10) power = ofDecimal negative digits (power + 1) := by
  by_cases zero : digits = 0
  · subst zero
    rfl
  · have size_eq : ((Nat.toDigits 10 (digits * 10)).length : Int) + power =
        (Nat.toDigits 10 digits).length + (power + 1) := by
      rw [length_toDigits_mul_ten zero]
      push_cast
      ring
    have ratio_eq : ofRatio negative (digits * 10 * Nat.pow 10 power.toNat)
          (Nat.pow 10 (-power).toNat) =
        ofRatio negative (digits * Nat.pow 10 (power + 1).toNat)
          (Nat.pow 10 (-(power + 1)).toNat) := by
      refine ofRatio_congr negative (Nat.pow_pos (by decide)) (Nat.pow_pos (by decide)) ?_
      simp only [Nat.pow_eq]
      rw [Nat.mul_assoc digits, ← Nat.pow_succ', Nat.mul_assoc, Nat.mul_assoc, ← Nat.pow_add,
        ← Nat.pow_add]
      congr 2
      omega
    have nonzero : digits * 10 ≠ 0 := Nat.mul_ne_zero zero (by decide)
    simp only [ofDecimal, beq_eq_false_iff_ne.mpr zero, beq_eq_false_iff_ne.mpr nonzero, size_eq,
      ratio_eq]

theorem ofDecimal_mul_pow (negative : Bool) (digits count : Nat) (power : Int) :
    ofDecimal negative (digits * Nat.pow 10 count) power =
      ofDecimal negative digits (power + count) := by
  induction count generalizing power with
  | zero => simp
  | succ count ih =>
      rw [Nat.pow_eq, Nat.pow_succ, ← Nat.mul_assoc, ofDecimal_mul_ten, ← Nat.pow_eq, ih]
      congr 1
      push_cast
      ring

theorem ofDecimal_dropZeros (negative : Bool) (fuel : Nat) (d : Decimal) :
    ofDecimal negative (d.dropZeros fuel).digits (d.dropZeros fuel).power =
      ofDecimal negative d.digits d.power := by
  induction fuel generalizing d with
  | zero => rfl
  | succ fuel ih =>
      rw [Decimal.dropZeros]
      split
      · rename_i ends
        have divisible : d.digits / 10 * 10 = d.digits := by
          have : d.digits % 10 = 0 := by simpa using (Bool.and_eq_true_iff.mp ends).2
          omega
        rw [ih, ← ofDecimal_mul_ten, divisible]
      · rfl

theorem ofDecimal_eq_ofRatio (negative : Bool) {digits : Nat} {power : Int} (nonzero : digits ≠ 0)
    (lower : -400 ≤ ((Nat.toDigits 10 digits).length : Int) + power)
    (upper : ((Nat.toDigits 10 digits).length : Int) + power ≤ 400) :
    ofDecimal negative digits power =
      ofRatio negative (digits * Nat.pow 10 power.toNat) (Nat.pow 10 (-power).toNat) := by
  simp [ofDecimal, nonzero, not_lt.mpr lower, not_lt.mpr upper]

/-- The number of digits of a multiple of a power of five, from both sides. -/
theorem length_toDigits_mul_five_pow {m k : Nat} (nonzero : m ≠ 0) (small : m < 2 ^ 53)
    (le : k ≤ 1074) : (Nat.toDigits 10 (m * 5 ^ k)).length ≤ 400 + k ∧
      k < (Nat.toDigits 10 (m * 5 ^ k)).length + 400 := by
  have digits_lt : m * 5 ^ k < 10 ^ (400 + k) := calc
    m * 5 ^ k < 2 ^ 53 * 5 ^ k := Nat.mul_lt_mul_of_pos_right small (Nat.pow_pos (by decide))
    _ ≤ 10 ^ 400 * 10 ^ k := by gcongr <;> decide
    _ = 10 ^ (400 + k) := by rw [Nat.pow_add]
  refine ⟨(Nat.length_toDigits_le_iff (by decide) (by omega)).mpr digits_lt, ?_⟩
  have lt_length := (Nat.length_toDigits_le_iff (by decide) Nat.length_toDigits_pos).mp
    (le_refl (Nat.toDigits 10 (m * 5 ^ k)).length)
  refine (Nat.pow_lt_pow_iff_right (a := 10) (by decide)).mp ?_
  calc 10 ^ k = 5 ^ k * 2 ^ k := by rw [← Nat.mul_pow]
    _ ≤ m * 5 ^ k * 10 ^ 400 :=
        Nat.mul_le_mul (Nat.le_mul_of_pos_left _ (Nat.pos_of_ne_zero nonzero))
          ((Nat.pow_le_pow_right Nat.two_pos le).trans (by decide +kernel))
    _ < 10 ^ (Nat.toDigits 10 (m * 5 ^ k)).length * 10 ^ 400 :=
        Nat.mul_lt_mul_of_pos_right lt_length (by positivity)
    _ = 10 ^ ((Nat.toDigits 10 (m * 5 ^ k)).length + 400) := by rw [Nat.pow_add]

/-- The decimal that equals a number reads back as the number. -/
theorem ofDecimal_exactDecimal {negative : Bool} {m : Nat} {e : Int} (nonzero : m ≠ 0)
    (canonical : (finite negative m e).IsCanonical) :
    ofDecimal negative (exactDecimal m e).digits (exactDecimal m e).power =
      finite negative m e := by
  have exact_ratio := ofRatio_ratio canonical
  obtain ⟨small, least, greatest, -⟩ := canonical
  simp only [Nat.pow_eq] at small
  rw [leastExponent] at least
  rw [greatestExponent] at greatest
  rcases le_or_gt 0 e with nonneg | negative_e
  · obtain ⟨k, rfl⟩ := Int.eq_ofNat_of_zero_le nonneg
    have digits_lt : m * 2 ^ k < 10 ^ 400 := calc
      m * 2 ^ k < 2 ^ 53 * 2 ^ k := Nat.mul_lt_mul_of_pos_right small (Nat.pow_pos Nat.two_pos)
      _ ≤ 2 ^ 53 * 2 ^ 971 := by gcongr <;> omega
      _ ≤ 10 ^ 400 := by decide +kernel
    have length_le := (Nat.length_toDigits_le_iff (by decide) (by decide)).mpr digits_lt
    have digits_ne : m * 2 ^ k ≠ 0 := Nat.mul_ne_zero nonzero (Nat.pow_pos Nat.two_pos).ne'
    rw [exactDecimal, if_pos nonneg]
    simp only [Int.toNat_natCast, Nat.pow_eq]
    rw [ofDecimal_eq_ofRatio negative digits_ne (by omega) (by omega), ← exact_ratio]
    refine ofRatio_congr negative (Nat.pow_pos (by decide)) (ratio_pos m k) ?_
    simp [ratio]
  · obtain ⟨k, rfl⟩ := Int.exists_eq_neg_ofNat negative_e.le
    have digits_ne : m * 5 ^ k ≠ 0 := Nat.mul_ne_zero nonzero (Nat.pow_pos (by decide)).ne'
    obtain ⟨length_le, le_length⟩ :=
      length_toDigits_mul_five_pow nonzero small (by omega : k ≤ 1074)
    rw [exactDecimal, if_neg (not_le.mpr negative_e)]
    simp only [neg_neg, Int.toNat_natCast, Nat.pow_eq]
    rw [ofDecimal_eq_ofRatio negative digits_ne (by omega) (by omega), ← exact_ratio]
    refine ofRatio_congr negative (Nat.pow_pos (by decide)) (ratio_pos m (-k)) ?_
    simp only [ratio, neg_neg, Int.toNat_natCast, Int.toNat_neg_natCast, Nat.pow_eq, pow_zero,
      mul_one]
    rw [Nat.mul_assoc, ← Nat.mul_pow]

theorem readsBack_of_shortestFrom {m numerator denominator fuel : Nat} {e power : Int} {d : Decimal}
    (found : shortestFrom m e numerator denominator fuel power = some d) : readsBack m e d := by
  induction fuel generalizing power with
  | zero => contradiction
  | succ fuel ih =>
      rw [shortestFrom] at found
      split at found
      · rename_i first_eq
        obtain rfl := Option.some.inj found
        exact List.find?_some first_eq
      · exact ih found

/-- The shortest decimal of a number reads back as the number. -/
theorem ofDecimal_shortest {negative : Bool} {m : Nat} {e : Int} (nonzero : m ≠ 0)
    (canonical : (finite negative m e).IsCanonical) :
    ofDecimal negative (shortest m e).digits (shortest m e).power = finite negative m e := by
  rw [shortest, ofDecimal_dropZeros]
  cases found : shortestFrom m e (ratio m e).1 (ratio m e).2 17
      (floorLog10 (ratio m e).1 (ratio m e).2) with
  | none => exact ofDecimal_exactDecimal nonzero canonical
  | some d =>
      have read := readsBack_of_shortestFrom found
      rw [readsBack, beq_iff_eq] at read
      exact ofDecimal_eq_finite read negative

theorem shortest_digits_ne_zero {negative : Bool} {m : Nat} {e : Int} (nonzero : m ≠ 0)
    (canonical : (finite negative m e).IsCanonical) : (shortest m e).digits ≠ 0 := by
  intro zero
  have read := ofDecimal_shortest nonzero canonical
  rw [zero] at read
  exact nonzero (finite.inj read).2.1.symm

end Hazard.Binary64
