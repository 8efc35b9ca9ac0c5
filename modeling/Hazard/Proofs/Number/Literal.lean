import Hazard.Proofs.Data.Parts
import Mathlib.Data.List.Infix

/-!
# Literals that cannot be shown

A value is shown unless it is an integer with too many digits.  A literal of such a value is not
decimal, since decimal texts of that length are not read as integers, and a decimal of 64 bits is never
that large.  If the integer is not negative, it deserves a name.
-/

namespace Hazard
namespace Numeral

/-- The integer has too many digits to be shown. -/
def IsOverlong (n : Int) : Prop := digitLimit < (Nat.toDigits 10 n.natAbs).length

instance (n : Int) : Decidable (IsOverlong n) :=
  inferInstanceAs (Decidable (digitLimit < (Nat.toDigits 10 n.natAbs).length))

/-- The text of a literal without separators and the mark of big integers, in plain characters. -/
def plainText (text : List Char) : List Char :=
  let joined := text.filter (· != '_')
  (if joined.getLast? == some 'n' then joined.dropLast else joined).map plainCharacter

/-- The text starts as a number does: with a digit or a point. -/
def StartsPlain (text : List Char) : Prop := ∀ c ∈ text.head?, c.isDigit = true ∨ c = '.'

/-- The marks of bases other than ten. -/
def baseMarks : List Char := ['x', 'X', 'o', 'O', 'b', 'B']

/-! ## Sizes -/

theorem lt_length_toDigits_iff {limit n : Nat} (positive : 0 < limit) :
    limit < (Nat.toDigits 10 n).length ↔ Nat.pow 10 limit ≤ n := by
  rw [← Nat.not_le, Nat.length_toDigits_le_iff (by decide) positive, Nat.not_lt]
  rfl

theorem pow_ten_le {small large : Nat} (le : small ≤ large) : Nat.pow 10 small ≤ Nat.pow 10 large :=
  Nat.pow_le_pow_right (by decide) le

theorem isOverlong_iff {n : Int} : IsOverlong n ↔ Nat.pow 10 digitLimit ≤ n.natAbs :=
  lt_length_toDigits_iff (by decide)

theorem not_isOverlong_of_lt {n : Int} {size : Nat} (small : n.natAbs < Nat.pow 10 size)
    (within : size ≤ digitLimit) : ¬ IsOverlong n := by
  rw [isOverlong_iff, Nat.not_le]
  exact small.trans_le (pow_ten_le within)

theorem IsOverlong.lt {n : Int} (overlong : IsOverlong n) : 10000 < n.natAbs := by
  have large : Nat.pow 10 5 ≤ n.natAbs :=
    (pow_ten_le (by decide : 5 ≤ digitLimit)).trans (isOverlong_iff.mp overlong)
  have start : 10000 < Nat.pow 10 5 := by decide
  exact start.trans_le large

theorem foldl_digitValue?_none (base : Nat) (text : List Char) :
    text.foldl (fun acc c => acc.bind fun n => (digitValue? base c).map (n * base + ·)) none =
      none := by
  induction text with
  | nil => rfl
  | cons c text ih => exact ih

theorem digitValue?_lt {base value : Nat} {c : Char} (digit : digitValue? base c = some value) :
    value < base := by
  rw [digitValue?] at digit
  simpa using (Option.filter_eq_some_iff.mp digit).2

theorem foldl_digitValue?_lt {base start n : Nat} {text : List Char}
    (read : text.foldl (fun acc c => acc.bind fun n => (digitValue? base c).map (n * base + ·))
      (some start) = some n) : n < (start + 1) * Nat.pow base text.length := by
  induction text generalizing start with
  | nil =>
      obtain rfl := Option.some.inj read
      simp
  | cons c text ih =>
      rw [List.foldl_cons, Option.bind_some] at read
      cases digit : digitValue? base c with
      | none =>
          rw [digit, Option.map_none, foldl_digitValue?_none] at read
          contradiction
      | some value =>
          rw [digit, Option.map_some] at read
          have value_lt := digitValue?_lt digit
          have next_le : start * base + value + 1 ≤ (start + 1) * base := by
            rw [Nat.succ_mul]
            omega
          calc
            n < (start * base + value + 1) * Nat.pow base text.length := ih read
            _ ≤ (start + 1) * base * Nat.pow base text.length := Nat.mul_le_mul_right _ next_le
            _ = (start + 1) * Nat.pow base (c :: text).length := by
              rw [List.length_cons, Nat.mul_assoc, Nat.mul_comm base]
              rfl

/-- A number is below the power of its base that its digits allow. -/
theorem natural?_lt {base n : Nat} {text : List Char} (read : natural? base text = some n) :
    n < Nat.pow base text.length := by
  rw [natural?] at read
  split at read
  · contradiction
  · simpa using foldl_digitValue?_lt read

/-! ## Reading -/

/-- Only a text with the mark of another base is read as an integer with too many digits. -/
theorem exists_mark_of_magnitude? {text : List Char} {n : Nat} (read : magnitude? text = some n)
    (overlong : IsOverlong n) : ∃ mark ∈ baseMarks, ∃ digits, text = '0' :: mark :: digits := by
  have short {digits : List Char} (natural : natural? 10 digits = some n)
      (within : digits.length ≤ digitLimit) : False :=
    not_isOverlong_of_lt (by simpa using natural?_lt natural) within overlong
  rw [magnitude?.eq_def] at read
  split at read
  · rename_i mark digits
    by_cases marked : mark ∈ baseMarks
    · exact ⟨mark, marked, digits, rfl⟩
    · simp only [baseMarks, List.mem_cons, List.not_mem_nil, or_false, not_or] at marked
      obtain ⟨x, X, o, O, b, B⟩ := marked
      simp only [beq_iff_eq, Bool.or_eq_true, x, X, o, O, b, B, or_self, if_false] at read
      split at read
      · contradiction
      · obtain ⟨natural, -⟩ := Option.filter_eq_some_iff.mp read
        refine (short natural ?_).elim
        rw [List.length_cons]
        omega
  · split at read
    · contradiction
    · exact (short read (by omega)).elim

theorem exists_magnitude_of_integer? {text : List Char} {n : Int} (read : integer? text = some n) :
    ∃ m, magnitude? (takeSign (trim text)).2 = some m ∧
      n = if (takeSign (trim text)).1 then -(m : Int) else m := by
  rw [integer?] at read
  obtain ⟨value, converted, value_eq⟩ := Option.map_eq_some_iff.mp read
  obtain ⟨m, magnitude, cast_eq⟩ := Option.bind_eq_some_iff.mp converted
  obtain rfl := Option.some.inj cast_eq
  exact ⟨m, magnitude, value_eq.symm⟩

theorem exists_mark_of_integer? {text : List Char} {n : Int} (read : integer? text = some n)
    (overlong : IsOverlong n) :
    ∃ mark ∈ baseMarks, ∃ digits, (takeSign (trim text)).2 = '0' :: mark :: digits := by
  obtain ⟨m, magnitude, rfl⟩ := exists_magnitude_of_integer? read
  refine exists_mark_of_magnitude? magnitude ?_
  rw [IsOverlong] at overlong ⊢
  split at overlong
  · rwa [Int.natAbs_neg] at overlong
  · exact overlong

theorem nonneg_of_integer? {text : List Char} {n : Int} (unsigned : (trim text).head? ≠ some '-')
    (read : integer? text = some n) : 0 ≤ n := by
  obtain ⟨m, -, rfl⟩ := exists_magnitude_of_integer? read
  have positive : (takeSign (trim text)).1 = false := by
    rw [takeSign.eq_def]
    split
    · rename_i minus
      rw [minus] at unsigned
      exact absurd rfl unsigned
    · rfl
    · rfl
  rw [positive, if_neg Bool.false_ne_true]
  exact Int.natCast_nonneg m

theorem ofLiteral?_eq (text : List Char) :
    ofLiteral? text =
      ((integer? (plainText text)).map .whole).or ((real? (plainText text)).map .real) := by
  unfold ofLiteral? plainText
  dsimp only
  split
  · rename_i read
    rw [read]
    rfl
  · rename_i unread
    rw [unread]
    rfl

theorem ofLiteral?_eq_whole_iff {text : List Char} {n : Int} :
    ofLiteral? text = some (.whole n) ↔ integer? (plainText text) = some n := by
  rw [ofLiteral?_eq]
  cases integer? (plainText text) with
  | some m => simp
  | none => simp

theorem isCanonical_of_ofLiteral? {text : List Char} {x : Binary64}
    (read : ofLiteral? text = some (.real x)) : x.IsCanonical := by
  rw [ofLiteral?_eq] at read
  cases whole : integer? (plainText text) with
  | some m => simp [whole] at read
  | none =>
      rw [whole, Option.map_none, Option.none_or] at read
      obtain ⟨y, real, same⟩ := Option.map_eq_some_iff.mp read
      exact Numeral.real.inj same ▸ Read.isCanonical_of_real? real

/-- A text that starts as a number does is not read as a negative integer. -/
theorem head?_trim_plainText {text : List Char} (starts : StartsPlain text) :
    (trim (plainText text)).head? ≠ some '-' := by
  cases text with
  | nil => decide
  | cons c rest =>
      have range : 46 ≤ c.toNat ∧ c.toNat ≤ 57 := by
        rcases starts c rfl with digit | rfl
        · simp only [Char.isDigit, Bool.and_eq_true, decide_eq_true_eq] at digit
          exact ⟨Nat.le_trans (by decide) digit.1, digit.2⟩
        · decide
      have differs {other : Char} (outside : other.toNat < 46 ∨ 57 < other.toNat) : c ≠ other := by
        rintro rfl
        omega
      have same : plainCharacter c = c := by
        rw [plainCharacter, if_pos (by omega)]
      have shown : Text.isPlainBlank c = false := by
        simp only [Text.isPlainBlank, Bool.or_eq_false_iff, beq_eq_false_iff_ne,
          Bool.and_eq_false_iff, decide_eq_false_iff_not]
        omega
      have no_separator : (c != '_') = true := bne_iff_ne.mpr (differs (.inr (by decide)))
      have no_mark : c ≠ 'n' := differs (.inr (by decide))
      -- Neither the mark of big integers nor blanks at the front take the first character away.
      obtain ⟨later, plain_eq⟩ : ∃ later, plainText (c :: rest) = c :: later := by
        rw [plainText, List.filter_cons, if_pos no_separator]
        cases rest.filter (· != '_') with
        | nil => exact ⟨[], by simp [no_mark, same]⟩
        | cons next more =>
            split
            · exact ⟨_, by rw [List.dropLast_cons_cons, List.map_cons, same]⟩
            · exact ⟨_, by rw [List.map_cons, same]⟩
      have inside : trim (c :: later) <+: (c :: later).dropWhile Text.isPlainBlank := by
        rw [trim, ← List.reverse_suffix, List.reverse_reverse]
        exact List.dropWhile_suffix _
      rw [List.dropWhile_cons, shown] at inside
      rw [plain_eq]
      intro minus
      obtain ⟨more, trim_eq⟩ := List.head?_eq_some_iff.mp minus
      rw [trim_eq] at inside
      exact differs (.inl (by decide)) (List.cons_prefix_cons.mp inside).1.symm

theorem nonneg_of_startsPlain {text : List Char} {n : Int} (starts : StartsPlain text)
    (read : ofLiteral? text = some (.whole n)) : 0 ≤ n :=
  nonneg_of_integer? (head?_trim_plainText starts) (ofLiteral?_eq_whole_iff.mp read)

/-! ## Names and showing -/

theorem isMagic_of_overlong {n : Int} (nonneg : 0 ≤ n) (overlong : IsOverlong n) :
    isMagic (.whole n) = true := by
  have large : 10000 < n := by
    have := overlong.lt
    omega
  have unfamiliar : familiar.any (Numeral.whole n).isInt = false := by
    simp only [familiar, isInt, List.any_cons, List.any_nil, Bool.or_false, Bool.or_eq_false_iff,
      beq_eq_false_iff_ne]
    omega
  have uneven : round.any (Numeral.whole n).isInt = false := by
    simp only [round, isInt, List.any_cons, List.any_nil, Bool.or_false, Bool.or_eq_false_iff,
      beq_eq_false_iff_ne]
    omega
  have not_below : (Numeral.whole n).isBelow 100 = false := by
    simp only [isBelow, decide_eq_false_iff_not]
    omega
  have at_least : (Numeral.whole n).atLeast 100 = true := by
    simp only [atLeast, decide_eq_true_eq]
    omega
  simp [isMagic, unfamiliar, uneven, not_below, at_least]

theorem nonneg_of_isMagic {n : Int} (magic : isMagic (.whole n) = true) : 0 ≤ n := by
  rw [isMagic] at magic
  split at magic
  · contradiction
  · split at magic
    · rename_i between
      simp only [exceeds, Bool.and_eq_true, decide_eq_true_eq] at between
      omega
    · simp only [atLeast, Bool.and_eq_true, decide_eq_true_eq] at magic
      omega

theorem showInt?_eq_none_iff {n : Int} : showInt? n = none ↔ IsOverlong n := by
  simp [showInt?, IsOverlong]

theorem mul_pow_two_lt {significand width : Nat} (significand_lt : significand < Nat.pow 2 width)
    (exponent : Nat) : significand * Nat.pow 2 exponent < Nat.pow 10 (width + exponent) := by
  calc
    significand * Nat.pow 2 exponent < Nat.pow 2 width * Nat.pow 2 exponent :=
      Nat.mul_lt_mul_of_pos_right significand_lt (Nat.pow_pos (by decide))
    _ = Nat.pow 2 (width + exponent) := (Nat.pow_add 2 width exponent).symm
    _ ≤ Nat.pow 10 (width + exponent) := Nat.pow_le_pow_left (by decide) _

/-- The whole part of a decimal of 64 bits has few digits. -/
theorem not_isOverlong_of_toInt? {x : Binary64} {n : Int} (canonical : x.IsCanonical)
    (whole : x.toInt? = some n) : ¬ IsOverlong n := by
  cases x with
  | nan | infinite => contradiction
  | finite negative significand exponent =>
      obtain ⟨significand_lt, -, exponent_le, -⟩ := canonical
      rw [Binary64.toInt?, Binary64.ratio] at whole
      dsimp only at whole
      split at whole
      · have quotient_lt := (Nat.div_le_self _ (Nat.pow 2 (-exponent).toNat)).trans_lt
          (mul_pow_two_lt significand_lt exponent.toNat)
        have limit : 1024 ≤ digitLimit := by decide
        rw [Binary64.greatestExponent] at exponent_le
        refine not_isOverlong_of_lt ?_ (by omega : 53 + exponent.toNat ≤ digitLimit)
        obtain rfl := Option.some.inj whole
        split
        · rwa [Int.natAbs_neg, Int.natAbs_natCast]
        · rwa [Int.natAbs_natCast]
      · contradiction

/-- The value of a literal is shown unless it is an integer with too many digits. -/
theorem show?_eq_none_iff {text : List Char} {value : Numeral}
    (read : ofLiteral? text = some value) :
    value.show? = none ↔ ∃ n, value = .whole n ∧ IsOverlong n := by
  cases value with
  | whole n => simp [show?, showInt?_eq_none_iff]
  | real x =>
      have canonical := isCanonical_of_ofLiteral? read
      rw [show?]
      constructor
      · intro hidden
        split at hidden
        · rename_i whole
          exact absurd (showInt?_eq_none_iff.mp hidden) (not_isOverlong_of_toInt? canonical whole)
        · contradiction
      · rintro ⟨n, same, -⟩
        contradiction

end Numeral
end Hazard
