import Hazard.Number.Literal
import Hazard.Proofs.Number.Rounding
import Mathlib.Data.List.TakeWhile

/-!
# Texts of numbers

The digits of a natural number read back as the number, and the text of a decimal, in whatever style,
as the decimal.  A text of a decimal has a whole part, a fraction and an exponent, of which the
latter two are not both absent.
-/

namespace Hazard.Numeral

/-! ## Digits -/

/-- One or more plain digits. -/
structure IsDigits (text : List Char) : Prop where
  nonempty : text ≠ []
  all : ∀ c ∈ text, c.isDigit

/-- Digits start with no other character. -/
theorem IsDigits.append_ne_cons {text : List Char} (digits : IsDigits text) {mark : Char}
    (other : mark.isDigit = false) (rest tail : List Char) : text ++ rest ≠ mark :: tail := by
  intro same
  cases text with
  | nil => exact digits.nonempty rfl
  | cons c text =>
      have digit := digits.all c List.mem_cons_self
      rw [(List.cons.inj same).1, other] at digit
      contradiction

theorem isDigits_toDigits (n : Nat) : IsDigits (Nat.toDigits 10 n) :=
  ⟨Nat.toDigits_ne_nil, fun _ mem => Nat.isDigit_of_mem_toDigits (by decide) (by decide) mem⟩

theorem isDigits_zeros_append (count : Nat) {text : List Char} (digits : IsDigits text) :
    IsDigits (List.replicate count '0' ++ text) := by
  refine ⟨List.append_ne_nil_of_right_ne_nil _ digits.nonempty, fun c mem => ?_⟩
  rcases List.mem_append.mp mem with mem | mem
  · rw [List.eq_of_mem_replicate mem]
    rfl
  · exact digits.all c mem

theorem isDigits_append_zeros {text : List Char} (digits : IsDigits text) (count : Nat) :
    IsDigits (text ++ List.replicate count '0') := by
  refine ⟨List.append_ne_nil_of_left_ne_nil digits.nonempty _, fun c mem => ?_⟩
  rcases List.mem_append.mp mem with mem | mem
  · exact digits.all c mem
  · rw [List.eq_of_mem_replicate mem]
    rfl

theorem digitValue?_ten {c : Char} (digit : c.isDigit) : digitValue? 10 c = some (c.toNat - 48) := by
  have range : c.toNat ≤ 57 := by
    simp only [Char.isDigit, Bool.and_eq_true, decide_eq_true_eq] at digit
    exact digit.2
  simp only [digitValue?, digit, if_true, Option.filter_some, decide_eq_true_eq]
  rw [if_pos (by omega)]

theorem foldl_digitValue? {text : List Char} (digits : ∀ c ∈ text, c.isDigit) (start : Nat) :
    text.foldl (fun acc c => acc.bind fun n => (digitValue? 10 c).map (n * 10 + ·)) (some start) =
      some (Nat.ofDigitChars 10 text start) := by
  induction text generalizing start with
  | nil => rfl
  | cons c text ih =>
      rw [List.foldl_cons, Option.bind_some, digitValue?_ten (digits c List.mem_cons_self),
        Option.map_some, ih fun d mem => digits d (List.mem_cons_of_mem c mem),
        Nat.ofDigitChars_cons, Nat.mul_comm]
      rfl

theorem natural?_eq {text : List Char} (digits : IsDigits text) :
    natural? 10 text = some (Nat.ofDigitChars 10 text 0) := by
  rw [natural?, if_neg (by simp [digits.nonempty]), foldl_digitValue? digits.all]

theorem ofDigitChars_lt {text : List Char} (digits : ∀ c ∈ text, c.isDigit) (start : Nat) :
    Nat.ofDigitChars 10 text start < Nat.pow 10 text.length * (start + 1) := by
  induction text generalizing start with
  | nil => simp
  | cons c text ih =>
      have value_le : c.toNat - 48 ≤ 9 := by
        have digit := digits c List.mem_cons_self
        simp only [Char.isDigit, Bool.and_eq_true, decide_eq_true_eq] at digit
        have : c.toNat ≤ 57 := digit.2
        omega
      have step := ih (fun d mem => digits d (List.mem_cons_of_mem c mem))
        (10 * start + (c.toNat - '0'.toNat))
      rw [Nat.ofDigitChars_cons]
      calc Nat.ofDigitChars 10 text (10 * start + (c.toNat - '0'.toNat))
          < Nat.pow 10 text.length * (10 * start + (c.toNat - 48) + 1) := step
        _ ≤ Nat.pow 10 text.length * (10 * (start + 1)) :=
            Nat.mul_le_mul_left _ (by omega)
        _ = Nat.pow 10 (c :: text).length * (start + 1) := by
            rw [List.length_cons, Nat.pow_eq, Nat.pow_eq, Nat.pow_succ, Nat.mul_assoc]

theorem natural?_toDigits (n : Nat) : natural? 10 (Nat.toDigits 10 n) = some n := by
  rw [natural?_eq (isDigits_toDigits n), Nat.ofDigitChars_ten_toDigits]

theorem natural?_zeros_append (count n : Nat) :
    natural? 10 (List.replicate count '0' ++ Nat.toDigits 10 n) = some n := by
  rw [natural?_eq (isDigits_zeros_append count (isDigits_toDigits n)), Nat.ofDigitChars_append,
    Nat.ofDigitChars_replicate_zero, Nat.mul_zero, Nat.ofDigitChars_ten_toDigits]

theorem digitChar_ne_zero : ∀ n < 10, n ≠ 0 → n.digitChar ≠ '0' := by decide

/-- A positive number does not begin with a zero. -/
theorem head?_toDigits_ne_zero {n : Nat} (pos : n ≠ 0) : (Nat.toDigits 10 n).head? ≠ some '0' := by
  induction n using Nat.strongRecOn with
  | ind n ih =>
      by_cases small : n < 10
      · rw [Nat.toDigits_of_lt_base small]
        simpa using digitChar_ne_zero n small pos
      · have large : 10 ≤ n := Nat.le_of_not_lt small
        rw [Nat.toDigits_of_base_le (by decide) large,
          List.head?_append_of_ne_nil _ Nat.toDigits_ne_nil]
        exact ih (n / 10) (by omega) (by omega)

/-! ## Ends of digits -/

/-- No digit comes next. -/
def EndsDigits (text : List Char) : Prop := ∀ c ∈ text.head?, c.isDigit = false

theorem EndsDigits.append {text rest : List Char} (first : EndsDigits text)
    (second : EndsDigits rest) : EndsDigits (text ++ rest) := by
  cases text with
  | nil => exact second
  | cons c text => exact first

theorem takeWhile_isDigit_append {digits rest : List Char} (all : ∀ c ∈ digits, c.isDigit)
    (ends : EndsDigits rest) : (digits ++ rest).takeWhile Char.isDigit = digits := by
  rw [List.takeWhile_append_of_pos all]
  cases rest with
  | nil => simp
  | cons c rest => simp [ends c rfl]

theorem dropWhile_isDigit_append {digits rest : List Char} (all : ∀ c ∈ digits, c.isDigit)
    (ends : EndsDigits rest) : (digits ++ rest).dropWhile Char.isDigit = rest := by
  rw [List.dropWhile_append_of_pos all]
  cases rest with
  | nil => rfl
  | cons c rest => simp [ends c rfl]

/-! ## Parts of a decimal -/

/-- Digits before a point; nothing follows a zero. -/
structure IsWhole (text : List Char) : Prop where
  digits : IsDigits text
  zero : text.head? = some '0' → text = ['0']

/-- A point and digits, or nothing. -/
inductive IsFraction : List Char → Prop
  | absent : IsFraction []
  | point {digits : List Char} (isDigits : IsDigits digits) : IsFraction ('.' :: digits)

/-- The mark of an exponent, perhaps a sign, and digits, or nothing. -/
inductive IsExponent : List Char → Prop
  | absent : IsExponent []
  | bare {digits : List Char} (isDigits : IsDigits digits) : IsExponent ('e' :: digits)
  | plus {digits : List Char} (isDigits : IsDigits digits) : IsExponent ('e' :: '+' :: digits)
  | minus {digits : List Char} (isDigits : IsDigits digits) : IsExponent ('e' :: '-' :: digits)

theorem IsWhole.of_toDigits (n : Nat) : IsWhole (Nat.toDigits 10 n) := by
  refine ⟨isDigits_toDigits n, fun zero => ?_⟩
  by_cases n_eq : n = 0
  · rw [n_eq]
    rfl
  · exact absurd zero (head?_toDigits_ne_zero n_eq)

theorem IsFraction.endsDigits {text : List Char} (fraction : IsFraction text) : EndsDigits text := by
  cases fraction with
  | absent => exact nofun
  | point =>
      rintro c ⟨rfl⟩
      rfl

theorem IsExponent.endsDigits {text : List Char} (exponent : IsExponent text) : EndsDigits text := by
  cases exponent with
  | absent => exact nofun
  | bare | plus | minus =>
      rintro c ⟨rfl⟩
      rfl

theorem IsExponent.head?_ne_point {text rest : List Char} (exponent : IsExponent text)
    (no_point : rest.head? ≠ some '.') : (text ++ rest).head? ≠ some '.' := by
  cases exponent with
  | absent => exact no_point
  | bare | plus | minus => simp

/-- Digits without a sign before them. -/
theorem takeSign_of_isDigits {text : List Char} (digits : IsDigits text) :
    takeSign text = (false, text) := by
  have no_sign {mark : Char} (other : mark.isDigit = false) (tail : List Char) :
      text ≠ mark :: tail :=
    List.append_nil text ▸ digits.append_ne_cons other [] tail
  rw [takeSign]
  · exact no_sign rfl
  · exact no_sign rfl

/-- A decimal with a point, or without one and then without digits behind it. -/
theorem decimal?_eq (negative : Bool) {front back tail : List Char}
    (front_all : ∀ c ∈ front, c.isDigit) (back_all : ∀ c ∈ back, c.isDigit)
    (nonempty : front ++ back ≠ []) {power : Int} (exponent : IsExponent tail)
    (power_eq : exponent? tail = some power) :
    decimal? negative (front ++ '.' :: back ++ tail) =
      some (.ofDecimal negative (Nat.ofDigitChars 10 (front ++ back) 0) (power - back.length)) := by
  have isDigits : IsDigits (front ++ back) := by
    refine ⟨nonempty, fun c mem => ?_⟩
    rcases List.mem_append.mp mem with mem | mem
    · exact front_all c mem
    · exact back_all c mem
  have point_ends : EndsDigits ('.' :: (back ++ tail)) := by
    rintro c ⟨rfl⟩
    rfl
  rw [decimal?, List.append_assoc, List.cons_append, takeWhile_isDigit_append front_all point_ends,
    dropWhile_isDigit_append front_all point_ends]
  simp only [takeWhile_isDigit_append back_all exponent.endsDigits,
    dropWhile_isDigit_append back_all exponent.endsDigits, natural?_eq isDigits, power_eq]

theorem decimal?_whole_eq (negative : Bool) {front tail : List Char} (digits : IsDigits front)
    {power : Int} (exponent : IsExponent tail) (power_eq : exponent? tail = some power) :
    decimal? negative (front ++ tail) =
      some (.ofDecimal negative (Nat.ofDigitChars 10 front 0) power) := by
  rw [decimal?, takeWhile_isDigit_append digits.all exponent.endsDigits,
    dropWhile_isDigit_append digits.all exponent.endsDigits]
  split
  rename_i back rest split_eq
  split at split_eq
  · rename_i more
    have no_point : ('.' :: more ++ []).head? ≠ some '.' := exponent.head?_ne_point nofun
    exact absurd rfl no_point
  · obtain ⟨rfl, rfl⟩ := Prod.mk.inj split_eq
    simp [natural?_eq digits, power_eq]

end Hazard.Numeral

namespace Hazard.Binary64

open Numeral

/-! ## Texts of decimals -/

theorem exponent?_exponentText (style : Style) (k : Int) :
    exponent? ('e' :: exponentText style k) = some k := by
  set zeros := style.exponentWidth - (Nat.toDigits 10 k.natAbs).length with zeros_eq
  have digits := isDigits_zeros_append zeros (isDigits_toDigits k.natAbs)
  have read := natural?_zeros_append zeros k.natAbs
  by_cases negative : k < 0
  · have text_eq : exponentText style k =
        '-' :: (List.replicate zeros '0' ++ Nat.toDigits 10 k.natAbs) := by
      simp [exponentText, negative, zeros_eq]
    simp [text_eq, exponent?, takeSign, read, abs_of_neg negative]
  · have value : |k| = k := abs_of_nonneg (not_lt.mp negative)
    by_cases plus : style.plusSign
    · have text_eq : exponentText style k =
          '+' :: (List.replicate zeros '0' ++ Nat.toDigits 10 k.natAbs) := by
        simp [exponentText, negative, plus, zeros_eq]
      simp [text_eq, exponent?, takeSign, read, value]
    · have text_eq : exponentText style k =
          List.replicate zeros '0' ++ Nat.toDigits 10 k.natAbs := by
        simp [exponentText, negative, plus, zeros_eq]
      simp [text_eq, exponent?, takeSign_of_isDigits digits, read, value]

theorem isExponent_exponentText (style : Style) (k : Int) :
    IsExponent ('e' :: exponentText style k) := by
  have digits := isDigits_zeros_append (style.exponentWidth - (Nat.toDigits 10 k.natAbs).length)
    (isDigits_toDigits k.natAbs)
  rw [exponentText, List.append_assoc]
  split
  · exact .minus digits
  · split
    · exact .plus digits
    · exact .bare digits

/-- The parts of a text that write the decimal. -/
structure Writes (d : Decimal) (whole fraction exponent : List Char) : Prop where
  isWhole : IsWhole whole
  isFraction : IsFraction fraction
  isExponent : IsExponent exponent
  /-- The text is not that of an integer. -/
  isDecimal : fraction ≠ [] ∨ exponent ≠ []
  value (negative : Bool) : decimal? negative (whole ++ fraction ++ exponent) =
    some (.ofDecimal negative d.digits d.power)

/-- A text with a point writes what its digits are, with the point moved behind them. -/
theorem writes_of_point {d : Decimal} (digits : Nat) (power : Int) {front back tail : List Char}
    (isWhole : IsWhole front) (isDigits : IsDigits back) (isExponent : IsExponent tail)
    (digits_eq : Nat.ofDigitChars 10 (front ++ back) 0 = digits)
    (power_eq : exponent? tail = some (power + back.length))
    (value : ∀ negative, ofDecimal negative digits power = ofDecimal negative d.digits d.power) :
    Writes d front ('.' :: back) tail where
  isWhole := isWhole
  isFraction := .point isDigits
  isExponent := isExponent
  isDecimal := .inl (List.cons_ne_nil _ _)
  value negative := by
    rw [decimal?_eq negative isWhole.digits.all isDigits.all
      (List.append_ne_nil_of_right_ne_nil _ isDigits.nonempty) isExponent power_eq, digits_eq,
      add_sub_cancel_right, value]

section

variable (d : Decimal)

/-- Zeros before the digits, behind the point. -/
theorem writes_zeros_append (zeros : Nat) (place : (zeros : Int) + d.characters.length = -d.power) :
    Writes d ['0'] ('.' :: (List.replicate zeros '0' ++ d.characters)) [] := by
  refine writes_of_point d.digits d.power (.of_toDigits 0)
    (isDigits_zeros_append zeros (isDigits_toDigits d.digits)) .absent ?_ ?_ fun _ => rfl
  · rw [List.singleton_append, Nat.ofDigitChars_cons, Nat.ofDigitChars_append,
      Nat.ofDigitChars_replicate_zero]
    exact Nat.ofDigitChars_ten_toDigits
  · rw [List.length_append, List.length_replicate, Nat.cast_add, place, add_neg_cancel]
    rfl

/-- Zeros after the digits, before the point. -/
theorem writes_append_zeros (nonzero : d.digits ≠ 0) (zeros : Nat) (place : zeros = d.power) :
    Writes d (d.characters ++ List.replicate zeros '0') ['.', '0'] [] := by
  have isWhole : IsWhole (d.characters ++ List.replicate zeros '0') := by
    refine ⟨isDigits_append_zeros (isDigits_toDigits d.digits) zeros, fun zero => ?_⟩
    rw [List.head?_append_of_ne_nil d.characters Nat.toDigits_ne_nil] at zero
    exact absurd zero (head?_toDigits_ne_zero nonzero)
  refine writes_of_point (d.digits * Nat.pow 10 (zeros + 1)) (-1) isWhole (isDigits_toDigits 0)
    .absent ?_ rfl fun negative => ?_
  · have zeros_eq : d.characters ++ List.replicate zeros '0' ++ ['0'] =
        d.characters ++ List.replicate (zeros + 1) '0' := by
      rw [List.replicate_succ', List.append_assoc]
    rw [zeros_eq, Nat.ofDigitChars_append, Nat.ofDigitChars_replicate_zero, Nat.mul_comm]
    exact congrArg (· * _) Nat.ofDigitChars_ten_toDigits
  · rw [ofDecimal_mul_pow, ← place]
    congr 1
    push_cast
    ring

/-- The point among the digits, and perhaps an exponent. -/
theorem writes_take_drop (nonzero : d.digits ≠ 0) (count : Nat) (pos : 0 < count)
    (lt : count < d.characters.length) {tail : List Char} (isExponent : IsExponent tail)
    (power_eq : exponent? tail = some (d.power + (d.characters.length - count : Nat))) :
    Writes d (d.characters.take count) ('.' :: d.characters.drop count) tail := by
  have digits := isDigits_toDigits d.digits
  have front : IsDigits (d.characters.take count) :=
    ⟨List.ne_nil_of_length_pos (by rw [List.length_take]; omega),
      fun c mem => digits.all c (List.mem_of_mem_take mem)⟩
  have back : IsDigits (d.characters.drop count) :=
    ⟨List.ne_nil_of_length_pos (by rw [List.length_drop]; omega),
      fun c mem => digits.all c (List.mem_of_mem_drop mem)⟩
  have isWhole : IsWhole (d.characters.take count) := by
    refine ⟨front, fun zero => ?_⟩
    rw [List.head?_take, if_neg pos.ne'] at zero
    exact absurd zero (head?_toDigits_ne_zero nonzero)
  refine writes_of_point d.digits d.power isWhole back isExponent ?_ ?_ fun _ => rfl
  · rw [List.take_append_drop]
    exact Nat.ofDigitChars_ten_toDigits
  · rw [List.length_drop, power_eq]

/-- A single digit and an exponent. -/
theorem writes_single {c : Char} (single : d.characters = [c]) {tail : List Char}
    (isExponent : IsExponent tail) (present : tail ≠ [])
    (power_eq : exponent? tail = some d.power) : Writes d [c] [] tail where
  isWhole := single ▸ .of_toDigits d.digits
  isFraction := .absent
  isExponent := isExponent
  isDecimal := .inr present
  value negative := by
    have digits_eq : Nat.ofDigitChars 10 [c] 0 = d.digits :=
      single ▸ Nat.ofDigitChars_ten_toDigits
    rw [List.append_nil,
      decimal?_whole_eq negative (single ▸ isDigits_toDigits d.digits) isExponent power_eq, digits_eq]

end

/-- The text of a decimal, in any style, writes the decimal; its whole part is no longer than the style
lets it be. -/
theorem exists_writes_decimalText (style : Style) {d : Decimal} (nonzero : d.digits ≠ 0) :
    ∃ whole fraction exponent, decimalText style d = whole ++ fraction ++ exponent ∧
      Writes d whole fraction exponent ∧ (whole.length : Int) ≤ max 1 style.greatestPoint := by
  rw [decimalText]
  split
  · rename_i inside
    have point_le : (d.characters.length : Int) + d.power ≤ style.greatestPoint := by
      simpa using (Bool.and_eq_true_iff.mp inside).2
    split
    · refine ⟨['0'], _, [], ?_, writes_zeros_append d (-(d.characters.length + d.power)).toNat ?_, ?_⟩
      · rw [List.append_nil]
        rfl
      · omega
      · exact le_max_left 1 _
    · split
      · refine ⟨_, ['.', '0'], [], ?_, writes_append_zeros d nonzero
          ((d.characters.length : Int) + d.power - d.characters.length).toNat ?_, ?_⟩
        · rw [List.append_nil]
        · omega
        · rw [List.length_append, List.length_replicate]
          omega
      · refine ⟨_, _, [], ?_, writes_take_drop d nonzero
          ((d.characters.length : Int) + d.power).toNat ?_ ?_ .absent ?_, ?_⟩
        · rw [List.append_nil]
        · omega
        · omega
        · rw [exponent?]
          congr 1
          omega
        · rw [List.length_take]
          omega
  · split
    · rename_i empty
      exact absurd empty Nat.toDigits_ne_nil
    · rename_i c single
      refine ⟨[c], [], _, rfl, writes_single d single (isExponent_exponentText _ _)
        (List.cons_ne_nil _ _) ?_, le_max_left 1 _⟩
      rw [exponent?_exponentText, single, List.length_singleton]
      congr 1
      omega
    · rename_i c rest nonempty digits_eq
      have rest_pos : 0 < rest.length := List.length_pos_iff.mpr nonempty
      have length_eq : d.characters.length = rest.length + 1 := by
        rw [digits_eq, List.length_cons]
      refine ⟨[c], '.' :: rest, _, rfl, ?_, le_max_left 1 _⟩
      have written := writes_take_drop d nonzero 1 Nat.one_pos (by omega)
        (isExponent_exponentText style ((d.characters.length : Int) + d.power - 1)) ?_
      · rw [digits_eq] at written ⊢
        exact written
      · rw [exponent?_exponentText]
        congr 1
        omega

end Hazard.Binary64
