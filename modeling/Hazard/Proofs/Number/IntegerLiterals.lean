import Hazard.Proofs.Number.Exactness
import Hazard.Proofs.Number.Literal

/-!
# Integer literals and their values

An integer literal is decimal, or has the mark of another base, or starts with a zero.  A literal with
a mark is always read as the number that it writes.  A decimal one is so unless it has too many digits.
What starts with a zero is read as a decimal of 64 bits: this keeps the value of a padded decimal if the
value has few enough bits, and that of an octal only if it has one significant digit.
-/

namespace Hazard
namespace Numeral

/-- The character writes the digit; letters may be capital. -/
def WritesDigit (base : Nat) (c : Char) (value : Nat) : Prop :=
  value < base ∧ (c = value.digitChar ∨ c = value.digitChar.toUpper)

/-- The text writes the number with the digits of a base.  Where separators are allowed, single ones may
stand between digits. -/
inductive Spells (base : Nat) (separated : Bool) : List Char → Nat → Prop
  | digit {c : Char} {value : Nat} (writes : WritesDigit base c value) :
      Spells base separated [c] value
  | next {text : List Char} {c : Char} {number value : Nat}
      (front : Spells base separated text number) (writes : WritesDigit base c value) :
      Spells base separated (text ++ [c]) (number * base + value)
  | apart {text : List Char} {c : Char} {number value : Nat} (allowed : separated = true)
      (front : Spells base separated text number) (writes : WritesDigit base c value) :
      Spells base separated (text ++ ['_', c]) (number * base + value)

/-- The marks of bases other than ten. -/
def markedBases : List (Char × Nat) :=
  [('x', 16), ('X', 16), ('o', 8), ('O', 8), ('b', 2), ('B', 2)]

/-- The forms of integer literals. -/
inductive Form where
  | decimal
  /-- With the mark of its base. -/
  | marked
  /-- Octal without a mark. -/
  | legacyOctal
  /-- Decimal with a zero in front. -/
  | padded
deriving DecidableEq, Repr

/-- The mark of a big integer, or nothing. -/
def IsBigMark (text : List Char) : Prop := text = [] ∨ text = ['n']

/-- The text is an integer literal of the form and writes the number. -/
inductive IsLiteral : Form → List Char → Nat → Prop
  | decimal {text suffix : List Char} {n : Nat} (digits : Spells 10 true text n)
      (start : text.head? = some '0' → text = ['0']) (big : IsBigMark suffix) :
      IsLiteral .decimal (text ++ suffix) n
  | marked {mark : Char} {base n : Nat} {text suffix : List Char}
      (listed : (mark, base) ∈ markedBases) (digits : Spells base true text n)
      (big : IsBigMark suffix) : IsLiteral .marked ('0' :: mark :: text ++ suffix) n
  | legacyOctal {text : List Char} {n : Nat} (digits : Spells 8 false text n) :
      IsLiteral .legacyOctal ('0' :: text) n
  | padded {text : List Char} {n : Nat} (digits : Spells 10 false text n)
      (beyond : '8' ∈ text ∨ '9' ∈ text) : IsLiteral .padded ('0' :: text) n

/-- The values that literals of a form keep when they are read. -/
def Form.Keeps : Form → Nat → Prop
  | .decimal, n => n < Nat.pow 10 digitLimit
  | .marked, _ => True
  | .legacyOctal, n => n < 8
  | .padded, n => Binary64.Fits n

/-- The text is read as a value that equals the number. -/
def ReadsAs (text : List Char) (n : Nat) : Prop :=
  ∃ value, ofLiteral? text = some value ∧ value.isInt n = true

/-! ## Digits and other characters -/

/-- A character that reading takes as it is, other than the mark of big integers. -/
def isPlain (c : Char) : Bool := decide (c.toNat < 0x7f) && c != 'n' && !Text.isPlainBlank c

theorem isPlain_iff {c : Char} :
    isPlain c = true ↔ c.toNat < 0x7f ∧ c ≠ 'n' ∧ Text.isPlainBlank c = false := by
  simp [isPlain, and_assoc]

theorem digitValue?_of_lt {base value : Nat} {c : Char} (digit : digitValue? 16 c = some value)
    (small : value < base) : digitValue? base c = some value := by
  rw [digitValue?, Option.filter_eq_some_iff] at digit ⊢
  exact ⟨digit.1, by simpa using small⟩

namespace WritesDigit

variable {base value : Nat} {c : Char}

/-- What holds of the characters of all small digits holds of this one. -/
theorem of_forall (holds : Char → Nat → Prop) {limit : Nat}
    (all : ∀ v < limit, holds v.digitChar v ∧ holds v.digitChar.toUpper v)
    (writes : WritesDigit base c value) (small : base ≤ limit) : holds c value := by
  obtain ⟨lower, upper⟩ := all value (writes.1.trans_le small)
  rcases writes.2 with rfl | rfl
  · exact lower
  · exact upper

theorem digitValue?_eq (writes : WritesDigit base c value) (small : base ≤ 16) :
    digitValue? base c = some value :=
  digitValue?_of_lt
    (writes.of_forall (fun c value => digitValue? 16 c = some value) (by decide) small) writes.1

theorem isPlain_and_ne (writes : WritesDigit base c value) (small : base ≤ 16) :
    isPlain c = true ∧ c ≠ '_' :=
  writes.of_forall (fun c _ => isPlain c = true ∧ c ≠ '_') (by decide) small

theorem isDigit_of_le_ten (writes : WritesDigit base c value) (small : base ≤ 10) :
    c.isDigit = true :=
  writes.of_forall (fun c _ => c.isDigit = true) (by decide) small

end WritesDigit

/-- The text without separators. -/
def joined (text : List Char) : List Char := text.filter (· != '_')

theorem joined_append (first second : List Char) :
    joined (first ++ second) = joined first ++ joined second :=
  List.filter_append ..

theorem joined_singleton {c : Char} (other : c ≠ '_') : joined [c] = [c] := by
  simp [joined, other]

theorem joined_separator (text : List Char) : joined ('_' :: text) = joined text := rfl

theorem natural?_singleton {base value : Nat} {c : Char} (digit : digitValue? base c = some value) :
    natural? base [c] = some value := by
  simp [natural?, digit]

theorem natural?_append_singleton {base n value : Nat} {text : List Char} {c : Char}
    (read : natural? base text = some n) (digit : digitValue? base c = some value) :
    natural? base (text ++ [c]) = some (n * base + value) := by
  rw [natural?] at read ⊢
  split at read
  · contradiction
  · rw [if_neg (by simp), List.foldl_append, read]
    simp [digit]

namespace Spells

variable {base n : Nat} {separated : Bool} {text : List Char}

theorem ne_nil (spells : Spells base separated text n) : text ≠ [] := by
  cases spells with
  | digit => exact List.cons_ne_nil _ _
  | next | apart => exact List.append_ne_nil_of_right_ne_nil _ (List.cons_ne_nil _ _)

theorem isPlain_of_mem (spells : Spells base separated text n) (small : base ≤ 16) :
    ∀ c ∈ text, isPlain c = true := by
  induction spells with
  | digit writes => simpa using (writes.isPlain_and_ne small).1
  | next _ writes ih =>
      rw [List.forall_mem_append, List.forall_mem_singleton]
      exact ⟨ih, (writes.isPlain_and_ne small).1⟩
  | apart _ _ writes ih =>
      rw [List.forall_mem_append, List.forall_mem_cons, List.forall_mem_singleton]
      exact ⟨ih, rfl, (writes.isPlain_and_ne small).1⟩

/-- Without its separators a text writes the same number. -/
theorem joined (spells : Spells base separated text n) (small : base ≤ 16) :
    Spells base false (joined text) n := by
  induction spells with
  | digit writes =>
      rw [joined_singleton (writes.isPlain_and_ne small).2]
      exact .digit writes
  | next _ writes ih =>
      rw [joined_append, joined_singleton (writes.isPlain_and_ne small).2]
      exact .next ih writes
  | apart _ _ writes ih =>
      rw [joined_append, joined_separator, joined_singleton (writes.isPlain_and_ne small).2]
      exact .next ih writes

theorem head?_joined (spells : Spells base separated text n) (small : base ≤ 16) :
    (Numeral.joined text).head? = text.head? := by
  have step {front : List Char} (back : List Char) (nonempty : front ≠ [])
      (same : (Numeral.joined front).head? = front.head?) :
      (Numeral.joined (front ++ back)).head? = (front ++ back).head? := by
    obtain ⟨first, rest, rfl⟩ := List.exists_cons_of_ne_nil nonempty
    rw [joined_append, List.head?_append, same]
    rfl
  induction spells with
  | digit writes => rw [joined_singleton (writes.isPlain_and_ne small).2]
  | next front _ ih | apart _ front _ ih => exact step _ front.ne_nil ih

/-! ## Texts without separators -/

theorem natural?_eq_some (spells : Spells base false text n) (small : base ≤ 16) :
    natural? base text = some n := by
  induction spells with
  | digit writes => exact natural?_singleton (writes.digitValue?_eq small)
  | next _ writes ih => exact natural?_append_singleton ih (writes.digitValue?_eq small)
  | apart allowed => exact absurd allowed Bool.false_ne_true

theorem isDigits (spells : Spells base false text n) (small : base ≤ 10) : IsDigits text := by
  refine ⟨spells.ne_nil, ?_⟩
  induction spells with
  | digit writes => exact List.forall_mem_singleton.mpr (writes.isDigit_of_le_ten small)
  | next _ writes ih =>
      rw [List.forall_mem_append, List.forall_mem_singleton]
      exact ⟨ih, writes.isDigit_of_le_ten small⟩
  | apart allowed => exact absurd allowed Bool.false_ne_true

/-- A decimal number that does not start with a zero is as large as its digits are many. -/
theorem pow_length_le (spells : Spells 10 false text n) (start : text.head? ≠ some '0') :
    Nat.pow 10 text.length ≤ 10 * n := by
  induction spells with
  | @digit c value writes =>
      have positive : value ≠ 0 := by
        rintro rfl
        rcases writes.2 with rfl | rfl <;> exact start rfl
      change 10 ≤ 10 * value
      omega
  | next front writes ih =>
      rw [List.head?_append_of_ne_nil _ front.ne_nil] at start
      have bound := ih start
      rw [List.length_append, List.length_singleton, Nat.pow_eq, Nat.pow_succ]
      rw [Nat.pow_eq] at bound
      omega
  | apart allowed => exact absurd allowed Bool.false_ne_true

theorem lt_length_iff {limit : Nat} (positive : 0 < limit) (spells : Spells 10 false text n)
    (start : text.head? = some '0' → text = ['0']) :
    limit < text.length ↔ Nat.pow 10 limit ≤ n := by
  have value := spells.natural?_eq_some (by decide)
  by_cases zero : text.head? = some '0'
  · obtain rfl := start zero
    obtain rfl : 0 = n := Option.some.inj value
    exact iff_of_false (Nat.not_lt.mpr positive) (Nat.not_le.mpr (Nat.pow_pos (by decide)))
  · refine ⟨fun long => ?_, fun large => ?_⟩
    · have bound := (pow_ten_le long).trans (spells.pow_length_le zero)
      rw [Nat.pow_eq, Nat.pow_succ] at bound
      rw [Nat.pow_eq]
      omega
    · exact (Nat.pow_lt_pow_iff_right (by decide)).mp (large.trans_lt (natural?_lt value))

/-- Octal digits write another number in base ten, unless there is one significant digit; then it is
larger by a tenth at least. -/
theorem exists_decimal (spells : Spells 8 false text n) :
    ∃ number, Spells 10 false text number ∧ (n < 8 → number = n) ∧
      (8 ≤ n → 10 * n ≤ 9 * number) := by
  have widen {c : Char} {value : Nat} (writes : WritesDigit 8 c value) : WritesDigit 10 c value :=
    ⟨writes.1.trans (by decide), writes.2⟩
  induction spells with
  | @digit c value writes =>
      have small := writes.1
      exact ⟨value, .digit (widen writes), fun _ => rfl, fun large => by omega⟩
  | @next _ c octal value _ writes ih =>
      obtain ⟨number, spells, same, larger⟩ := ih
      have small := writes.1
      exact ⟨_, .next spells (widen writes), fun _ => by omega, fun _ => by omega⟩
  | apart allowed => exact absurd allowed Bool.false_ne_true

end Spells

/-! ## Reading -/

theorem isPlain_of_mem_joined {text : List Char} (plain : ∀ c ∈ text, isPlain c = true) :
    ∀ c ∈ joined text, isPlain c = true :=
  fun c member => plain c (List.mem_of_mem_filter member)

theorem plainText_append {text suffix : List Char} (plain : ∀ c ∈ text, isPlain c = true)
    (big : IsBigMark suffix) : plainText (text ++ suffix) = joined text := by
  have plain' := isPlain_of_mem_joined plain
  have kept : (joined text).map plainCharacter = joined text := by
    refine (List.map_congr_left fun c member => ?_).trans (List.map_id _)
    rw [plainCharacter, if_pos (isPlain_iff.mp (plain' c member)).1]
    rfl
  have unmarked : (joined text).getLast? ≠ some 'n' := fun marked =>
    (isPlain_iff.mp (plain' _ (List.mem_of_getLast? marked))).2.1 rfl
  rw [plainText, ← joined, joined_append]
  rcases big with rfl | rfl
  · rw [show joined [] = [] from rfl, List.append_nil, if_neg (by simpa using unmarked), kept]
  · rw [show joined ['n'] = ['n'] from rfl, List.getLast?_concat, if_pos (beq_self_eq_true _),
      List.dropLast_concat, kept]

theorem trim_of_isPlain {text : List Char} (plain : ∀ c ∈ text, isPlain c = true) :
    trim text = text := by
  have dropped {text : List Char} (plain : ∀ c ∈ text, isPlain c = true) :
      text.dropWhile Text.isPlainBlank = text := by
    cases text with
    | nil => rfl
    | cons c text => simp [(isPlain_iff.mp (plain c List.mem_cons_self)).2.2]
  rw [trim, dropped plain, dropped fun c member => plain c (List.mem_reverse.mp member),
    List.reverse_reverse]

theorem integer?_plainText {text suffix : List Char} (plain : ∀ c ∈ text, isPlain c = true)
    (big : IsBigMark suffix) (unsigned : takeSign (joined text) = (false, joined text)) :
    integer? (plainText (text ++ suffix)) = (magnitude? (joined text)).map fun n => (n : Int) := by
  rw [plainText_append plain big, integer?, trim_of_isPlain (isPlain_of_mem_joined plain), unsigned]
  rfl

theorem isPlain_of_isDigit {c : Char} (digit : c.isDigit = true) : isPlain c = true := by
  simp only [Char.isDigit, Bool.and_eq_true, decide_eq_true_eq] at digit
  have range : 48 ≤ c.toNat ∧ c.toNat ≤ 57 := digit
  refine isPlain_iff.mpr ⟨by omega, ?_, ?_⟩
  · rintro rfl
    exact absurd range.2 (by decide)
  · simp only [Text.isPlainBlank, Bool.or_eq_false_iff, beq_eq_false_iff_ne,
      Bool.and_eq_false_iff, decide_eq_false_iff_not]
    omega

theorem joined_of_isDigits {text : List Char} (digits : IsDigits text) : joined text = text := by
  refine List.filter_eq_self.mpr fun c member => ?_
  rw [bne_iff_ne]
  rintro rfl
  exact absurd (digits.all '_' member) (by decide)

theorem toLower_of_isDigit {c : Char} (digit : c.isDigit = true) : c.toLower = c := by
  simp only [Char.isDigit, Bool.and_eq_true, decide_eq_true_eq] at digit
  have lower : ¬ (c.val ≥ 'A'.val ∧ c.val ≤ 'Z'.val) :=
    fun upper => absurd (UInt32.le_trans upper.1 digit.2) (by decide)
  exact dif_neg lower

theorem real?_of_isDigits {text : List Char} {n : Nat} (digits : IsDigits text)
    (read : natural? 10 text = some n) : real? text = some (.ofDecimal false n 0) := by
  have plain : ∀ c ∈ text, isPlain c = true := fun c member => isPlain_of_isDigit (digits.all c member)
  have word_ne (word : String) (letter : word.toList.head?.any Char.isDigit = false) :
      (String.ofList (text.map Char.toLower) == word) = false := by
    rw [beq_eq_false_iff_ne]
    rintro rfl
    rw [String.toList_ofList, List.head?_map] at letter
    cases text with
    | nil => exact digits.nonempty rfl
    | cons c text =>
        have digit := digits.all c List.mem_cons_self
        rw [List.head?_cons, Option.map_some, Option.any_some, toLower_of_isDigit digit, digit] at letter
        contradiction
  rw [natural?_eq digits] at read
  rw [real?, trim_of_isPlain plain, takeSign_of_isDigits digits]
  dsimp only
  rw [word_ne _ rfl, word_ne _ rfl, word_ne _ rfl, ← Option.some.inj read]
  have decimal := decimal?_whole_eq false digits .absent rfl
  rwa [List.append_nil] at decimal

theorem of_mem_markedBases {mark : Char} {base : Nat} (listed : (mark, base) ∈ markedBases) :
    base ≤ 16 ∧ isPlain mark = true ∧ mark ≠ '_' ∧
      ∀ digits, magnitude? ('0' :: mark :: digits) = natural? base digits := by
  simp only [markedBases, List.mem_cons, List.not_mem_nil, or_false, Prod.mk.injEq] at listed
  rcases listed with ⟨rfl, rfl⟩ | ⟨rfl, rfl⟩ | ⟨rfl, rfl⟩ | ⟨rfl, rfl⟩ | ⟨rfl, rfl⟩ | ⟨rfl, rfl⟩ <;>
    exact ⟨by decide, rfl, by decide, fun _ => rfl⟩

theorem magnitude?_decimal {digits : List Char}
    (start : digits.head? = some '0' → digits = ['0']) :
    magnitude? digits = if digitLimit < digits.length then none else natural? 10 digits := by
  rw [magnitude?.eq_def]
  split
  · exact absurd (start rfl) (by simp)
  · rfl

/-- Behind a zero only the integer zero is read. -/
theorem magnitude?_zero_cons {text : List Char} (digits : IsDigits text) :
    magnitude? ('0' :: text) = none ∨
      magnitude? ('0' :: text) = some 0 ∧ natural? 10 text = some 0 := by
  cases text with
  | nil => exact absurd rfl digits.nonempty
  | cons c text =>
      have differs {mark : Char} (other : mark.isDigit = false) : (c == mark) = false := by
        rw [beq_eq_false_iff_ne]
        rintro rfl
        rw [digits.all c List.mem_cons_self] at other
        contradiction
      rw [magnitude?, differs rfl, differs rfl, differs rfl, differs rfl, differs rfl, differs rfl]
      rw [Bool.or_self, if_neg Bool.false_ne_true, if_neg Bool.false_ne_true,
        if_neg Bool.false_ne_true]
      split
      · exact .inl rfl
      · cases read : (natural? 10 (c :: text)).filter (· == 0) with
        | none => exact .inl rfl
        | some n =>
            obtain ⟨natural, zero⟩ := Option.filter_eq_some_iff.mp read
            obtain rfl := eq_of_beq zero
            exact .inr ⟨rfl, natural⟩

/-! ## Values of literals -/

variable {text suffix : List Char} {n k : Nat}

theorem readsAs_iff_of_integer? (read : integer? (plainText text) = some (n : Int)) :
    ReadsAs text k ↔ n = k := by
  rw [ReadsAs, ofLiteral?_eq_whole_iff.mpr read]
  simp [isInt]

theorem readsAs_iff_of_real? {x : Binary64} (unread : integer? (plainText text) = none)
    (read : real? (plainText text) = some x) : ReadsAs text k ↔ x.eqInt k = true := by
  rw [ReadsAs, ofLiteral?_eq, unread, read]
  simp [isInt]

theorem readsAs_marked {mark : Char} {base : Nat} (listed : (mark, base) ∈ markedBases)
    (digits : Spells base true text n) (big : IsBigMark suffix) :
    ReadsAs ('0' :: mark :: text ++ suffix) n := by
  obtain ⟨small, plain_mark, other, magnitude⟩ := of_mem_markedBases listed
  have plain : ∀ c ∈ '0' :: mark :: text, isPlain c = true :=
    List.forall_mem_cons.mpr ⟨rfl, List.forall_mem_cons.mpr ⟨plain_mark, digits.isPlain_of_mem small⟩⟩
  have joined_eq : joined ('0' :: mark :: text) = '0' :: mark :: joined text := by
    simp [joined, other]
  refine (readsAs_iff_of_integer? ?_).mpr rfl
  rw [integer?_plainText plain big (by rw [joined_eq]; rfl), joined_eq, magnitude,
    (digits.joined small).natural?_eq_some small]
  rfl

theorem readsAs_decimal_iff (digits : Spells 10 true text n)
    (start : text.head? = some '0' → text = ['0']) (big : IsBigMark suffix) :
    ReadsAs (text ++ suffix) n ↔ n < Nat.pow 10 digitLimit := by
  have plain := digits.isPlain_of_mem (by decide)
  have joinedDigits := digits.joined (by decide)
  have joinedStart : (joined text).head? = some '0' → joined text = ['0'] := by
    rw [digits.head?_joined (by decide)]
    intro zero
    rw [start zero]
    rfl
  have isDigits := joinedDigits.isDigits le_rfl
  have value := joinedDigits.natural?_eq_some (by decide)
  have long_iff := joinedDigits.lt_length_iff (by decide : 0 < digitLimit) joinedStart
  have integer := integer?_plainText plain big (takeSign_of_isDigits isDigits)
  rw [magnitude?_decimal joinedStart] at integer
  rw [← Nat.not_le, ← long_iff]
  by_cases long : digitLimit < (joined text).length
  · -- The text is read as a decimal of 64 bits, and that one is infinite.
    have many : 400 < (Nat.toDigits 10 n).length :=
      (lt_length_toDigits_iff (by decide)).mpr
        ((pow_ten_le (by decide : 400 ≤ digitLimit)).trans (long_iff.mp long))
    have real := real?_of_isDigits isDigits value
    rw [if_pos long] at integer
    rw [← plainText_append plain big] at real
    rw [readsAs_iff_of_real? integer real, Binary64.ofDecimal_of_long many, Binary64.eqInt_infinite]
    simp [long]
  · rw [if_neg long, value] at integer
    exact iff_of_true ((readsAs_iff_of_integer? integer).mpr rfl) long

/-- Behind a zero the digits are read as a decimal of 64 bits. -/
theorem readsAs_zero_cons_iff (digits : Spells 10 false text n) :
    ReadsAs ('0' :: text) k ↔ (Binary64.ofDecimal false n 0).eqInt k = true := by
  have isDigits := digits.isDigits le_rfl
  have isDigits' : IsDigits ('0' :: text) :=
    ⟨List.cons_ne_nil _ _, List.forall_mem_cons.mpr ⟨rfl, isDigits.all⟩⟩
  have value := digits.natural?_eq_some (by decide)
  have value' : natural? 10 ('0' :: text) = some n := by
    rw [natural?_eq isDigits', Nat.ofDigitChars_cons]
    exact (natural?_eq isDigits).symm.trans value
  have plain : ∀ c ∈ '0' :: text, isPlain c = true :=
    fun c member => isPlain_of_isDigit (isDigits'.all c member)
  have joined_eq := joined_of_isDigits isDigits'
  have plain_eq := plainText_append plain (.inl rfl)
  have integer := integer?_plainText plain (.inl rfl)
    (joined_eq.symm ▸ takeSign_of_isDigits isDigits')
  rw [List.append_nil, joined_eq] at plain_eq integer
  rcases magnitude?_zero_cons isDigits with unread | ⟨read, zero⟩
  · rw [unread] at integer
    refine readsAs_iff_of_real? integer ?_
    rw [plain_eq]
    exact real?_of_isDigits isDigits' value'
  · rw [read] at integer
    obtain rfl : n = 0 := Option.some.inj (value.symm.trans zero)
    rw [readsAs_iff_of_integer? integer]
    refine Iff.trans ?_ (Binary64.eqInt_finite_iff 0 Binary64.leastExponent k).symm
    rw [Nat.cast_zero, zero_mul, eq_comm, eq_comm (a := (0 : ℚ)), Nat.cast_eq_zero]

theorem readsAs_legacyOctal_iff (digits : Spells 8 false text n) :
    ReadsAs ('0' :: text) n ↔ n < 8 := by
  obtain ⟨number, decimal, same, larger⟩ := digits.exists_decimal
  rw [readsAs_zero_cons_iff decimal]
  rcases Nat.lt_or_ge n 8 with small | large
  · rw [same small, Binary64.eqInt_ofDecimal_self_iff]
    exact iff_of_true ⟨n, 0, small.trans (by decide), by decide, (Nat.mul_one n).symm⟩ small
  · have gap := larger large
    rw [Binary64.eqInt_ofDecimal_of_gap (by omega) gap]
    simp [large]

/-! ## Renderings -/

theorem spells_toDigits {base : Nat} (two : 1 < base) (separated : Bool) (n : Nat) :
    Spells base separated (Nat.toDigits base n) n := by
  induction n using Nat.strongRecOn with
  | ind n ih =>
      by_cases small : n < base
      · rw [Nat.toDigits_of_lt_base small]
        exact .digit ⟨small, .inl rfl⟩
      · have large := Nat.not_lt.mp small
        have positive : 0 < base := by omega
        rw [Nat.toDigits_of_base_le two large]
        have spells := Spells.next (ih (n / base) (Nat.div_lt_self (by omega) two))
          ⟨Nat.mod_lt n positive, .inl rfl⟩
        rwa [Nat.mul_comm, Nat.div_add_mod] at spells

theorem readsAs_toDigits_ten_iff (n : Nat) :
    ReadsAs (Nat.toDigits 10 n) n ↔ n < Nat.pow 10 digitLimit := by
  have decimal := readsAs_decimal_iff (spells_toDigits (by decide) true n)
    (IsWhole.of_toDigits n).2 (.inl rfl)
  rwa [List.append_nil] at decimal

theorem readsAs_marked_toDigits {mark : Char} {base : Nat} (listed : (mark, base) ∈ markedBases)
    (two : 1 < base) (n : Nat) : ReadsAs ('0' :: mark :: Nat.toDigits base n) n := by
  have marked := readsAs_marked listed (spells_toDigits two true n) (.inl rfl)
  rwa [List.append_nil] at marked

/-- A literal is read as the number that it writes just if its form keeps the value.  The hexadecimal,
octal and binary rendering of any number is read back, and the decimal one unless it is too long. -/
theorem readsAs_literal_iff {form : Form} (literal : IsLiteral form text n) :
    (ReadsAs text n ↔ form.Keeps n) ∧
      ∀ k, (ReadsAs (Nat.toDigits 10 k) k ↔ k < Nat.pow 10 digitLimit) ∧
        ReadsAs ('0' :: 'x' :: Nat.toDigits 16 k) k ∧ ReadsAs ('0' :: 'o' :: Nat.toDigits 8 k) k ∧
        ReadsAs ('0' :: 'b' :: Nat.toDigits 2 k) k := by
  refine ⟨?_, fun k => ⟨readsAs_toDigits_ten_iff k, ?_, ?_, ?_⟩⟩
  · cases literal with
    | decimal digits start big => exact readsAs_decimal_iff digits start big
    | marked listed digits big => exact iff_of_true (readsAs_marked listed digits big) trivial
    | legacyOctal digits => exact readsAs_legacyOctal_iff digits
    | padded digits => exact (readsAs_zero_cons_iff digits).trans (Binary64.eqInt_ofDecimal_self_iff n)
  all_goals exact readsAs_marked_toDigits (by simp [markedBases]) (by decide) k

theorem readsAs_literal_iff_hexadecimal :
    IsLiteral .marked ['0', 'x', 'F', '_', 'f', 'n'] 255 ∧ ReadsAs ['0', 'x', 'F', '_', 'f', 'n'] 255 := by
  have front : Spells 16 true ['F'] 15 := .digit ⟨by decide, .inr rfl⟩
  have digits : Spells 16 true ['F', '_', 'f'] 255 :=
    .apart rfl front (⟨by decide, .inl rfl⟩ : WritesDigit 16 'f' 15)
  have literal : IsLiteral .marked ['0', 'x', 'F', '_', 'f', 'n'] 255 :=
    .marked (by simp [markedBases]) digits (.inr rfl)
  exact ⟨literal, (readsAs_literal_iff literal).1.mpr trivial⟩

/-- An octal without a mark is not read as the number that it writes. -/
theorem not_readsAs_seventeen :
    IsLiteral .legacyOctal ['0', '1', '7'] 15 ∧ ¬ ReadsAs ['0', '1', '7'] 15 := by
  have front : Spells 8 false ['1'] 1 := .digit ⟨by decide, .inl rfl⟩
  have digits : Spells 8 false ['1', '7'] 15 :=
    .next front (⟨by decide, .inl rfl⟩ : WritesDigit 8 '7' 7)
  exact ⟨.legacyOctal digits, fun read => absurd ((readsAs_legacyOctal_iff digits).mp read) (by decide)⟩

end Numeral
end Hazard
