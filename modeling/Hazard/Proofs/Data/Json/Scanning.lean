import Hazard.Data.Json.Load
import Hazard.Data.Json.Writer
import Hazard.Proofs.Number.Digits

/-!
# Scanning what was written

Every scalar that is written is scanned as one token, which is the scalar: a quoted text with its
escapes, a number as far as it goes, a word.
-/

namespace Hazard.Json

/-! ## Quoted texts -/

theorem digitValue?_hexDigit : ∀ n < 16, Numeral.digitValue? 16 (hexDigit n) = some n := by decide

theorem natural?_hexDigits {n : Nat} (small : n < 0x10000) :
    Numeral.natural? 16 [hexDigit (n / 4096 % 16), hexDigit (n / 256 % 16), hexDigit (n / 16 % 16),
      hexDigit (n % 16)] = some n := by
  have digit (k : Nat) := digitValue?_hexDigit (k % 16) (Nat.mod_lt k (by decide))
  simp only [Numeral.natural?, List.isEmpty_cons, Bool.false_eq_true, if_false, List.foldl_cons,
    List.foldl_nil, digit, Option.bind_some, Option.map_some, Option.some.injEq]
  omega

theorem pieces_escapedUnit {n : Nat} (small : n < 0x10000) (rest : List Char) :
    pieces (escapedUnit n ++ rest) = (pieces rest).map fun read => (.unit n :: read.1, read.2) := by
  simp only [escapedUnit, List.cons_append, List.nil_append, pieces, natural?_hexDigits small]
  cases pieces rest with
  | none => rfl
  | some read => rfl

theorem pieces_escape {mark c : Char} (escape : escaped? mark = some c) (rest : List Char) :
    pieces ('\\' :: mark :: rest) = (pieces rest).map fun read => (.char c :: read.1, read.2) := by
  have no_number : mark ≠ 'u' := by
    rintro rfl
    contradiction
  rw [pieces.eq_def]
  split
  · contradiction
  · rename_i same
    simp at same
  · rename_i same
    exact absurd (List.cons.inj (List.cons.inj same).2).1 no_number
  · rename_i same
    obtain ⟨-, same⟩ := List.cons.inj same
    obtain ⟨rfl, rfl⟩ := List.cons.inj same
    rw [escape]
    cases pieces rest with
    | none => rfl
    | some read => rfl
  · rename_i no_escape same
    obtain ⟨rfl, rfl⟩ := List.cons.inj same
    exact absurd rfl (no_escape mark rest rfl)

theorem pieces_plain {c : Char} (visible : 32 ≤ c.toNat) (no_quote : c ≠ '"')
    (no_escape : c ≠ '\\') (rest : List Char) :
    pieces (c :: rest) = (pieces rest).map fun read => (.char c :: read.1, read.2) := by
  rw [pieces]
  · have accepted : ¬ ((decide (c.toNat < 32) || c == '\\') = true) := by
      simp [no_escape, visible]
    rw [if_neg accepted]
    cases pieces rest with
    | none => rfl
    | some read => rfl
  · exact no_quote
  · rintro _ _ _ _ _ rfl
    contradiction
  · rintro _ _ rfl
    contradiction

theorem characters?_unit {n : Nat} (no_high : isHighHalf n = false) (no_low : isLowHalf n = false)
    (more : List Piece) :
    characters? (.unit n :: more) = (characters? more).map (Char.ofNat n :: ·) := by
  cases more with
  | nil => simp [characters?, no_high, no_low]
  | cons piece more =>
      cases piece with
      | char c => simp [characters?, no_high, no_low]
      | unit next => simp [characters?, no_high, no_low]

theorem characters?_pair {high low : Nat} (isHigh : isHighHalf high) (isLow : isLowHalf low)
    (more : List Piece) :
    characters? (.unit high :: .unit low :: more) =
      (characters? more).map
        (Char.ofNat (0x10000 + (high - 0xd800) * 0x400 + (low - 0xdc00)) :: ·) := by
  simp [characters?, isHigh, isLow]

/-- The pieces stand for the character, whatever follows them. -/
structure Stands (parts : List Piece) (c : Char) (written : List Char) : Prop where
  pieces_append (rest : List Char) :
    pieces (written ++ rest) = (pieces rest).map fun read => (parts ++ read.1, read.2)
  characters?_append (more : List Piece) :
    characters? (parts ++ more) = (characters? more).map (c :: ·)

theorem stands_escape {mark c : Char} (escape : escaped? mark = some c) :
    Stands [.char c] c ['\\', mark] :=
  ⟨pieces_escape escape, fun _ => rfl⟩

theorem exists_stands_escapedCode (c : Char) : ∃ parts, Stands parts c (escapedCode c.toNat) := by
  have valid : c.toNat < 0xd800 ∨ 0xdfff < c.toNat ∧ c.toNat < 0x110000 := c.valid
  rw [escapedCode]
  split
  · rename_i small
    refine ⟨[.unit c.toNat], pieces_escapedUnit small, fun more => ?_⟩
    have no_high : isHighHalf c.toNat = false := by
      simp only [isHighHalf, Bool.and_eq_false_iff, decide_eq_false_iff_not]
      omega
    have no_low : isLowHalf c.toNat = false := by
      simp only [isLowHalf, Bool.and_eq_false_iff, decide_eq_false_iff_not]
      omega
    rw [List.singleton_append, characters?_unit no_high no_low, Char.ofNat_toNat]
  · rename_i large
    set high := 0xd800 + (c.toNat - 0x10000) / 0x400 with high_eq
    set low := 0xdc00 + (c.toNat - 0x10000) % 0x400 with low_eq
    refine ⟨[.unit high, .unit low], fun rest => ?_, fun more => ?_⟩
    · rw [List.append_assoc, pieces_escapedUnit (by omega), pieces_escapedUnit (by omega),
        Option.map_map]
      rfl
    · have isHigh : isHighHalf high := by
        simp only [isHighHalf, Bool.and_eq_true, decide_eq_true_eq]
        omega
      have isLow : isLowHalf low := by
        simp only [isLowHalf, Bool.and_eq_true, decide_eq_true_eq]
        omega
      have code_eq : 0x10000 + (high - 0xd800) * 0x400 + (low - 0xdc00) = c.toNat := by omega
      rw [List.cons_append, List.singleton_append, characters?_pair isHigh isLow, code_eq,
        Char.ofNat_toNat]

/-- Every character of a quoted text is read back. -/
theorem exists_stands_escapedChar (asciiOnly : Bool) (c : Char) :
    ∃ parts, Stands parts c (escapedChar asciiOnly c) := by
  rw [escapedChar]
  split_ifs with quote backslash newline carriage tab backspace feed coded
  · exact ⟨_, stands_escape (congrArg some (beq_iff_eq.mp quote).symm)⟩
  · exact ⟨_, stands_escape (congrArg some (beq_iff_eq.mp backslash).symm)⟩
  · exact ⟨_, stands_escape (congrArg some (beq_iff_eq.mp newline).symm)⟩
  · exact ⟨_, stands_escape (congrArg some (beq_iff_eq.mp carriage).symm)⟩
  · exact ⟨_, stands_escape (congrArg some (beq_iff_eq.mp tab).symm)⟩
  · exact ⟨_, stands_escape (congrArg some (beq_iff_eq.mp backspace).symm)⟩
  · exact ⟨_, stands_escape (congrArg some (beq_iff_eq.mp feed).symm)⟩
  · exact exists_stands_escapedCode c
  · have visible : 32 ≤ c.toNat := by
      simp only [Bool.or_eq_true, decide_eq_true_eq, not_or] at coded
      omega
    exact ⟨[.char c], pieces_plain visible (by simpa using quote) (by simpa using backslash),
      fun _ => rfl⟩

/-- A quoted text is read back up to its closing quote. -/
theorem exists_pieces_quoted (asciiOnly : Bool) (text after : List Char) :
    ∃ parts, pieces (text.flatMap (escapedChar asciiOnly) ++ '"' :: after) = some (parts, after) ∧
      characters? parts = some text := by
  induction text with
  | nil => exact ⟨[], by simp [pieces], rfl⟩
  | cons c text ih =>
      obtain ⟨parts, read, characters⟩ := ih
      obtain ⟨first, stands⟩ := exists_stands_escapedChar asciiOnly c
      refine ⟨first ++ parts, ?_, ?_⟩
      · rw [List.flatMap_cons, List.append_assoc, stands.pieces_append, read]
        rfl
      · rw [stands.characters?_append, characters]
        rfl

theorem takeToken_quoted (style : Style) (text : String) (after : List Char) :
    takeToken (quoted style text.toList ++ after) = some (.scalar (.str text), after) := by
  obtain ⟨parts, read, characters⟩ := exists_pieces_quoted style.asciiOnly text.toList after
  rw [quoted, List.append_assoc, List.cons_append, takeToken, List.singleton_append, read]
  simp [characters]

/-! ## Numbers -/

open Numeral

/-- Nothing that could continue a number comes next. -/
def Breaks (text : List Char) : Prop :=
  ∀ c ∈ text.head?, c.isDigit = false ∧ c ≠ '.' ∧ c ≠ 'e' ∧ c ≠ 'E'

theorem breaks_nil : Breaks [] := nofun

theorem breaks_cons {c : Char} (break_eq : (c.isDigit || c == '.' || c == 'e' || c == 'E') = false)
    (rest : List Char) : Breaks (c :: rest) := by
  rintro _ ⟨rfl⟩
  simpa [and_assoc] using break_eq

theorem takeFraction_append {fraction rest : List Char} (isFraction : IsFraction fraction)
    (ends : EndsDigits rest) (no_point : rest.head? ≠ some '.') :
    takeFraction (fraction ++ rest) = (fraction, rest) := by
  cases isFraction with
  | absent =>
      rw [List.nil_append, takeFraction]
      rintro d more rfl
      exact no_point rfl
  | @point digits isDigits =>
      cases digits with
      | nil => exact absurd rfl isDigits.nonempty
      | cons d digits =>
          have digit := isDigits.all d List.mem_cons_self
          have all : ∀ c ∈ digits, c.isDigit := fun c mem =>
            isDigits.all c (List.mem_cons_of_mem d mem)
          rw [List.cons_append, List.cons_append, takeFraction, if_pos digit,
            takeWhile_isDigit_append all ends, dropWhile_isDigit_append all ends]

theorem takeExponent_append {exponent after : List Char} (isExponent : IsExponent exponent)
    (breaks : Breaks after) : takeExponent (exponent ++ after) = (exponent, after) := by
  have ends : EndsDigits after := fun c mem => (breaks c mem).1
  have taken {digits : List Char} (isDigits : IsDigits digits) :
      (digits.head?.or after.head?).any Char.isDigit ∧
        (digits ++ after).takeWhile Char.isDigit = digits ∧
        (digits ++ after).dropWhile Char.isDigit = after := by
    refine ⟨?_, takeWhile_isDigit_append isDigits.all ends,
      dropWhile_isDigit_append isDigits.all ends⟩
    cases digits with
    | nil => exact absurd rfl isDigits.nonempty
    | cons d digits => simpa using isDigits.all d List.mem_cons_self
  cases isExponent with
  | absent =>
      cases after with
      | nil => rfl
      | cons c after =>
          have other := breaks c rfl
          simp [takeExponent, other]
  | @bare digits isDigits =>
      obtain ⟨first, digits_eq, after_eq⟩ := taken isDigits
      rw [List.cons_append, takeExponent]
      · simp [first, digits_eq, after_eq]
      · exact isDigits.append_ne_cons rfl after
      · exact isDigits.append_ne_cons rfl after
  | plus isDigits =>
      obtain ⟨first, digits_eq, after_eq⟩ := taken isDigits
      simp [takeExponent, first, digits_eq, after_eq]
  | minus isDigits =>
      obtain ⟨first, digits_eq, after_eq⟩ := taken isDigits
      simp [takeExponent, first, digits_eq, after_eq]

theorem Breaks.endsDigits {after : List Char} (breaks : Breaks after) : EndsDigits after :=
  fun c mem => (breaks c mem).1

theorem Breaks.head?_ne_point {after : List Char} (breaks : Breaks after) :
    after.head? ≠ some '.' :=
  fun same => (breaks '.' same).2.1 rfl

/-- A number is cut off where it ends. -/
theorem numberParts?_append {whole fraction exponent after : List Char} (isWhole : IsWhole whole)
    (isFraction : IsFraction fraction) (isExponent : IsExponent exponent) (breaks : Breaks after) :
    numberParts? (whole ++ (fraction ++ (exponent ++ after))) =
      some ⟨whole, fraction, exponent, after⟩ := by
  have exponent_ends := isExponent.endsDigits.append breaks.endsDigits
  have fraction_ends := isFraction.endsDigits.append exponent_ends
  have fraction_taken := takeFraction_append isFraction exponent_ends
    (isExponent.head?_ne_point breaks.head?_ne_point)
  have exponent_taken := takeExponent_append isExponent breaks
  cases whole with
  | nil => exact absurd rfl isWhole.digits.nonempty
  | cons c digits =>
      by_cases zero : c = '0'
      · subst zero
        obtain rfl : digits = [] := (List.cons.inj (isWhole.zero rfl)).2
        simp [numberParts?, fraction_taken, exponent_taken]
      · have taken := takeWhile_isDigit_append isWhole.digits.all fraction_ends
        rw [List.cons_append] at taken ⊢
        rw [numberParts?]
        · simp only [taken]
          simp [fraction_taken, exponent_taken]
        · exact fun tail same => zero (List.cons.inj same).1

theorem leadingDigits_append {whole rest : List Char} (isWhole : IsWhole whole)
    (ends : EndsDigits rest) : leadingDigits (whole ++ rest) = whole.length := by
  cases whole with
  | nil => exact absurd rfl isWhole.digits.nonempty
  | cons c digits =>
      by_cases zero : c = '0'
      · subst zero
        rw [isWhole.zero rfl]
        rfl
      · have taken := takeWhile_isDigit_append isWhole.digits.all ends
        rw [List.cons_append] at taken ⊢
        rw [leadingDigits, taken]
        exact fun tail same => zero (List.cons.inj same).1

/-- The sign of a number. -/
def sign (negative : Bool) : List Char := if negative then ['-'] else []

theorem leadingLength_append (negative : Bool) {whole rest : List Char} (isWhole : IsWhole whole)
    (ends : EndsDigits rest) :
    leadingLength (sign negative ++ (whole ++ rest)) = (sign negative).length + whole.length := by
  have digits_eq := leadingDigits_append isWhole ends
  cases negative with
  | true =>
      change leadingDigits (whole ++ rest) + 1 = 1 + whole.length
      omega
  | false =>
      rw [sign, if_neg Bool.false_ne_true, List.nil_append, leadingLength, digits_eq,
        List.length_nil, Nat.zero_add]
      exact isWhole.digits.append_ne_cons rfl rest

theorem find?_wordValues (negative : Bool) {whole : List Char} (isDigits : IsDigits whole)
    (rest : List Char) :
    (wordValues.find? fun entry =>
      entry.1.toList.isPrefixOf (sign negative ++ (whole ++ rest))) = none := by
  cases whole with
  | nil => exact absurd rfl isDigits.nonempty
  | cons c digits =>
      have digit := isDigits.all c List.mem_cons_self
      have other {mark : Char} (no_digit : mark.isDigit = false) : (mark == c) = false := by
        rw [beq_eq_false_iff_ne]
        rintro rfl
        simp [no_digit] at digit
      cases negative with
      | false => simp [wordValues, sign, List.isPrefixOf, other]
      | true => simp [wordValues, sign, List.isPrefixOf, other]

theorem takeScalar_number (negative : Bool) {whole fraction exponent after : List Char}
    {value : Scalar} (isWhole : IsWhole whole) (isFraction : IsFraction fraction)
    (isExponent : IsExponent exponent) (breaks : Breaks after)
    (value_eq : numberValue? negative ⟨whole, fraction, exponent, after⟩ = some value) :
    takeScalar (sign negative ++ (whole ++ (fraction ++ (exponent ++ after)))) =
      some (value, after) := by
  have parts := numberParts?_append isWhole isFraction isExponent breaks
  have no_word := find?_wordValues negative isWhole.digits (fraction ++ (exponent ++ after))
  unfold takeScalar
  rw [no_word]
  cases negative with
  | true =>
      simp only [sign, if_true, List.singleton_append, parts, Option.bind_eq_bind, Option.bind_some,
        value_eq, Option.pure_def]
  | false =>
      simp only [sign, Bool.false_eq_true, if_false, List.nil_append]
      split
      · rename_i tail same
        exact absurd same (isWhole.digits.append_ne_cons rfl _ tail)
      · simp only [parts, Option.bind_eq_bind, Option.bind_some, value_eq, Option.pure_def]

/-- What starts neither a list, a mapping nor a quoted text is a word or a number. -/
theorem takeToken_eq_takeScalar {c : Char}
    (plain : c ∉ ['[', ']', '\x7b', '\x7d', ',', ':', '"']) (rest : List Char) :
    takeToken (c :: rest) =
      (takeScalar (c :: rest)).map fun read => (.scalar read.1, read.2) := by
  simp only [List.mem_cons, List.not_mem_nil, or_false, not_or] at plain
  rw [takeToken]
  all_goals simp [plain]

/-! ## Tokens -/

/-- The token is an integer that has too many characters. -/
def Token.isLong : Token → Bool
  | .scalar (.int n) => digitLimit < (integer n).length
  | _ => false

/-- The piece is scanned as the token if that follows it, and is as long as the token is. -/
structure Spells (token : Token) (piece after : List Char) : Prop where
  /-- The piece is scanned as the token, and what follows is left. -/
  taken : takeToken (piece ++ after) = some (token, after)
  /-- It has too many digits exactly if the token is marked so. -/
  long : (decide (digitLimit < leadingLength (piece ++ after))) = token.isLong
  /-- It does not start with a blank. -/
  solid : ∃ c rest, piece = c :: rest ∧ isSpace c = false

/-- A piece that is no number has no digits. -/
theorem leadingLength_eq_zero {c : Char} (no_digit : c.isDigit = false) (no_sign : c ≠ '-')
    (rest : List Char) : leadingLength (c :: rest) = 0 := by
  have no_zero : c ≠ '0' := by
    rintro rfl
    contradiction
  rw [leadingLength, leadingDigits, List.takeWhile_cons, if_neg (by simp [no_digit]),
    List.length_nil]
  · exact fun tail same => no_zero (List.cons.inj same).1
  · exact fun tail same => no_sign (List.cons.inj same).1

theorem spells_of_mark {token : Token} {c : Char} (no_digit : c.isDigit = false) (no_sign : c ≠ '-')
    (no_space : isSpace c = false) (short : token.isLong = false) {rest after : List Char}
    (taken : takeToken (c :: rest ++ after) = some (token, after)) :
    Spells token (c :: rest) after where
  taken := taken
  long := by
    rw [short, List.cons_append, leadingLength_eq_zero no_digit no_sign]
    rfl
  solid := ⟨c, rest, rfl, no_space⟩

theorem spells_quoted (style : Style) (text : String) (after : List Char) :
    Spells (.scalar (.str text)) (quoted style text.toList) after :=
  spells_of_mark rfl (by decide) rfl rfl (takeToken_quoted style text after)

theorem plain_of_isDigit {c : Char} (digit : c.isDigit) :
    c ∉ ['[', ']', '\x7b', '\x7d', ',', ':', '"'] ∧ isSpace c = false := by
  have other {mark : Char} (no_digit : mark.isDigit = false) : c ≠ mark := by
    rintro rfl
    simp [no_digit] at digit
  constructor
  · simp [other]
  · simp [isSpace, other]

theorem spells_number {negative : Bool} {whole fraction exponent after : List Char}
    {value : Scalar} (isWhole : IsWhole whole) (isFraction : IsFraction fraction)
    (isExponent : IsExponent exponent) (breaks : Breaks after)
    (value_eq : numberValue? negative ⟨whole, fraction, exponent, after⟩ = some value)
    (long : decide (digitLimit < (sign negative).length + whole.length) =
      Token.isLong (.scalar value)) :
    Spells (.scalar value) (sign negative ++ (whole ++ (fraction ++ exponent))) after := by
  have joined : sign negative ++ (whole ++ (fraction ++ exponent)) ++ after =
      sign negative ++ (whole ++ (fraction ++ (exponent ++ after))) := by
    simp only [List.append_assoc]
  have ends := isFraction.endsDigits.append (isExponent.endsDigits.append breaks.endsDigits)
  have scalar_taken := takeScalar_number negative isWhole isFraction isExponent breaks value_eq
  obtain ⟨c, rest, piece_eq, plain, no_space⟩ : ∃ c rest,
      sign negative ++ (whole ++ (fraction ++ exponent)) = c :: rest ∧
        c ∉ ['[', ']', '\x7b', '\x7d', ',', ':', '"'] ∧ isSpace c = false := by
    cases negative with
    | true => exact ⟨'-', _, rfl, by decide, rfl⟩
    | false =>
        cases whole with
        | nil => exact absurd rfl isWhole.digits.nonempty
        | cons c digits =>
            exact ⟨c, _, rfl, plain_of_isDigit (isWhole.digits.all c List.mem_cons_self)⟩
  refine ⟨?_, ?_, c, rest, piece_eq, no_space⟩
  · rw [piece_eq, List.cons_append, takeToken_eq_takeScalar plain, ← List.cons_append, ← piece_eq,
      joined, scalar_taken]
    rfl
  · rw [joined, leadingLength_append negative isWhole ends, long]

theorem spells_integer (n : Int) {after : List Char} (breaks : Breaks after) :
    Spells (.scalar (.int n)) (integer n) after := by
  have text_eq : integer n = sign (n < 0) ++ (Nat.toDigits 10 n.natAbs ++ ([] ++ [])) := by
    simp [integer, sign]
  have value_eq : numberValue? (n < 0) ⟨Nat.toDigits 10 n.natAbs, [], [], after⟩ = some (.int n) := by
    have signed : (if n < 0 then -(n.natAbs : Int) else n.natAbs) = n := by
      split <;> omega
    simpa [numberValue?, natural?_toDigits] using signed
  rw [text_eq]
  refine spells_number (.of_toDigits n.natAbs) .absent .absent breaks value_eq ?_
  rw [Token.isLong, text_eq]
  simp

/-- Words are scanned whole. -/
theorem takeScalar_word {word : String} {value : Scalar} (listed : (word, value) ∈ wordValues)
    (after : List Char) : takeScalar (word.toList ++ after) = some (value, after) := by
  simp only [wordValues, List.mem_cons, Prod.mk.injEq, List.not_mem_nil, or_false] at listed
  unfold takeScalar
  rcases listed with ⟨rfl, rfl⟩ | ⟨rfl, rfl⟩ | ⟨rfl, rfl⟩ | ⟨rfl, rfl⟩ | ⟨rfl, rfl⟩ | ⟨rfl, rfl⟩
  all_goals rfl

/-- What a word starts with. -/
theorem exists_cons_of_mem_wordValues {word : String} {value : Scalar}
    (listed : (word, value) ∈ wordValues) : ∃ c rest, word.toList = c :: rest ∧
      c ∉ ['[', ']', '\x7b', '\x7d', ',', ':', '"'] ∧ isSpace c = false ∧
      Token.isLong (.scalar value) = false ∧ ∀ after, leadingLength (c :: rest ++ after) ≤ 1 := by
  simp only [wordValues, List.mem_cons, Prod.mk.injEq, List.not_mem_nil, or_false] at listed
  rcases listed with ⟨rfl, rfl⟩ | ⟨rfl, rfl⟩ | ⟨rfl, rfl⟩ | ⟨rfl, rfl⟩ | ⟨rfl, rfl⟩ | ⟨rfl, rfl⟩
  · exact ⟨'n', "ull".toList, by decide, by decide, rfl, rfl, fun after => by
      simp [leadingLength, leadingDigits]⟩
  · exact ⟨'t', "rue".toList, by decide, by decide, rfl, rfl, fun after => by
      simp [leadingLength, leadingDigits]⟩
  · exact ⟨'f', "alse".toList, by decide, by decide, rfl, rfl, fun after => by
      simp [leadingLength, leadingDigits]⟩
  · exact ⟨'N', "aN".toList, by decide, by decide, rfl, rfl, fun after => by
      simp [leadingLength, leadingDigits]⟩
  · exact ⟨'I', "nfinity".toList, by decide, by decide, rfl, rfl, fun after => by
      simp [leadingLength, leadingDigits]⟩
  · exact ⟨'-', "Infinity".toList, by decide, by decide, rfl, rfl, fun after => by
      simp [leadingLength, leadingDigits]⟩

theorem spells_word {word : String} {value : Scalar} (listed : (word, value) ∈ wordValues)
    (after : List Char) : Spells (.scalar value) word.toList after := by
  have scalar_taken := takeScalar_word listed after
  obtain ⟨c, rest, word_eq, plain, no_space, short, length_le⟩ := exists_cons_of_mem_wordValues listed
  rw [word_eq] at scalar_taken ⊢
  refine ⟨?_, ?_, c, rest, rfl, no_space⟩
  · rw [List.cons_append, takeToken_eq_takeScalar plain, ← List.cons_append, scalar_taken]
    rfl
  · have length_le := length_le after
    rw [short, decide_eq_false_iff_not, digitLimit]
    omega

/-- A decimal that is no integer by its text. -/
theorem spells_writes {negative : Bool} {d : Decimal} {x : Binary64}
    {whole fraction exponent after : List Char} (writes : Binary64.Writes d whole fraction exponent)
    (value_eq : Binary64.ofDecimal negative d.digits d.power = x)
    (narrow : whole.length < digitLimit) (breaks : Breaks after) :
    Spells (.scalar (.float x)) (sign negative ++ (whole ++ (fraction ++ exponent))) after := by
  refine spells_number writes.isWhole writes.isFraction writes.isExponent breaks ?_ ?_
  · have no_integer : (fraction.isEmpty && exponent.isEmpty) = false := by
      rcases writes.isDecimal with present | present
      · simp [present]
      · simp [present]
    rw [numberValue?, if_neg (by simp [no_integer]), writes.value, value_eq]
    rfl
  · have sign_length : (sign negative).length ≤ 1 := by
      cases negative <;> decide
    have short : Token.isLong (.scalar (.float x)) = false := rfl
    rw [short, decide_eq_false_iff_not]
    omega

theorem writes_zero : Binary64.Writes ⟨0, -1⟩ ['0'] ['.', '0'] [] :=
  Binary64.writes_zeros_append ⟨0, -1⟩ 0 rfl

/-- Every number of 64 bits is scanned as itself. -/
theorem spells_decimal {style : Style} (narrow : style.decimals.greatestPoint < digitLimit)
    {x : Binary64} (canonical : x.IsCanonical) {after : List Char} (breaks : Breaks after) :
    Spells (.scalar (.float x)) (decimal style x) after := by
  rcases x with _ | (_ | _) | ⟨negative, m, e⟩
  · exact @spells_word "NaN" _ (by decide) after
  · exact @spells_word "Infinity" _ (by decide) after
  · exact @spells_word "-Infinity" _ (by decide) after
  · have sign_eq : ((if negative then "-" else "") : String).toList = sign negative := by
      cases negative <;> rfl
    by_cases zero : m = 0
    · obtain rfl : e = Binary64.leastExponent :=
        canonical.2.2.2.resolve_left (by rw [zero]; decide)
      have text_eq : decimal style (.finite negative m Binary64.leastExponent) =
          sign negative ++ (['0'] ++ (['.', '0'] ++ [])) := by
        change ((Binary64.finite negative m Binary64.leastExponent).format style.decimals).toList = _
        rw [Binary64.format, String.toList_append, sign_eq, if_pos (by simpa using zero)]
        rfl
      rw [text_eq]
      exact spells_writes writes_zero (by rw [zero]; rfl) (by decide) breaks
    · obtain ⟨whole, fraction, exponent, split, writes, length_le⟩ :=
        Binary64.exists_writes_decimalText style.decimals
          (Binary64.shortest_digits_ne_zero zero canonical)
      have text_eq : decimal style (.finite negative m e) =
          sign negative ++ (whole ++ (fraction ++ exponent)) := by
        change ((Binary64.finite negative m e).format style.decimals).toList = _
        rw [Binary64.format, String.toList_append, sign_eq, if_neg (by simpa using zero),
          String.toList_ofList, split, List.append_assoc]
      rw [text_eq]
      refine spells_writes writes (Binary64.ofDecimal_shortest zero canonical) ?_ breaks
      have limit : (1 : Int) < digitLimit := by decide
      omega

/-- JSON has a form for the scalar. -/
def HasForm : Scalar → Prop
  | .null => True
  | .bool _ => True
  | .int _ => True
  | .float x => x.IsCanonical
  | .str _ => True
  | .bytes _ => False
  | .date _ => False
  | .instant _ => False
  | .recurring => False

theorem spells_scalar {style : Style} (narrow : style.decimals.greatestPoint < digitLimit)
    {value : Scalar} (hasForm : HasForm value) {after : List Char} (breaks : Breaks after) :
    Spells (.scalar value) (scalar style value) after := by
  cases value with
  | null => exact @spells_word "null" _ (by decide) after
  | bool value =>
      cases value with
      | true => exact @spells_word "true" _ (by decide) after
      | false => exact @spells_word "false" _ (by decide) after
  | int n => exact spells_integer n breaks
  | float x => exact spells_decimal narrow hasForm breaks
  | str text => exact spells_quoted style text after
  | bytes | date | instant | recurring => exact hasForm.elim

/-! ## Scanning -/

/-- The text is scanned as the tokens up to a rest of it. -/
inductive Scans : List Char → List Token → List Char → Prop
  | nil (text : List Char) : Scans text [] text
  | cons {spaces piece after rest : List Char} {token : Token} {tokens : List Token}
      (blank : ∀ c ∈ spaces, isSpace c) (spells : Spells token piece after)
      (more : Scans after tokens rest) : Scans (spaces ++ (piece ++ after)) (token :: tokens) rest

theorem Scans.append {text middle rest : List Char} {tokens others : List Token}
    (first : Scans text tokens middle) (second : Scans middle others rest) :
    Scans text (tokens ++ others) rest := by
  induction first with
  | nil => exact second
  | cons blank spells _ ih => exact .cons blank spells (ih second)

/-- Spaces before a token do not matter. -/
theorem Scans.indent {spaces text rest : List Char} {tokens : List Token}
    (scans : Scans text tokens rest) (nonempty : tokens ≠ []) (blank : ∀ c ∈ spaces, isSpace c) :
    Scans (spaces ++ text) tokens rest := by
  cases scans with
  | nil => contradiction
  | cons inner spells more =>
      rw [← List.append_assoc]
      refine .cons (fun c mem => ?_) spells more
      rcases List.mem_append.mp mem with mem | mem
      · exact blank c mem
      · exact inner c mem

theorem Scans.piece {token : Token} {tokens : List Token} {piece after rest : List Char}
    (more : Scans after tokens rest) (spells : Spells token piece after) :
    Scans (piece ++ after) (token :: tokens) rest :=
  @Scans.cons [] piece after rest token tokens nofun spells more

/-- A mark that is a token by itself. -/
theorem Scans.mark {c : Char} {token : Token} {tokens : List Token} {after rest : List Char}
    (more : Scans after tokens rest)
    (listed : (c, token) ∈ [('[', Token.openList), (']', .closeList), ('\x7b', .openMap),
      ('\x7d', .closeMap), (',', .comma), (':', .colon)]) :
    Scans (c :: after) (token :: tokens) rest := by
  refine @Scans.piece token tokens [c] after rest more ?_
  simp only [List.mem_cons, Prod.mk.injEq, List.not_mem_nil, or_false] at listed
  rcases listed with ⟨rfl, rfl⟩ | ⟨rfl, rfl⟩ | ⟨rfl, rfl⟩ | ⟨rfl, rfl⟩ | ⟨rfl, rfl⟩ | ⟨rfl, rfl⟩
  all_goals exact spells_of_mark rfl (by decide) rfl rfl rfl

/-- After spaces comes what is scanned next. -/
theorem Spells.dropWhile_append {token : Token} {piece after spaces : List Char}
    (spells : Spells token piece after) (blank : ∀ c ∈ spaces, isSpace c) :
    (spaces ++ (piece ++ after)).dropWhile isSpace = piece ++ after := by
  obtain ⟨c, rest, rfl, no_space⟩ := spells.solid
  rw [List.dropWhile_append_of_pos blank, List.cons_append, List.dropWhile_cons, if_neg]
  simp [no_space]

/-- A text is cut into the tokens that it is scanned as. -/
theorem Scans.tokensWithin_eq {text rest : List Char} {tokens : List Token}
    (scans : Scans text tokens rest) (blank : ∀ c ∈ rest, isSpace c) {steps : Nat}
    (enough : text.length ≤ steps) : tokensWithin steps text = some tokens := by
  induction scans generalizing steps with
  | nil text =>
      have none_left : text.dropWhile isSpace = [] := List.dropWhile_eq_nil_iff.mpr blank
      cases steps with
      | zero => simp [tokensWithin, none_left]
      | succ steps => rw [tokensWithin, none_left]
  | @cons spaces piece after _ token tokens spaces_blank spells _ ih =>
      have dropped := spells.dropWhile_append spaces_blank
      obtain ⟨c, more, rfl, no_space⟩ := spells.solid
      have taken := spells.taken
      simp only [List.length_append, List.length_cons] at enough
      cases steps with
      | zero => omega
      | succ steps =>
          rw [tokensWithin, dropped, List.cons_append]
          rw [List.cons_append] at taken
          simp only [taken, Option.bind_eq_bind, Option.bind_some]
          rw [ih blank (by omega)]
          rfl

theorem Scans.longNumberWithin_eq {text rest : List Char} {tokens : List Token}
    (scans : Scans text tokens rest) (blank : ∀ c ∈ rest, isSpace c) {steps : Nat}
    (enough : text.length ≤ steps) : longNumberWithin steps text = tokens.any Token.isLong := by
  induction scans generalizing steps with
  | nil text =>
      have none_left : text.dropWhile isSpace = [] := List.dropWhile_eq_nil_iff.mpr blank
      cases steps with
      | zero => rfl
      | succ steps =>
          rw [longNumberWithin, none_left]
          rfl
  | @cons spaces piece after _ token tokens spaces_blank spells _ ih =>
      have dropped := spells.dropWhile_append spaces_blank
      obtain ⟨c, more, piece_eq, no_space⟩ := spells.solid
      simp only [List.length_append, piece_eq, List.length_cons] at enough
      cases steps with
      | zero => omega
      | succ steps =>
          rw [longNumberWithin, dropped, spells.long, spells.taken, List.any_cons]
          simp only [ih blank (by omega : after.length ≤ steps)]

end Hazard.Json
