import Hazard.Proofs.Data.Json.RoundTrip

/-!
# What is read

Whatever is read from a JSON text can be written: its mappings have different texts as keys, and JSON
has a form for its other scalars.  If no number of the text is too long, no integer of the value is.
-/

namespace Hazard.Json

open Numeral

/-! ## Numbers -/

theorem numberParts?_whole {text : List Char} {parts : NumberParts}
    (cut : numberParts? text = some parts) :
    IsDigits parts.whole ∧ parts.whole.length = leadingDigits text := by
  rw [numberParts?.eq_def] at cut
  dsimp only at cut
  split at cut
  · obtain rfl := Option.some.inj cut
    exact ⟨isDigits_toDigits 0, rfl⟩
  · rename_i no_zero
    split at cut
    · contradiction
    · rename_i nonempty
      obtain rfl := Option.some.inj cut
      refine ⟨⟨by simpa using nonempty, fun c mem => List.mem_takeWhile_imp mem⟩, ?_⟩
      rw [leadingDigits]
      exact no_zero

/-- The value of digits is written with at most as many. -/
theorem length_toDigits_le {text : List Char} {n : Nat} (digits : IsDigits text)
    (read : natural? 10 text = some n) : (Nat.toDigits 10 n).length ≤ text.length := by
  rw [natural?_eq digits] at read
  obtain rfl := Option.some.inj read
  refine (Nat.length_toDigits_le_iff (by decide) (List.length_pos_iff.mpr digits.nonempty)).mpr ?_
  simpa using ofDigitChars_lt digits.all 0

theorem length_integer_le (negative : Bool) (n : Nat) :
    (integer (if negative then -(n : Int) else n)).length ≤
      (sign negative).length + (Nat.toDigits 10 n).length := by
  rw [integer, List.length_append]
  cases negative with
  | true =>
      have shorter : (if -(n : Int) < 0 then ['-'] else []).length ≤ 1 := by
        split <;> decide
      simpa [sign] using shorter
  | false =>
      have positive : ¬ (n : Int) < 0 := by omega
      simp [positive]

theorem isCanonical_of_decimal? {negative : Bool} {text : List Char} {x : Binary64}
    (read : decimal? negative text = some x) : x.IsCanonical := by
  rw [decimal?] at read
  dsimp only at read
  split at read
  · obtain rfl := Option.some.inj read
    exact Binary64.ofDecimal_isCanonical _ _ _
  · contradiction

/-- A scalar that was read, and how long its text was before a point. -/
structure Read (value : Scalar) (length : Nat) : Prop where
  hasForm : HasForm value
  long : (Token.scalar value).isLong → digitLimit < length

theorem read_of_numberValue? {negative : Bool} {text : List Char} {parts : NumberParts}
    {value : Scalar} (cut : numberParts? text = some parts)
    (value_eq : numberValue? negative parts = some value) :
    Read value ((sign negative).length + leadingDigits text) := by
  obtain ⟨digits, length_eq⟩ := numberParts?_whole cut
  rw [numberValue?] at value_eq
  split at value_eq
  · obtain ⟨_, read, rfl⟩ := Option.map_eq_some_iff.mp value_eq
    obtain ⟨n, n_eq, same⟩ := Option.bind_eq_some_iff.mp read
    obtain rfl := Option.some.inj same
    refine ⟨trivial, fun long => ?_⟩
    have digits_le := length_toDigits_le digits n_eq
    have length_le := length_integer_le negative n
    rw [Token.isLong, decide_eq_true_eq] at long
    omega
  · obtain ⟨x, x_eq, rfl⟩ := Option.map_eq_some_iff.mp value_eq
    exact ⟨isCanonical_of_decimal? x_eq, fun long => absurd long Bool.false_ne_true⟩

/-! ## Tokens -/

theorem read_of_mem_wordValues {word : String} {value : Scalar}
    (listed : (word, value) ∈ wordValues) (length : Nat) : Read value length := by
  simp only [wordValues, List.mem_cons, Prod.mk.injEq, List.not_mem_nil, or_false] at listed
  rcases listed with ⟨-, rfl⟩ | ⟨-, rfl⟩ | ⟨-, rfl⟩ | ⟨-, rfl⟩ | ⟨-, rfl⟩ | ⟨-, rfl⟩
  all_goals exact ⟨trivial, fun long => absurd long Bool.false_ne_true⟩

theorem read_of_takeScalar {text after : List Char} {value : Scalar}
    (taken : takeScalar text = some (value, after)) : Read value (leadingLength text) := by
  unfold takeScalar at taken
  split at taken
  · rename_i word other found
    obtain ⟨rfl, -⟩ := Prod.mk.inj (Option.some.inj taken)
    exact read_of_mem_wordValues (List.mem_of_find?_eq_some found) _
  · simp only [Option.bind_eq_bind, Option.bind_eq_some_iff] at taken
    obtain ⟨parts, cut, _, value_eq, same⟩ := taken
    obtain ⟨rfl, -⟩ := Prod.mk.inj (Option.some.inj same)
    split at cut
    · have read := read_of_numberValue? cut value_eq
      rwa [Nat.add_comm] at read
    · rename_i no_sign
      have read := read_of_numberValue? cut value_eq
      rw [leadingLength]
      · simpa [sign] using read
      · exact no_sign

/-- Every scalar that is scanned has a form, and is long only if its text is. -/
theorem read_of_takeToken {text after : List Char} {value : Scalar}
    (taken : takeToken text = some (.scalar value, after)) : Read value (leadingLength text) := by
  rw [takeToken.eq_def] at taken
  split at taken
  · contradiction
  · simp at taken
  · simp at taken
  · simp at taken
  · simp at taken
  · simp at taken
  · simp at taken
  · simp only [Option.bind_eq_bind, Option.bind_eq_some_iff] at taken
    obtain ⟨_, -, same⟩ := taken
    split at same
    · obtain ⟨rfl, -⟩ := by simpa using same
      exact ⟨trivial, fun long => absurd long Bool.false_ne_true⟩
    · simp at same
  · obtain ⟨⟨other, rest⟩, scalar_taken, same⟩ := Option.map_eq_some_iff.mp taken
    obtain ⟨rfl, -⟩ := by simpa using same
    exact read_of_takeScalar scalar_taken

/-- JSON has a form for the token, if it is a scalar. -/
def Token.HasForm : Token → Prop
  | .scalar value => Json.HasForm value
  | _ => True

theorem hasForm_of_tokensWithin {steps : Nat} {text : List Char} {tokens : List Token}
    (cut : tokensWithin steps text = some tokens) : ∀ token ∈ tokens, token.HasForm := by
  induction steps generalizing text tokens with
  | zero =>
      rw [tokensWithin] at cut
      split at cut
      · obtain rfl := Option.some.inj cut
        exact List.forall_mem_nil _
      · contradiction
  | succ steps ih =>
      rw [tokensWithin] at cut
      split at cut
      · obtain rfl := Option.some.inj cut
        exact List.forall_mem_nil _
      · simp only [Option.bind_eq_bind, Option.bind_eq_some_iff] at cut
        obtain ⟨⟨token, after⟩, taken, more, more_cut, same⟩ := cut
        obtain rfl := Option.some.inj same
        intro other mem
        rcases List.mem_cons.mp mem with rfl | mem
        · cases other with
          | scalar value => exact (read_of_takeToken taken).hasForm
          | _ => trivial
        · exact ih more_cut other mem

theorem longNumberWithin_of_isLong {steps : Nat} {text : List Char} {tokens : List Token}
    (cut : tokensWithin steps text = some tokens) {token : Token} (mem : token ∈ tokens)
    (long : token.isLong) : longNumberWithin steps text := by
  induction steps generalizing text tokens with
  | zero =>
      rw [tokensWithin] at cut
      split at cut
      · obtain rfl := Option.some.inj cut
        exact absurd mem List.not_mem_nil
      · contradiction
  | succ steps ih =>
      rw [tokensWithin] at cut
      split at cut
      · obtain rfl := Option.some.inj cut
        exact absurd mem List.not_mem_nil
      · rename_i start_eq
        simp only [Option.bind_eq_bind, Option.bind_eq_some_iff] at cut
        obtain ⟨⟨first, after⟩, taken, more, more_cut, same⟩ := cut
        obtain rfl := Option.some.inj same
        rw [longNumberWithin, start_eq, taken, Bool.or_eq_true]
        rcases List.mem_cons.mp mem with rfl | mem
        · left
          cases token with
          | scalar value => exact decide_eq_true ((read_of_takeToken taken).long long)
          | _ => contradiction
        · exact .inr (ih more_cut mem)

/-! ## Values -/

/-- Putting an entry keeps the keys different. -/
theorem exists_put {known : List (String × Value)} (distinct : (known.map (·.1)).Nodup) (key : String)
    (value : Value) :
    ∃ entries : List (String × Value),
      Value.put (.str key) value (known.map fun entry => (.str entry.1, entry.2)) =
        entries.map (fun entry => (.str entry.1, entry.2)) ∧
      (entries.map (·.1)).Nodup ∧
      ∀ entry ∈ entries, (entry.1 = key ∧ entry.2 = value) ∨ entry ∈ known := by
  induction known with
  | nil => exact ⟨[(key, value)], rfl, by simp, by simp⟩
  | cons entry known ih =>
      rw [List.map_cons, List.nodup_cons] at distinct
      rw [List.map_cons, Value.put, Scalar.sameKey_str]
      split
      · rename_i same
        have same : entry.1 = key := by simpa using same
        refine ⟨(entry.1, value) :: known, rfl, ?_, ?_⟩
        · rw [List.map_cons, List.nodup_cons]
          exact distinct
        · intro other mem
          rcases List.mem_cons.mp mem with rfl | mem
          · exact .inl ⟨same, rfl⟩
          · exact .inr (List.mem_cons_of_mem entry mem)
      · rename_i differs
        have differs : entry.1 ≠ key := by simpa using differs
        obtain ⟨entries, put_eq, entries_distinct, members⟩ := ih distinct.2
        refine ⟨entry :: entries, by rw [put_eq, List.map_cons], ?_, ?_⟩
        · rw [List.map_cons, List.nodup_cons]
          refine ⟨fun mem => ?_, entries_distinct⟩
          obtain ⟨other, listed, key_eq⟩ := List.mem_map.mp mem
          rcases members other listed with ⟨other_eq, -⟩ | known_mem
          · exact differs (key_eq ▸ other_eq)
          · exact distinct.1 (key_eq ▸ List.mem_map_of_mem known_mem)
        · intro other mem
          rcases List.mem_cons.mp mem with rfl | mem
          · exact .inr List.mem_cons_self
          · exact (members other mem).imp_right (List.mem_cons_of_mem entry)

theorem exists_foldl_put {known : List (String × Value)} (distinct : (known.map (·.1)).Nodup)
    (entries : List (String × Value)) :
    ∃ all : List (String × Value),
      (entries.map fun entry => (Scalar.str entry.1, entry.2)).foldl
          (fun known entry => Value.put entry.1 entry.2 known)
          (known.map fun entry => (Scalar.str entry.1, entry.2)) =
        all.map (fun entry => (Scalar.str entry.1, entry.2)) ∧
      (all.map (·.1)).Nodup ∧ ∀ entry ∈ all, entry ∈ known ∨ entry ∈ entries := by
  induction entries generalizing known with
  | nil => exact ⟨known, rfl, distinct, fun _ mem => .inl mem⟩
  | cons entry entries ih =>
      obtain ⟨next, put_eq, next_distinct, next_members⟩ := exists_put distinct entry.1 entry.2
      obtain ⟨all, all_eq, all_distinct, members⟩ := ih next_distinct
      refine ⟨all, ?_, all_distinct, fun other mem => ?_⟩
      · rw [List.map_cons, List.foldl_cons, put_eq, all_eq]
      · rcases members other mem with next_mem | listed
        · rcases next_members other next_mem with ⟨key_eq, value_eq⟩ | known_mem
          · obtain rfl : other = entry := Prod.ext key_eq value_eq
            exact .inr List.mem_cons_self
          · exact .inl known_mem
        · exact .inr (List.mem_cons_of_mem entry listed)

/-- A mapping that is read has different keys. -/
theorem regular_ofEntries {condition : Scalar → Prop} {entries : List (String × Value)}
    (each : ∀ entry ∈ entries, entry.2.Regular condition) :
    (Value.map (Value.ofEntries (entries.map fun entry => (.str entry.1, entry.2)))).Regular
      condition := by
  obtain ⟨all, all_eq, distinct, members⟩ := @exists_foldl_put [] List.nodup_nil entries
  rw [Value.ofEntries, show ([] : List (Scalar × Value)) =
    ([] : List (String × Value)).map fun entry => (.str entry.1, entry.2) from rfl, all_eq]
  refine .record distinct fun entry mem => each entry ?_
  exact (members entry mem).resolve_left List.not_mem_nil

/-- The scalars among the tokens satisfy the condition. -/
def Holds (condition : Scalar → Prop) (tokens : List Token) : Prop :=
  ∀ value, Token.scalar value ∈ tokens → condition value

/-- What so many steps read satisfies the condition if the tokens do, and leaves some of them. -/
structure Keeps (condition : Scalar → Prop) (steps : Nat) : Prop where
  /-- A value that is read satisfies the condition. -/
  value {tokens rest : List Token} {value : Value} (holds : Holds condition tokens)
    (read : takeValue steps tokens = some (value, rest)) :
    value.Regular condition ∧ rest ⊆ tokens
  /-- Items that are read satisfy the condition. -/
  items {tokens rest : List Token} {items : List Value} (holds : Holds condition tokens)
    (read : takeItems steps tokens = some (items, rest)) :
    (∀ item ∈ items, item.Regular condition) ∧ rest ⊆ tokens
  /-- Entries that are read have texts for keys, and their values satisfy the condition. -/
  entries {tokens rest : List Token} {entries : List (Scalar × Value)}
    (holds : Holds condition tokens) (read : takeEntries steps tokens = some (entries, rest)) :
    ∃ keyed : List (String × Value), entries = keyed.map (fun entry => (.str entry.1, entry.2)) ∧
      (∀ entry ∈ keyed, entry.2.Regular condition) ∧ rest ⊆ tokens

theorem Holds.mono {condition : Scalar → Prop} {tokens others : List Token}
    (holds : Holds condition tokens) (subset : others ⊆ tokens) : Holds condition others :=
  fun value mem => holds value (subset mem)

section

variable {condition : Scalar → Prop} {steps : Nat} {tokens rest : List Token}

theorem Keeps.value_succ (keeps : Keeps condition steps) {value : Value}
    (holds : Holds condition tokens) (read : takeValue (steps + 1) tokens = some (value, rest)) :
    value.Regular condition ∧ rest ⊆ tokens := by
  rw [takeValue.eq_def] at read
  split at read
  · contradiction
  · obtain ⟨rfl, rfl⟩ := by simpa using read
    exact ⟨.scalar (holds _ List.mem_cons_self), List.subset_cons_self _ _⟩
  · obtain ⟨rfl, rfl⟩ := by simpa using read
    exact ⟨.list (List.forall_mem_nil _), List.subset_cons_of_subset _ (List.subset_cons_self _ _)⟩
  · rename_i steps_eq
    obtain rfl := Nat.succ.inj steps_eq
    simp only [Option.bind_eq_bind, Option.bind_eq_some_iff] at read
    obtain ⟨⟨items, after⟩, items_read, same⟩ := read
    obtain ⟨rfl, rfl⟩ := by simpa using same
    obtain ⟨each, subset⟩ := keeps.items (holds.mono (List.subset_cons_self _ _)) items_read
    exact ⟨.list each, List.subset_cons_of_subset _ subset⟩
  · obtain ⟨rfl, rfl⟩ := by simpa using read
    exact ⟨@Value.Regular.record _ [] List.nodup_nil (List.forall_mem_nil _),
      List.subset_cons_of_subset _ (List.subset_cons_self _ _)⟩
  · rename_i steps_eq
    obtain rfl := Nat.succ.inj steps_eq
    simp only [Option.bind_eq_bind, Option.bind_eq_some_iff] at read
    obtain ⟨⟨entries, after⟩, entries_read, same⟩ := read
    obtain ⟨rfl, rfl⟩ := by simpa using same
    obtain ⟨keyed, rfl, each, subset⟩ :=
      keeps.entries (holds.mono (List.subset_cons_self _ _)) entries_read
    exact ⟨regular_ofEntries each, List.subset_cons_of_subset _ subset⟩
  · contradiction

theorem Keeps.items_succ (keeps : Keeps condition steps) {items : List Value}
    (holds : Holds condition tokens) (read : takeItems (steps + 1) tokens = some (items, rest)) :
    (∀ item ∈ items, item.Regular condition) ∧ rest ⊆ tokens := by
  rw [takeItems] at read
  simp only [Option.bind_eq_bind, Option.bind_eq_some_iff] at read
  obtain ⟨⟨item, middle⟩, item_read, read⟩ := read
  obtain ⟨regular, subset⟩ := keeps.value holds item_read
  split at read
  · rename_i middle_eq
    obtain rfl : middle = _ := middle_eq
    obtain ⟨rfl, rfl⟩ := by simpa using read
    refine ⟨fun other mem => ?_, fun token mem => subset (List.mem_cons_of_mem _ mem)⟩
    obtain rfl := List.mem_singleton.mp mem
    exact regular
  · rename_i middle_eq
    obtain rfl : middle = _ := middle_eq
    obtain ⟨⟨more, after⟩, more_read, same⟩ := Option.bind_eq_some_iff.mp read
    obtain ⟨rfl, rfl⟩ := by simpa using same
    have later := List.Subset.trans (List.subset_cons_self _ _) subset
    obtain ⟨each, after_subset⟩ := keeps.items (holds.mono later) more_read
    refine ⟨fun other mem => ?_, List.Subset.trans after_subset later⟩
    rcases List.mem_cons.mp mem with rfl | mem
    · exact regular
    · exact each other mem
  · contradiction

theorem Keeps.entries_succ (keeps : Keeps condition steps) {entries : List (Scalar × Value)}
    (holds : Holds condition tokens)
    (read : takeEntries (steps + 1) tokens = some (entries, rest)) :
    ∃ keyed : List (String × Value), entries = keyed.map (fun entry => (.str entry.1, entry.2)) ∧
      (∀ entry ∈ keyed, entry.2.Regular condition) ∧ rest ⊆ tokens := by
  rw [takeEntries.eq_def] at read
  split at read
  · rename_i key start steps_eq
    obtain rfl := Nat.succ.inj steps_eq
    have started : start ⊆ .scalar (.str key) :: .colon :: start :=
      List.subset_cons_of_subset _ (List.subset_cons_self _ _)
    simp only [Option.bind_eq_bind, Option.bind_eq_some_iff] at read
    obtain ⟨⟨value, middle⟩, value_read, read⟩ := read
    obtain ⟨regular, subset⟩ := keeps.value (holds.mono started) value_read
    have later := List.Subset.trans subset started
    split at read
    · rename_i middle_eq
      obtain rfl : middle = _ := middle_eq
      obtain ⟨rfl, rfl⟩ := by simpa using read
      refine ⟨[(key, value)], rfl, fun entry mem => ?_, fun token mem =>
        later (List.mem_cons_of_mem _ mem)⟩
      obtain rfl := List.mem_singleton.mp mem
      exact regular
    · rename_i middle_eq
      obtain rfl : middle = _ := middle_eq
      obtain ⟨⟨more, after⟩, more_read, same⟩ := Option.bind_eq_some_iff.mp read
      obtain ⟨rfl, rfl⟩ := by simpa using same
      have latest := List.Subset.trans (List.subset_cons_self _ _) later
      obtain ⟨keyed, rfl, each, after_subset⟩ := keeps.entries (holds.mono latest) more_read
      refine ⟨(key, value) :: keyed, rfl, fun entry mem => ?_, List.Subset.trans after_subset latest⟩
      rcases List.mem_cons.mp mem with rfl | mem
      · exact regular
      · exact each entry mem
    · contradiction
  · contradiction

variable (condition) in
theorem keeps (steps : Nat) : Keeps condition steps := by
  induction steps with
  | zero => exact ⟨fun _ read => by simp [takeValue] at read,
      fun _ read => by simp [takeItems] at read, fun _ read => by simp [takeEntries] at read⟩
  | succ steps ih => exact ⟨ih.value_succ, ih.items_succ, ih.entries_succ⟩

end

/-- What is read has different texts as keys, and its scalars satisfy what all tokens satisfy. -/
theorem regular_of_parse? {condition : Scalar → Prop} {text : List Char} {value : Value}
    (read : parse? text = some value)
    (holds : ∀ tokens, tokens? text = some tokens → Holds condition tokens) :
    value.Regular condition := by
  obtain ⟨tokens, cut, read⟩ := Option.bind_eq_some_iff.mp read
  rw [wholeValue?.eq_def] at read
  split at read
  · rename_i taken
    obtain rfl := Option.some.inj read
    exact ((keeps condition _).value (holds tokens cut) taken).1
  · contradiction

theorem hasForm_of_parse? {text : List Char} {value : Value} (read : parse? text = some value) :
    value.Regular HasForm :=
  regular_of_parse? read fun _ cut scalar mem => hasForm_of_tokensWithin cut (.scalar scalar) mem

theorem isShort_of_parse? {text : List Char} {value : Value} (read : parse? text = some value)
    (short : hasLongNumber text = false) : value.Regular IsShort := by
  refine regular_of_parse? read fun tokens cut scalar mem => ?_
  rw [IsShort, Bool.eq_false_iff]
  intro long
  rw [hasLongNumber, longNumberWithin_of_isLong cut mem long] at short
  contradiction

end Hazard.Json
