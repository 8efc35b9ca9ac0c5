import Hazard.Proofs.Data.Json.Scanning
import Hazard.Proofs.Data.Mapping

/-!
# Reading what was written

A value is read back from its text if the keys of its mappings are different texts and JSON has a form
for its other scalars.  The text has a number that is too long if and only if the value has an
integer that is.
-/

namespace Hazard

/-- Mappings have different texts as keys, and all other scalars satisfy the condition. -/
inductive Value.Regular (condition : Scalar → Prop) : Value → Prop
  | scalar {value : Scalar} (holds : condition value) : Regular condition (.scalar value)
  | list {items : List Value} (each : ∀ item ∈ items, Regular condition item) :
      Regular condition (.list items)
  | record {entries : List (String × Value)} (distinct : (entries.map (·.1)).Nodup)
      (each : ∀ entry ∈ entries, Regular condition entry.2) : Regular condition (.record entries)

namespace Value

variable {condition : Scalar → Prop}

@[simp] theorem regular_scalar_iff {value : Scalar} :
    (Value.scalar value).Regular condition ↔ condition value := by
  constructor
  · rintro ⟨holds⟩
    exact holds
  · exact .scalar

@[simp] theorem regular_list_iff {items : List Value} :
    (Value.list items).Regular condition ↔ ∀ item ∈ items, item.Regular condition := by
  constructor
  · intro regular
    cases regular with
    | list each => exact each
  · exact .list

theorem record_injective : Function.Injective record := by
  intro entries others same
  refine List.map_injective_iff.mpr ?_ (Value.map.inj same)
  rintro ⟨key, value⟩ ⟨other, value'⟩ entry_eq
  simpa using entry_eq

@[simp] theorem regular_record_iff {entries : List (String × Value)} :
    (record entries).Regular condition ↔
      (entries.map (·.1)).Nodup ∧ ∀ entry ∈ entries, entry.2.Regular condition := by
  constructor
  · intro regular
    generalize whole_eq : record entries = whole at regular
    cases regular with
    | scalar | list => contradiction
    | record distinct each =>
        obtain rfl := record_injective whole_eq
        exact ⟨distinct, each⟩
  · rintro ⟨distinct, each⟩
    exact .record distinct each

theorem Regular.mono {other : Scalar → Prop} {value : Value} (regular : value.Regular condition)
    (weaker : ∀ scalar, condition scalar → other scalar) : value.Regular other := by
  induction regular with
  | scalar holds => exact .scalar (weaker _ holds)
  | list _ each => exact .list each
  | record distinct _ each => exact .record distinct each

end Value

namespace Json

mutual

/-- The tokens of a value. -/
def tokensOf : Value → List Token
  | .scalar value => [.scalar value]
  | .list [] => [.openList, .closeList]
  | .list (item :: items) => .openList :: (tokensOf item ++ (itemsTokens items ++ [.closeList]))
  | .map [] => [.openMap, .closeMap]
  | .map ((key, value) :: entries) =>
    .openMap :: .scalar key :: .colon :: (tokensOf value ++ (entriesTokens entries ++ [.closeMap]))

/-- The tokens of the items after the first one of a list. -/
def itemsTokens : List Value → List Token
  | [] => []
  | item :: items => .comma :: (tokensOf item ++ itemsTokens items)

/-- The tokens of the entries after the first one of a mapping. -/
def entriesTokens : List (Scalar × Value) → List Token
  | [] => []
  | (key, value) :: entries =>
    .comma :: .scalar key :: .colon :: (tokensOf value ++ entriesTokens entries)

end

/-! ## Scanning -/

section

variable (style : Style)

theorem blank_lineStart (depth : Nat) : ∀ c ∈ lineStart style depth, isSpace c := by
  intro c mem
  rw [lineStart] at mem
  split at mem
  · rcases List.mem_cons.mp mem with rfl | mem
    · rfl
    · rw [List.eq_of_mem_replicate mem]
      rfl
  · exact absurd mem List.not_mem_nil

/-- The tokens of a value do not start with the end of a list. -/
theorem exists_cons_tokensOf (value : Value) :
    ∃ token tokens, tokensOf value = token :: tokens ∧ token ≠ .closeList := by
  rcases value with value | (_ | ⟨item, items⟩) | (_ | ⟨⟨key, value⟩, entries⟩)
  all_goals
    rw [tokensOf]
    exact ⟨_, _, rfl, nofun⟩

theorem tokensOf_ne_nil (value : Value) : tokensOf value ≠ [] := by
  obtain ⟨token, tokens, tokens_eq, -⟩ := exists_cons_tokensOf value
  rw [tokens_eq]
  exact List.cons_ne_nil token tokens

theorem breaks_lineStart (depth : Nat) {c : Char}
    (break_eq : (c.isDigit || c == '.' || c == 'e' || c == 'E') = false) (rest : List Char) :
    Breaks (lineStart style depth ++ c :: rest) := by
  rw [lineStart]
  split
  · exact breaks_cons rfl _
  · exact breaks_cons break_eq rest

theorem breaks_itemsText (depth : Nat) (items : List Value) {after : List Char}
    (breaks : Breaks after) : Breaks (itemsText style depth items ++ after) := by
  cases items with
  | nil => rwa [itemsText]
  | cons item items =>
      rw [itemsText]
      exact breaks_cons rfl _

theorem breaks_entriesText (depth : Nat) (entries : List (Scalar × Value)) {after : List Char}
    (breaks : Breaks after) : Breaks (entriesText style depth entries ++ after) := by
  cases entries with
  | nil => rwa [entriesText]
  | cons entry entries =>
      rw [entriesText]
      exact breaks_cons rfl _

/-- The value is scanned as its tokens, whatever breaks off what is written. -/
def Scanned (value : Value) : Prop :=
  ∀ depth after, Breaks after → Scans (valueText style depth value ++ after) (tokensOf value) after

variable {style}

theorem scans_itemsText {items : List Value} (each : ∀ item ∈ items, Scanned style item)
    (depth : Nat) {after : List Char} (breaks : Breaks after) :
    Scans (itemsText style depth items ++ after) (itemsTokens items) after := by
  induction items with
  | nil =>
      rw [itemsText, itemsTokens]
      exact .nil after
  | cons item items ih =>
      have rest := ih fun other mem => each other (List.mem_cons_of_mem item mem)
      have first := each item List.mem_cons_self (depth + 1) _
        (breaks_itemsText style depth items breaks)
      have indented := (first.append rest).indent (List.append_ne_nil_of_left_ne_nil
        (tokensOf_ne_nil item) _) (blank_lineStart style (depth + 1))
      rw [itemsText, itemsTokens]
      simpa only [List.append_assoc, List.cons_append, List.nil_append] using
        indented.mark (by decide)

/-- A key and its value. -/
theorem scans_entry (key : String) {value : Value} (scanned : Scanned style value) (depth : Nat)
    {after rest : List Char} {tokens : List Token} (breaks : Breaks after)
    (more : Scans after tokens rest) :
    Scans (lineStart style depth ++ (keyText style (.str key) ++ ([':', ' '] ++
        (valueText style depth value ++ after))))
      (.scalar (.str key) :: .colon :: (tokensOf value ++ tokens)) rest := by
  have spaced : Scans ([' '] ++ (valueText style depth value ++ after)) (tokensOf value ++ tokens)
      rest :=
    ((scanned depth after breaks).append more).indent
      (List.append_ne_nil_of_left_ne_nil (tokensOf_ne_nil value) _)
      (List.forall_mem_singleton.mpr rfl)
  have marked : Scans ([':', ' '] ++ (valueText style depth value ++ after))
      (.colon :: (tokensOf value ++ tokens)) rest := spaced.mark (by decide)
  have keyed := marked.piece (spells_quoted style key _)
  exact keyed.indent (List.cons_ne_nil _ _) (blank_lineStart style depth)

theorem scans_entriesText {entries : List (String × Value)}
    (each : ∀ entry ∈ entries, Scanned style entry.2) (depth : Nat) {after : List Char}
    (breaks : Breaks after) :
    Scans (entriesText style depth (entries.map fun entry => (.str entry.1, entry.2)) ++ after)
      (entriesTokens (entries.map fun entry => (.str entry.1, entry.2))) after := by
  induction entries with
  | nil =>
      rw [List.map_nil, entriesText, entriesTokens]
      exact .nil after
  | cons entry entries ih =>
      have rest := ih fun other mem => each other (List.mem_cons_of_mem entry mem)
      have first := scans_entry entry.1 (each entry List.mem_cons_self) (depth + 1)
        (breaks_entriesText style depth _ breaks) rest
      rw [List.map_cons, entriesText, entriesTokens]
      simpa only [List.append_assoc, List.cons_append, List.nil_append] using first.mark (by decide)

theorem scanned_list {items : List Value} (each : ∀ item ∈ items, Scanned style item) :
    Scanned style (.list items) := by
  intro depth after breaks
  have closed : Scans (']' :: after) [.closeList] after := (Scans.nil after).mark (by decide)
  cases items with
  | nil =>
      rw [valueText, tokensOf]
      exact closed.mark (by decide)
  | cons item items =>
      have ended := closed.indent (List.cons_ne_nil _ _) (blank_lineStart style depth)
      have ending_breaks : Breaks (lineStart style depth ++ ']' :: after) :=
        breaks_lineStart style depth rfl after
      have rest := scans_itemsText
        (fun other mem => each other (List.mem_cons_of_mem item mem)) depth ending_breaks
      have first := each item List.mem_cons_self (depth + 1) _
        (breaks_itemsText style depth items ending_breaks)
      have indented := (first.append (rest.append ended)).indent
        (List.append_ne_nil_of_left_ne_nil (tokensOf_ne_nil item) _)
        (blank_lineStart style (depth + 1))
      rw [valueText, tokensOf]
      simpa only [List.append_assoc, List.cons_append, List.nil_append] using
        indented.mark (by decide)

theorem scanned_record {entries : List (String × Value)}
    (each : ∀ entry ∈ entries, Scanned style entry.2) : Scanned style (.record entries) := by
  intro depth after breaks
  have closed : Scans ('\x7d' :: after) [.closeMap] after := (Scans.nil after).mark (by decide)
  cases entries with
  | nil =>
      rw [Value.record, List.map_nil, valueText, tokensOf]
      exact closed.mark (by decide)
  | cons entry entries =>
      have ended := closed.indent (List.cons_ne_nil _ _) (blank_lineStart style depth)
      have ending_breaks : Breaks (lineStart style depth ++ '\x7d' :: after) :=
        breaks_lineStart style depth rfl after
      have rest := scans_entriesText
        (fun other mem => each other (List.mem_cons_of_mem entry mem)) depth ending_breaks
      have first := scans_entry entry.1 (each entry List.mem_cons_self) (depth + 1)
        (breaks_entriesText style depth _ ending_breaks) (rest.append ended)
      rw [Value.record, List.map_cons, valueText, tokensOf]
      simpa only [List.append_assoc, List.cons_append, List.nil_append] using first.mark (by decide)

/-- The text of a value is scanned as the tokens of the value. -/
theorem scanned_of_regular (narrow : style.decimals.greatestPoint < Numeral.digitLimit)
    {value : Value} (regular : value.Regular HasForm) : Scanned style value := by
  induction regular with
  | scalar hasForm =>
      intro depth after breaks
      rw [valueText, tokensOf]
      exact (Scans.nil after).piece (spells_scalar narrow hasForm breaks)
  | list _ each => exact scanned_list each
  | record _ _ each => exact scanned_record each

end

/-! ## Reading tokens -/

theorem put_of_notMem {known : List (String × Value)} {key : String} (value : Value)
    (fresh : key ∉ known.map (·.1)) :
    Value.put (.str key) value (known.map fun entry => (.str entry.1, entry.2)) =
      (known ++ [(key, value)]).map fun entry => (.str entry.1, entry.2) := by
  induction known with
  | nil => rfl
  | cons entry known ih =>
      rw [List.map_cons, List.mem_cons, not_or] at fresh
      have differs : (Scalar.str entry.1).sameKey (.str key) = false := by
        rw [Scalar.sameKey_str, beq_eq_false_iff_ne]
        exact Ne.symm fresh.1
      rw [List.map_cons, Value.put, if_neg (by simp [differs]), ih fresh.2]
      rfl

/-- New entries go behind those that are known. -/
theorem foldl_put {known entries : List (String × Value)}
    (distinct : ((known ++ entries).map (·.1)).Nodup) :
    (entries.map fun entry => (Scalar.str entry.1, entry.2)).foldl
        (fun known entry => Value.put entry.1 entry.2 known)
        (known.map fun entry => (Scalar.str entry.1, entry.2)) =
      (known ++ entries).map fun entry => (Scalar.str entry.1, entry.2) := by
  induction entries generalizing known with
  | nil => rw [List.map_nil, List.foldl_nil, List.append_nil]
  | cons entry entries ih =>
      have fresh : entry.1 ∉ known.map (·.1) := by
        rw [List.map_append, List.nodup_append] at distinct
        intro mem
        exact distinct.2.2 _ mem _ List.mem_cons_self rfl
      rw [List.append_cons] at distinct ⊢
      rw [List.map_cons, List.foldl_cons, put_of_notMem entry.2 fresh]
      exact ih distinct

/-- Different keys keep their entries in order. -/
theorem ofEntries_eq_self {entries : List (String × Value)} (distinct : (entries.map (·.1)).Nodup) :
    Value.ofEntries (entries.map fun entry => (.str entry.1, entry.2)) =
      entries.map fun entry => (.str entry.1, entry.2) :=
  @foldl_put [] entries distinct

/-- The tokens of the value are read as the value in as many steps as there are tokens. -/
def ReadBack (value : Value) : Prop :=
  ∀ steps rest, (tokensOf value).length ≤ steps →
    takeValue steps (tokensOf value ++ rest) = some (value, rest)

theorem takeItems_tokens {item : Value} {items : List Value} (first : ReadBack item)
    (each : ∀ other ∈ items, ReadBack other) {steps : Nat} (rest : List Token)
    (enough : (tokensOf item ++ itemsTokens items).length < steps) :
    takeItems steps (tokensOf item ++ (itemsTokens items ++ .closeList :: rest)) =
      some (item :: items, rest) := by
  induction items generalizing item steps with
  | nil =>
      cases steps with
      | zero => omega
      | succ steps =>
          simp only [itemsTokens, List.append_nil] at enough
          rw [takeItems, itemsTokens, List.nil_append, first steps _ (by omega)]
          rfl
  | cons next items ih =>
      cases steps with
      | zero => omega
      | succ steps =>
          simp only [itemsTokens, List.length_append, List.length_cons] at enough
          have more := ih (each next List.mem_cons_self)
            (fun other mem => each other (List.mem_cons_of_mem next mem))
            (by rw [List.length_append]; omega : _ < steps)
          rw [takeItems, itemsTokens, List.cons_append, first steps _ (by omega), List.append_assoc]
          simp only [Option.bind_eq_bind, Option.bind_some, more]
          rfl

theorem takeEntries_tokens {entry : String × Value} {entries : List (String × Value)}
    (first : ReadBack entry.2) (each : ∀ other ∈ entries, ReadBack other.2) {steps : Nat}
    (rest : List Token)
    (enough : (tokensOf entry.2 ++
      entriesTokens (entries.map fun entry => (.str entry.1, entry.2))).length < steps) :
    takeEntries steps (.scalar (.str entry.1) :: .colon :: (tokensOf entry.2 ++
        (entriesTokens (entries.map fun entry => (.str entry.1, entry.2)) ++ .closeMap :: rest))) =
      some ((entry :: entries).map fun entry => (.str entry.1, entry.2), rest) := by
  induction entries generalizing entry steps with
  | nil =>
      cases steps with
      | zero => omega
      | succ steps =>
          simp only [List.map_nil, entriesTokens, List.append_nil] at enough
          rw [takeEntries, List.map_nil, entriesTokens, List.nil_append, first steps _ (by omega)]
          rfl
  | cons next entries ih =>
      cases steps with
      | zero => omega
      | succ steps =>
          simp only [List.map_cons, entriesTokens, List.length_append, List.length_cons] at enough
          have more := ih (each next List.mem_cons_self)
            (fun other mem => each other (List.mem_cons_of_mem next mem))
            (by rw [List.length_append]; omega : _ < steps)
          rw [takeEntries, List.map_cons, entriesTokens, List.cons_append, first steps _ (by omega)]
          simp only [List.cons_append, List.append_assoc, Option.bind_eq_bind, Option.bind_some, more]
          rfl

theorem readBack_list {items : List Value} (each : ∀ item ∈ items, ReadBack item) :
    ReadBack (.list items) := by
  intro steps rest enough
  cases items with
  | nil =>
      rw [tokensOf] at enough ⊢
      cases steps with
      | zero => contradiction
      | succ steps => rfl
  | cons item items =>
      obtain ⟨token, tokens, tokens_eq, no_end⟩ := exists_cons_tokensOf item
      rw [tokensOf] at enough ⊢
      simp only [List.length_cons, List.length_append, List.length_nil] at enough
      cases steps with
      | zero => contradiction
      | succ steps =>
          have read := takeItems_tokens (each item List.mem_cons_self)
            (fun other mem => each other (List.mem_cons_of_mem item mem)) rest
            (by rw [List.length_append]; omega : _ < steps)
          simp only [List.cons_append, List.append_assoc, List.nil_append]
          rw [takeValue]
          · simp only [read, Option.bind_eq_bind, Option.bind_some]
            rfl
          · intro others same
            rw [tokens_eq] at same
            exact no_end (List.cons.inj same).1

theorem readBack_record {entries : List (String × Value)} (distinct : (entries.map (·.1)).Nodup)
    (each : ∀ entry ∈ entries, ReadBack entry.2) : ReadBack (.record entries) := by
  intro steps rest enough
  cases entries with
  | nil =>
      rw [Value.record, List.map_nil, tokensOf] at enough ⊢
      cases steps with
      | zero => contradiction
      | succ steps => rfl
  | cons entry entries =>
      rw [Value.record, List.map_cons, tokensOf] at enough ⊢
      simp only [List.length_cons, List.length_append, List.length_nil] at enough
      cases steps with
      | zero => contradiction
      | succ steps =>
          have read := takeEntries_tokens (each entry List.mem_cons_self)
            (fun other mem => each other (List.mem_cons_of_mem entry mem)) rest
            (by rw [List.length_append]; omega : _ < steps)
          simp only [List.cons_append, List.append_assoc, List.nil_append]
          rw [takeValue]
          · simp only [read, Option.bind_eq_bind, Option.bind_some, ofEntries_eq_self distinct]
            rfl
          · exact nofun

/-- The tokens of a value are read as the value. -/
theorem readBack_of_regular {condition : Scalar → Prop} {value : Value}
    (regular : value.Regular condition) : ReadBack value := by
  induction regular with
  | scalar =>
      intro steps rest enough
      rw [tokensOf] at enough ⊢
      cases steps with
      | zero => contradiction
      | succ steps => rfl
  | list _ each => exact readBack_list each
  | record distinct _ each => exact readBack_record distinct each

/-! ## Scalars among the tokens -/

/-- The tokens of a value that are no scalars. -/
def Token.marks : List Token := [.openList, .closeList, .openMap, .closeMap, .comma, .colon]

section

variable {holds : Token → Prop} (marks : ∀ token ∈ Token.marks, holds token)

include marks

theorem forall_mem_itemsTokens {items : List Value} :
    (∀ token ∈ itemsTokens items, holds token) ↔
      ∀ item ∈ items, ∀ token ∈ tokensOf item, holds token := by
  induction items with
  | nil => simp [itemsTokens]
  | cons item items ih =>
      have comma : holds .comma := marks .comma (by decide)
      rw [itemsTokens, List.forall_mem_cons, and_iff_right comma, List.forall_mem_append, ih,
        List.forall_mem_cons]

variable (keys : ∀ text, holds (.scalar (.str text)))

include keys

theorem forall_mem_entriesTokens {entries : List (String × Value)} :
    (∀ token ∈ entriesTokens (entries.map fun entry => (.str entry.1, entry.2)), holds token) ↔
      ∀ entry ∈ entries, ∀ token ∈ tokensOf entry.2, holds token := by
  induction entries with
  | nil => simp [entriesTokens]
  | cons entry entries ih =>
      have comma : holds .comma := marks .comma (by decide)
      have colon : holds .colon := marks .colon (by decide)
      rw [List.map_cons, entriesTokens, List.forall_mem_cons, List.forall_mem_cons,
        List.forall_mem_cons, and_iff_right comma, and_iff_right (keys entry.1),
        and_iff_right colon, List.forall_mem_append, ih, List.forall_mem_cons]

/-- What holds of marks and of keys holds of all tokens of a value if and only if it holds of its
scalars. -/
theorem forall_mem_tokensOf {condition : Scalar → Prop} {value : Value}
    (regular : value.Regular condition) :
    (∀ token ∈ tokensOf value, holds token) ↔ value.Regular fun scalar => holds (.scalar scalar) := by
  induction regular with
  | scalar => simp [tokensOf]
  | @list items _ each =>
      have items_iff : (∀ item ∈ items, ∀ token ∈ tokensOf item, holds token) ↔
          ∀ item ∈ items, item.Regular fun scalar => holds (.scalar scalar) :=
        forall₂_congr each
      have opened : holds .openList := marks .openList (by decide)
      have closed : holds .closeList := marks .closeList (by decide)
      rw [Value.regular_list_iff, ← items_iff]
      cases items with
      | nil => simp [tokensOf, opened, closed]
      | cons item items =>
          rw [tokensOf, List.forall_mem_cons, and_iff_right opened, List.forall_mem_append,
            List.forall_mem_append, List.forall_mem_singleton, and_iff_left closed,
            forall_mem_itemsTokens marks, List.forall_mem_cons]
  | @record entries distinct _ each =>
      have entries_iff : (∀ entry ∈ entries, ∀ token ∈ tokensOf entry.2, holds token) ↔
          ∀ entry ∈ entries, entry.2.Regular fun scalar => holds (.scalar scalar) :=
        forall₂_congr each
      have opened : holds .openMap := marks .openMap (by decide)
      have closed : holds .closeMap := marks .closeMap (by decide)
      have colon : holds .colon := marks .colon (by decide)
      rw [Value.regular_record_iff, and_iff_right distinct, ← entries_iff]
      cases entries with
      | nil => simp [Value.record, tokensOf, opened, closed]
      | cons entry entries =>
          rw [Value.record, List.map_cons, tokensOf, List.forall_mem_cons, and_iff_right opened,
            List.forall_mem_cons, and_iff_right (keys entry.1), List.forall_mem_cons,
            and_iff_right colon, List.forall_mem_append, List.forall_mem_append,
            List.forall_mem_singleton, and_iff_left closed, forall_mem_entriesTokens marks keys,
            List.forall_mem_cons]

end

/-- The scalar is no integer with too many characters. -/
def IsShort (value : Scalar) : Prop := (Token.scalar value).isLong = false

theorem isShort_int_iff {n : Int} : IsShort (.int n) ↔ (integer n).length ≤ Numeral.digitLimit := by
  rw [IsShort, Token.isLong, decide_eq_false_iff_not, Nat.not_lt]

/-- A token of a value is too long if and only if the value has an integer that is. -/
theorem any_isLong_tokensOf {condition : Scalar → Prop} {value : Value}
    (regular : value.Regular condition) :
    (tokensOf value).any Token.isLong = false ↔ value.Regular IsShort := by
  rw [List.any_eq_false]
  simp only [Bool.not_eq_true]
  exact forall_mem_tokensOf (by decide) (fun _ => rfl) regular

/-! ## Round trip -/

theorem breaks_of_blank {after : List Char} (blank : ∀ c ∈ after, isSpace c) : Breaks after := by
  cases after with
  | nil => exact breaks_nil
  | cons c after =>
      have space := blank c List.mem_cons_self
      simp only [isSpace, Bool.or_eq_true, beq_iff_eq] at space
      rcases space with ((rfl | rfl) | rfl) | rfl
      all_goals exact breaks_cons rfl after

theorem wholeValue?_tokensOf {condition : Scalar → Prop} {value : Value}
    (regular : value.Regular condition) : wholeValue? (tokensOf value) = some value := by
  have read := readBack_of_regular regular ((tokensOf value).length + 1) [] (Nat.le_succ _)
  rw [List.append_nil] at read
  rw [wholeValue?, read]

variable {style : Style} {value : Value} {after : List Char}

/-- A value is read back from its text. -/
theorem parse?_valueText (narrow : style.decimals.greatestPoint < Numeral.digitLimit)
    (regular : value.Regular HasForm) (blank : ∀ c ∈ after, isSpace c) :
    parse? (valueText style 0 value ++ after) = some value := by
  have scans := scanned_of_regular narrow regular 0 after (breaks_of_blank blank)
  rw [parse?, tokens?, scans.tokensWithin_eq blank (le_refl _), Option.bind_some,
    wholeValue?_tokensOf regular]

/-- The text of a value has a number that is too long if and only if the value has such an integer. -/
theorem hasLongNumber_valueText (narrow : style.decimals.greatestPoint < Numeral.digitLimit)
    (regular : value.Regular HasForm) (blank : ∀ c ∈ after, isSpace c) :
    hasLongNumber (valueText style 0 value ++ after) = false ↔ value.Regular IsShort := by
  have scans := scanned_of_regular narrow regular 0 after (breaks_of_blank blank)
  rw [hasLongNumber, scans.longNumberWithin_eq blank (le_refl _), any_isLong_tokensOf regular]

end Json

end Hazard
