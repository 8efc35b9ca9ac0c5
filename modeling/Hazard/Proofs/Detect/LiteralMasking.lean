import Hazard.Proofs.Detect.Extension
import Mathlib.Data.List.Infix

/-!
# What is shown of a literal credential

A string literal that is a signed token or the key of an account has one record, whose snippet shows
the start of the value and dots.  Of a key twelve characters stay hidden.  Of a token the first
twenty are shown: a token that is no longer is shown in full, and so is one of twenty-one characters
that ends in a dot, since a dot follows what is shown.  Every other token stays hidden.
-/

namespace Hazard
namespace Secret

open Regex

/-- The value is a signed token. -/
def isToken (value : List Char) : Bool := (signedToken.matchStart value).isSome

/-- The value is the key of an account. -/
def isKey (value : List Char) : Bool := (accountKey.matchStart value).isSome

/-- The literals that are credentials, in order; in an exempt file one looks for none. -/
def credentials (source : Source) : List Site :=
  if isExempt source.path then []
  else (source.ofKinds ["string"]).filter fun literal =>
    isToken (source.stringValue literal) || isKey (source.stringValue literal)

/-- The records about literals: of those about credentials, the ones without columns. -/
def literalRecords (records : List Record) : List Record :=
  (records.filter (·.kind == .hardcodedSecret)).filter (!·.hasColumns)

/-! ## Tokens and keys -/

/-- The characters that the snippet of a credential has between and around its pieces. -/
def marks : List Char := ['"', '.', '[']

/-- The parts of a signed token, and the line feed that may follow it. -/
structure TokenParts (value first second third ending : List Char) : Prop where
  split : value = "eyJ".toList ++ first ++ '.' :: (second ++ '.' :: (third ++ ending))
  inner : second ≠ []
  unmarked : ∀ c ∈ first ++ second ++ third, c ∉ marks
  ending : ending = [] ∨ ending = ['\n']

/-- The characters after the start of a key, and the line feed that may follow it. -/
structure KeyParts (value body ending : List Char) : Prop where
  split : value = "AKIA".toList ++ body ++ ending
  length : body.length = 16
  unmarked : ∀ c ∈ body, c ∉ marks
  ending : ending = [] ∨ ending = ['\n']

theorem not_mem_marks {test : Char → Bool} {c : Char} (refused : marks.any test = false)
    (accepted : test c = true) : c ∉ marks := fun marked =>
  List.any_eq_false.mp refused c marked accepted

theorem ending_of_fits {before text after : List Char}
    (fit : (Regex.at .lastLineEnd).Fits before text after) :
    text = [] ∧ (after = [] ∨ after = ['\n']) := by
  obtain ⟨rfl, holds⟩ := fit
  refine ⟨rfl, ?_⟩
  simpa [Cursor.satisfies] using holds

/-- An expression that begins at the start of a text with given characters. -/
theorem opening_of_fits {s : String} {rest : List Regex} {before text after : List Char}
    (fit : (concat ([.at .textStart] ++ chars .exact s ++ rest)).Fits before text after) :
    ∃ tail, text = s.toList ++ tail ∧ (concat rest).Fits (s.toList.reverse ++ before) tail after := by
  obtain ⟨_, tail, rfl, opening, fit⟩ := fits_concat_append.mp fit
  obtain ⟨_, word, rfl, ⟨rfl, -⟩, spelled⟩ := fits_concat_append.mp opening
  obtain rfl := fits_chars_exact.mp spelled
  exact ⟨tail, rfl, fit⟩

theorem split_of_fits {r : Regex} {c : Char} {rest : List Regex} {before text after : List Char}
    (fit : (concat (r :: char .exact c :: rest)).Fits before text after) :
    ∃ head tail, text = head ++ c :: tail ∧ r.Fits before head (c :: tail ++ after) ∧
      (concat rest).Fits (c :: head.reverse ++ before) tail after := by
  obtain ⟨head, _, rfl, fitHead, closing⟩ := fits_concat_cons.mp fit
  obtain ⟨_, tail, rfl, single, fitTail⟩ := fits_concat_cons.mp closing
  obtain rfl := fits_char.mp single
  exact ⟨head, tail, rfl, fitHead, fitTail⟩

theorem exists_tokenParts {value : List Char} (token : isToken value = true) :
    ∃ first second third ending, TokenParts value first second third ending := by
  obtain ⟨piece, rear, split, fit⟩ :=
    (matchAt_isSome_iff (plain_of_isPlain (by decide)) _).mp token
  obtain ⟨_, rfl, opened⟩ := opening_of_fits fit
  obtain ⟨first, _, rfl, fitFirst, middle⟩ := split_of_fits opened
  obtain ⟨second, _, rfl, fitSecond, closing⟩ := split_of_fits middle
  obtain ⟨third, _, rfl, fitThird, atEnd⟩ := fits_concat_cons.mp closing
  obtain ⟨rfl, ending⟩ := ending_of_fits atEnd
  obtain ⟨-, allFirst⟩ := fits_many1_one.mp fitFirst
  obtain ⟨inner, allSecond⟩ := fits_many1_one.mp fitSecond
  have allThird := fits_many_one.mp fitThird
  refine ⟨first, second, third, rear, ?_, inner, fun c member => ?_, ending⟩
  · rw [show value = _ from split]
    simp
  · rcases List.mem_append.mp member with member | member
    · rcases List.mem_append.mp member with member | member
      · exact not_mem_marks (by decide) (allFirst c member)
      · exact not_mem_marks (by decide) (allSecond c member)
    · exact not_mem_marks (by decide) (allThird c member)

theorem exists_keyParts {value : List Char} (key : isKey value = true) :
    ∃ body ending, KeyParts value body ending := by
  obtain ⟨piece, rear, split, fit⟩ :=
    (matchAt_isSome_iff (plain_of_isPlain (by decide)) _).mp key
  obtain ⟨_, rfl, opened⟩ := opening_of_fits fit
  obtain ⟨body, _, rfl, fitBody, atEnd⟩ := fits_concat_cons.mp opened
  obtain ⟨rfl, ending⟩ := ending_of_fits atEnd
  obtain ⟨count, least, most, rounds⟩ := fits_repeated.mp fitBody
  obtain ⟨rfl, all⟩ := rounds_one_iff.mp rounds
  refine ⟨body, rear, ?_, le_antisymm (most 16 rfl) least, fun c member => ?_, ending⟩
  · rw [show value = _ from split]
    simp
  · exact not_mem_marks (by decide) (all c member)

/-! ## Values in snippets -/

theorem infix_of_append_cons {c : Char} {value front rear : List Char} (absent : c ∉ value)
    (stands : value <:+: front ++ c :: rear) : value <:+: front ∨ value <:+: rear := by
  have not_past {part : List Char} (included : part ⊆ value) (initial : part <+: c :: rear) :
      part = [] := by
    cases part with
    | nil => rfl
    | cons d part =>
        obtain rfl := (List.cons_prefix_cons.mp initial).1
        exact absurd (included List.mem_cons_self) absent
  rcases List.infix_append_iff.mp stands with inFront | inRear | ⟨left, right, rfl, suffix, initial⟩
  · exact .inl inFront
  · rcases List.infix_cons_iff.mp inRear with initial | inRear
    · rw [not_past (List.Subset.refl _) initial]
      exact .inl List.nil_infix
    · exact .inr inRear
  · rw [not_past (List.subset_append_right _ _) initial, List.append_nil]
    exact .inl suffix.isInfix

theorem not_mem_marks_of_ending {ending : List Char} (either : ending = [] ∨ ending = ['\n'])
    {c : Char} (member : c ∈ ending) : c ∉ marks := by
  rcases either with rfl | rfl
  · exact absurd member List.not_mem_nil
  · rw [List.mem_singleton.mp member]
    decide

section

variable {value body first second third ending : List Char}

theorem KeyParts.not_mem (parts : KeyParts value body ending) {c : Char} (member : c ∈ value) :
    c ∉ marks := by
  rw [parts.split, List.mem_append, List.mem_append] at member
  rcases member with (member | member) | member
  · have opening : "AKIA".toList.contains c = true := List.contains_iff_mem.mpr member
    exact not_mem_marks (by decide) opening
  · exact parts.unmarked c member
  · exact not_mem_marks_of_ending parts.ending member

theorem KeyParts.length_ge (parts : KeyParts value body ending) : 20 ≤ value.length := by
  have opening : "AKIA".toList.length = 4 := rfl
  have body := parts.length
  rw [parts.split, List.length_append, List.length_append]
  omega

/-- The snippet of a key does not show the key. -/
theorem KeyParts.not_infix (parts : KeyParts value body ending) :
    ¬ value <:+: [] ++ '"' :: (value.take 8 ++ '.' :: "..[MASKED]\"".toList) := by
  intro shown
  have long := parts.length_ge
  have absent {mark : Char} (marked : mark ∈ marks) : mark ∉ value := fun member =>
    parts.not_mem member marked
  rcases infix_of_append_cons (absent (by decide)) shown with shown | shown
  · exact absurd (shown.length_le.trans (Nat.zero_le 19)) (by omega)
  · rcases infix_of_append_cons (absent (by decide)) shown with shown | shown
    · have short := shown.length_le.trans (List.length_take_le 8 value)
      omega
    · have short : value.length ≤ 11 := shown.length_le
      omega

theorem TokenParts.not_mem (parts : TokenParts value first second third ending) {c : Char}
    (member : c ∈ value) (other : c ≠ '.') : c ∉ marks := by
  have within := parts.unmarked c
  simp only [List.mem_append] at within
  simp only [parts.split, List.mem_append, List.mem_cons, other, false_or] at member
  rcases member with (member | member) | member | member | member
  · have opening : "eyJ".toList.contains c = true := List.contains_iff_mem.mpr member
    exact not_mem_marks (by decide) opening
  · exact within (.inl (.inl member))
  · exact within (.inl (.inr member))
  · exact within (.inr member)
  · exact not_mem_marks_of_ending parts.ending member

/-- The dots of a token are not neighbours at its end. -/
theorem TokenParts.not_suffix (parts : TokenParts value first second third ending) :
    ¬ ['.', '.'] <:+ value := by
  intro suffix
  obtain ⟨front, c, rfl⟩ := second.eq_nil_or_concat.resolve_left parts.inner
  -- From the last character of the second part on, only the dot after it is a dot.
  have close : c :: '.' :: (third ++ ending) <:+ value := by
    rw [parts.split]
    exact ⟨"eyJ".toList ++ first ++ '.' :: front, by simp⟩
  have suffix := List.suffix_of_suffix_length_le suffix close (Nat.le_add_left 2 _)
  rcases (third ++ ending).eq_nil_or_concat with nothing | ⟨rest, d, rest_eq⟩
  · rw [nothing] at suffix
    obtain rfl := (List.cons.inj (suffix.eq_of_length rfl)).1
    exact parts.unmarked '.' (by simp) (by decide)
  · obtain ⟨before, same⟩ := suffix
    rw [rest_eq, List.concat_eq_append] at same
    have last := congrArg List.getLast? same
    rw [List.getLast?_append_of_ne_nil _ (List.cons_ne_nil _ _), ← List.cons_append,
      ← List.cons_append, List.getLast?_concat] at last
    obtain rfl : '.' = d := Option.some.inj last
    have member : '.' ∈ third ++ ending := by simp [rest_eq]
    rcases List.mem_append.mp member with member | member
    · exact parts.unmarked '.' (List.mem_append_right _ member) (by decide)
    · exact not_mem_marks_of_ending parts.ending member (by decide)

/-- A token that lies in its first twenty characters and three dots has one dot after them. -/
theorem TokenParts.eq_of_append (parts : TokenParts value first second third ending)
    {front rear : List Char} (long : 20 < value.length)
    (same : front ++ value ++ rear = value.take 20 ++ List.replicate 3 '.') :
    value = value.take 20 ++ ['.'] := by
  have lengths := congrArg List.length same
  simp only [List.length_append, List.length_take, List.length_replicate] at lengths
  have suffix : rear <:+ List.replicate 3 '.' :=
    List.suffix_of_suffix_length_le ⟨_, same⟩ (List.suffix_append _ _)
      (by rw [List.length_replicate]; omega)
  obtain ⟨dots, dots_eq⟩ := suffix
  have kept : front ++ value = value.take 20 ++ dots := by
    rw [← dots_eq, ← List.append_assoc] at same
    exact List.append_cancel_right same
  obtain ⟨three, alike, -⟩ := List.append_eq_replicate_iff.mp dots_eq
  obtain one | ⟨more, many⟩ : dots.length = 1 ∨ ∃ more, dots.length = more + 2 := by
    by_cases one : dots.length = 1
    · exact .inl one
    · exact .inr ⟨dots.length - 2, by omega⟩
  · have nothing : front = [] := List.eq_nil_of_length_eq_zero (by omega)
    rw [alike, one, nothing] at kept
    exact kept
  · -- Two dots at the end of the token are one too many.
    have two : ['.', '.'] <:+ front ++ value := by
      rw [kept, alike, many, List.replicate_add, ← List.append_assoc]
      exact List.suffix_append _ _
    exact absurd (List.suffix_of_suffix_length_le two (List.suffix_append _ _)
      (Nat.le_trans (by decide) long)) parts.not_suffix

/-- Twenty characters and a dot after them show a token that has no more. -/
theorem TokenParts.infix_iff (parts : TokenParts value first second third ending) :
    value <:+: [] ++ '"' :: (value.take 20 ++ List.replicate 3 '.' ++ '[' :: "MASKED]\"".toList) ↔
      value.length ≤ 20 ∨ value.length = 21 ∧ value.getLast? = some '.' := by
  constructor
  · intro shown
    refine (Nat.lt_or_ge 20 value.length).symm.imp id fun long => ?_
    have absent {mark : Char} (marked : mark ∈ marks) (other : mark ≠ '.') : mark ∉ value :=
      fun member => parts.not_mem member other marked
    have shown : value <:+: value.take 20 ++ List.replicate 3 '.' := by
      rcases infix_of_append_cons (absent (by decide) (by decide)) shown with shown | shown
      · exact absurd (shown.length_le.trans (Nat.zero_le 20)) (by omega)
      · refine (infix_of_append_cons (absent (by decide) (by decide)) shown).resolve_right ?_
        intro shown
        have short : value.length ≤ 8 := shown.length_le
        omega
    obtain ⟨front, rear, same⟩ := shown
    have whole := parts.eq_of_append long same
    constructor
    · have length := congrArg List.length whole
      rw [List.length_append, List.length_take] at length
      simp only [List.length_singleton] at length
      omega
    · rw [whole, List.getLast?_concat]
  · rintro (short | ⟨length, last⟩)
    · rw [List.take_of_length_le short, List.append_assoc]
      exact ⟨['"'], _, rfl⟩
    · have front := List.dropLast_append_getLast? '.' last
      rw [List.dropLast_eq_take, length] at front
      have whole : value.take 20 ++ List.replicate 3 '.' = value ++ List.replicate 2 '.' := by
        rw [show List.replicate 3 '.' = ['.'] ++ List.replicate 2 '.' from rfl, ← List.append_assoc]
        exact congrArg (· ++ List.replicate 2 '.') front
      rw [whole, List.append_assoc]
      exact ⟨['"'], _, rfl⟩

end

/-! ## Literals -/

theorem not_token_and_key {value : List Char} (token : isToken value = true) :
    isKey value = false := by
  rw [← Bool.not_eq_true]
  intro key
  obtain ⟨first, second, third, ending, parts⟩ := exists_tokenParts token
  obtain ⟨body, ending', parts'⟩ := exists_keyParts key
  have same : some 'e' = some 'A' := congrArg List.head? (parts.split.symm.trans parts'.split)
  exact absurd same (by decide)

/-- The finding about a literal that is a credential. -/
def credentialDraft (source : Source) (literal : Site) : Draft :=
  if isToken (source.stringValue literal) then
    tokenDraft source literal (source.stringValue literal)
  else accountKeyDraft source literal (source.stringValue literal)

theorem inLiteral_eq (source : Source) (literal : Site) :
    inLiteral source literal =
      if isToken (source.stringValue literal) || isKey (source.stringValue literal) then
        [credentialDraft source literal]
      else [] := by
  rw [inLiteral, credentialDraft]
  change (if isToken (source.stringValue literal) = true then _ else _) ++
    (if isKey (source.stringValue literal) = true then _ else _) = _
  cases token : isToken (source.stringValue literal) with
  | true => simp [not_token_and_key token]
  | false => simp

theorem flatMap_inLiteral (source : Source) (literals : List Site) :
    literals.flatMap (inLiteral source) =
      (literals.filter fun literal =>
        isToken (source.stringValue literal) || isKey (source.stringValue literal)).map
          (credentialDraft source) := by
  induction literals with
  | nil => rfl
  | cons literal literals ih =>
      rw [List.flatMap_cons, List.filter_cons, ih, inLiteral_eq]
      split <;> rfl

/-- The record is about the literal; its snippet shows the value of the literal only if this is a
token that twenty characters and a dot are enough for. -/
structure ReportsLiteral (source : Source) (record : Record) (literal : Site) : Prop where
  file : record.file = source.path
  startLine : record.location.startLine = source.startLine literal
  endLine : record.location.endLine = source.endLine literal
  hides : ¬ source.stringValue literal <:+: record.codeSnippet.toList ↔
    isKey (source.stringValue literal) = true ∨ 21 < (source.stringValue literal).length ∨
      (source.stringValue literal).length = 21 ∧
        (source.stringValue literal).getLast? ≠ some '.'

theorem toList_tokenSnippet (source : Source) (literal : Site) (value : List Char) :
    (tokenDraft source literal value).codeSnippet.toList =
      [] ++ '"' :: (value.take 20 ++ List.replicate 3 '.' ++ '[' :: "MASKED]\"".toList) := by
  have start : (String.ofList (value.take 20)).toList = value.take 20 := String.toList_ofList
  rw [tokenDraft, String.toList_append, String.toList_append, start, List.append_assoc,
    List.append_assoc]
  rfl

theorem toList_accountKeySnippet (source : Source) (literal : Site) (value : List Char) :
    (accountKeyDraft source literal value).codeSnippet.toList =
      [] ++ '"' :: (value.take 8 ++ '.' :: "..[MASKED]\"".toList) := by
  have start : (String.ofList (value.take 8)).toList = value.take 8 := String.toList_ofList
  rw [accountKeyDraft, String.toList_append, String.toList_append, start, List.append_assoc]
  rfl

theorem reportsLiteral_credentialDraft {source : Source} {literal : Site}
    (credential : (isToken (source.stringValue literal) || isKey (source.stringValue literal)) = true)
    (id : String) (stamp : Stamp) :
    ReportsLiteral source ((credentialDraft source literal).toRecord id source.path stamp)
      literal := by
  rw [credentialDraft]
  cases token : isToken (source.stringValue literal) with
  | true =>
      refine ⟨rfl, rfl, rfl, ?_⟩
      obtain ⟨_, _, _, _, parts⟩ := exists_tokenParts token
      have shown := parts.infix_iff
      rw [← toList_tokenSnippet source literal] at shown
      rw [not_token_and_key token]
      refine (not_congr shown).trans ?_
      grind
  | false =>
      rw [token, Bool.false_or] at credential
      refine ⟨rfl, rfl, rfl, iff_of_true ?_ (.inl credential)⟩
      obtain ⟨_, _, parts⟩ := exists_keyParts credential
      have hidden := parts.not_infix
      rw [← toList_accountKeySnippet source literal] at hidden
      exact hidden

theorem forall₂_literalDrafts (source : Source) :
    List.Forall₂
      (fun draft literal =>
        ∀ id stamp, ReportsLiteral source (draft.toRecord id source.path stamp) literal)
      (if isExempt source.path then [] else (source.ofKinds ["string"]).flatMap (inLiteral source))
      (credentials source) := by
  rw [credentials]
  split
  · exact .nil
  · rw [flatMap_inLiteral, List.forall₂_map_left_iff, List.forall₂_same]
    exact fun literal chosen => reportsLiteral_credentialDraft (List.mem_filter.mp chosen).2

/-- The records about literals are those of the literals that are credentials, one for each.  The
snippet hides the value of a key always and that of a token exactly if the token has more than
twenty-one characters, or twenty-one and no dot at its end. -/
theorem literalRecords_hide_iff (stamps : Nat → Stamp) (vocabulary : Vocabulary) (source : Source) :
    ∃ records, (Detector.security stamps).examine vocabulary (.ok source) = .ok records ∧
      List.Forall₂ (ReportsLiteral source) (literalRecords records) (credentials source) := by
  refine ⟨_, Detector.security_examine stamps vocabulary source, ?_⟩
  have marked := Detector.forall₂_stampAll "security" source.path stamps .hardcodedSecret
    (check vocabulary source ++ Injection.check source)
  have literals : List.Forall₂ _ (literalRecords _)
      (List.filter (fun draft : Draft => !draft.columns.isSome) _) :=
    Detector.forall₂_filter marked fun _ _ => congrArg not Option.isSome_map
  rw [filter_literals_ofKind] at literals
  exact Detector.forall₂_records literals (forall₂_literalDrafts source)

/-- A string literal that is a token of eight characters. -/
def shortToken : Source where
  path := "src/a.ts"
  grammar := .typescript
  text := "const t = \"eyJa.b.c\";".toList
  tree :=
    .node ⟨0, "program", "", true, ⟨0, 21⟩⟩
      [.node ⟨1, "lexical_declaration", "", true, ⟨0, 21⟩⟩
        [.node ⟨2, "const", "kind", false, ⟨0, 5⟩⟩ [],
          .node ⟨3, "variable_declarator", "", true, ⟨6, 20⟩⟩
            [.node ⟨4, "identifier", "name", true, ⟨6, 7⟩⟩ [],
              .node ⟨5, "=", "", false, ⟨8, 9⟩⟩ [],
              .node ⟨6, "string", "value", true, ⟨10, 20⟩⟩
                [.node ⟨7, "\"", "", false, ⟨10, 11⟩⟩ [],
                  .node ⟨8, "string_fragment", "", true, ⟨11, 19⟩⟩ [],
                  .node ⟨9, "\"", "", false, ⟨19, 20⟩⟩ []]],
          .node ⟨10, ";", "", false, ⟨20, 21⟩⟩ []]]

/-- The snippet shows the token in full. -/
theorem literalRecords_show_shortToken :
    ∃ literal records record, credentials shortToken = [literal] ∧
      shortToken.stringValue literal = "eyJa.b.c".toList ∧
        (Detector.security Detector.fixedStamps).examine Detector.oneName (.ok shortToken) =
            .ok records ∧
          literalRecords records = [record] ∧
            record.codeSnippet = "\"eyJa.b.c...[MASKED]\"" ∧
              shortToken.stringValue literal <:+: record.codeSnippet.toList := by
  have values : (credentials shortToken).map shortToken.stringValue = ["eyJa.b.c".toList] := by
    decide +kernel
  have snippets : (literalRecords (((Detector.security Detector.fixedStamps).examine
      Detector.oneName (.ok shortToken)).toOption.getD [])).map Record.codeSnippet =
        ["\"eyJa.b.c...[MASKED]\""] := by
    decide +kernel
  obtain ⟨records, examined⟩ : ∃ records, (Detector.security Detector.fixedStamps).examine
      Detector.oneName (.ok shortToken) = .ok records :=
    ⟨_, Detector.security_examine _ _ _⟩
  rw [examined, Except.toOption, Option.getD_some] at snippets
  obtain ⟨literal, only, value⟩ := List.map_eq_singleton_iff.mp values
  obtain ⟨record, only', snippet⟩ := List.map_eq_singleton_iff.mp snippets
  refine ⟨literal, records, record, only, value, examined, only', snippet, ?_⟩
  rw [value, snippet]
  exact ⟨['"'], "...[MASKED]\"".toList, rfl⟩

end Secret
end Hazard
