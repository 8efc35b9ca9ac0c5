import Hazard.Proofs.Detect.Extension
import Hazard.Proofs.Regex.Progress
import Hazard.Proofs.Text.Occurrences
import Mathlib.Data.List.Count

/-!
# What a masked line shows

A line is masked secret by secret, and each time the first place of the secret in what has become of
the line is hidden, wherever the secret was found.  So a secret is hidden as often as it is found, and
what stands in the line more often than that is shown.  This is said of secrets that cannot overlap
the mask; a secret that the mask spells is always shown.
-/

namespace Hazard
namespace Secret

open Regex Text

/-- The secrets of a line, as often as they are found. -/
def secrets (line : List Char) (patterns : List Regex) : List (List Char) :=
  (findings line patterns).filterMap sensitivePart?

/-- Hides one secret in a line. -/
def hide (line value : List Char) : List Char := replaceFirst line value (masked value)

theorem maskLine_eq (line : List Char) (patterns : List Regex) :
    maskLine line patterns = (secrets line patterns).foldl hide line := by
  rw [maskLine, secrets, List.foldl_filterMap]
  congr 1
  funext shown found
  rw [maskSecret]
  cases sensitivePart? found <;> rfl

/-! ## Secrets are pieces of the line -/

theorem groups_of_one {test : CharTest} {cursor finish : Cursor}
    (ran : (Regex.one test).run some cursor = some finish) : finish.groups = cursor.groups := by
  rw [run, Cursor.step] at ran
  cases ahead : cursor.after with
  | nil => simp [ahead] at ran
  | cons c rest =>
      simp only [ahead, Option.ite_none_right_eq_some, Option.some.injEq] at ran
      rw [← ran.2]

/-- What a group catches before one more character lies ahead of where the group starts. -/
theorem prefix_of_group {index : Nat} {body : Regex} {test : CharTest} {cursor finish : Cursor}
    (origin : Cursor)
    (ran : (Regex.seq (.group index body) (.one test)).run some cursor = some finish) :
    (Match.between origin finish).group index <+: cursor.after := by
  obtain ⟨further, -, ran⟩ := advances_run body _ _ _ ran
  rw [Match.group, Match.between, Cursor.captured, groups_of_one ran, Cursor.capture,
    List.lookup_cons_self]
  exact List.take_prefix _ _

theorem infix_of_quoted {found : List Char} {quoted : Match}
    (searched : quotedValue.search found = some quoted) : quoted.group 1 <:+: found := by
  obtain ⟨cursor, suffix, matched⟩ := exists_matchAt_of_searchFrom searched
  obtain ⟨finish, ran, rfl⟩ := Option.map_eq_some_iff.mp matched
  obtain ⟨further, ⟨⟨quote, -, -, after⟩, -⟩, ran⟩ := advances_run (.one _) _ _ _ ran
  have value := prefix_of_group cursor ran
  have ahead : further.after <:+ cursor.after := ⟨quote, after.symm⟩
  exact value.isInfix.trans (ahead.trans suffix).isInfix

theorem infix_of_sensitivePart? {found value : List Char}
    (sensitive : sensitivePart? found = some value) : value <:+: found := by
  unfold sensitivePart? at sensitive
  split at sensitive
  · rename_i quoted searched
    obtain rfl := Option.some.inj sensitive
    exact infix_of_quoted searched
  · split at sensitive
    · contradiction
    · obtain rfl := Option.some.inj sensitive
      exact List.infix_refl _

theorem infix_of_mem_secrets {line value : List Char} {patterns : List Regex}
    (member : value ∈ secrets line patterns) : value <:+: line := by
  obtain ⟨found, finding, sensitive⟩ := List.mem_filterMap.mp member
  obtain ⟨pattern, -, fit⟩ := List.mem_flatMap.mp finding
  obtain ⟨fit, fits, rfl⟩ := List.mem_map.mp fit
  exact (infix_of_sensitivePart? sensitive).trans (infix_of_mem_findAll fits)

/-! ## One secret is hidden -/

/-- The mask follows a beginning of the secret, which is never all of it. -/
theorem masked_eq (value : List Char) :
    ∃ kept, kept <+: value ∧ (value ≠ [] → kept.length < value.length) ∧
      masked value = kept ++ mask := by
  rw [masked]
  split
  · rename_i long
    refine ⟨value.take 4, List.take_prefix 4 value, fun _ => ?_, rfl⟩
    rw [List.length_take]
    omega
  · exact ⟨[], List.nil_prefix, List.length_pos_iff.mpr, rfl⟩

/-- The mask cannot overlap a secret without asterisks, unless it spells the secret. -/
theorem apart_mask {value : List Char} (plain : '*' ∉ value) (unspelled : ¬ value <:+: mask) :
    Apart value mask := by
  have rest_of_mask : ∀ count < mask.length, '*' ∈ mask.drop count := by decide
  constructor
  · rintro ⟨count, within, initial | initial⟩
    · obtain ⟨c, rest, ahead⟩ :=
        List.exists_cons_of_ne_nil (List.drop_eq_nil_iff.not.mpr within.not_ge)
      rw [ahead] at initial
      obtain rfl : c = '*' := (List.cons_prefix_cons.mp initial).1
      exact plain (List.mem_of_mem_drop (ahead ▸ List.mem_cons_self))
    · exact plain (List.mem_of_mem_drop (initial.subset (rest_of_mask 0 (by decide))))
  · rintro ⟨count, within, initial | initial⟩
    · exact plain (initial.subset (rest_of_mask count within))
    · exact unspelled (initial.isInfix.trans (List.drop_suffix count mask).isInfix)

/-- Either the secret is not in the line, or its first place there is hidden. -/
theorem hide_cases (line value : List Char) :
    (¬ value <:+: line ∧ hide line value = line) ∨
      ∃ before after kept, FirstCut value line before after ∧ kept <+: value ∧
        (value ≠ [] → kept.length < value.length) ∧
          hide line value = before ++ kept ++ mask ++ after := by
  rw [hide, replaceFirst]
  cases cut : cutAt? value line with
  | none => exact .inl ⟨cutAt?_eq_none cut, rfl⟩
  | some sides =>
      obtain ⟨kept, initial, shorter, masked⟩ := masked_eq value
      refine .inr ⟨sides.1, sides.2, kept, firstCut_of_cutAt? cut, initial, shorter, ?_⟩
      rw [masked, List.append_assoc sides.1 kept]

variable {value : List Char}

/-- Hiding a secret takes one of its places away. -/
theorem occurrences_hide_self (nonempty : value ≠ []) (apart : Apart value mask)
    (line : List Char) :
    occurrences value (hide line value) = occurrences value line - 1 := by
  rcases hide_cases line value with ⟨missing, same⟩ | ⟨before, after, kept, cut, initial, shorter, eq⟩
  · rw [same, occurrences_eq_zero nonempty missing]
  · have gone := cut.not_infix initial (shorter nonempty)
    rw [eq, apart.occurrences_eq nonempty, occurrences_eq_zero nonempty gone,
      cut.occurrences_eq nonempty, Nat.zero_add, Nat.add_sub_cancel]

/-- Hiding another secret brings none about. -/
theorem occurrences_hide_le (nonempty : value ≠ []) (apart : Apart value mask)
    (line other : List Char) :
    occurrences value (hide line other) ≤ occurrences value line := by
  rcases hide_cases line other with ⟨-, same⟩ | ⟨before, after, kept, cut, initial, -, eq⟩
  · rw [same]
  · obtain ⟨lost, rfl⟩ := initial
    rw [eq, cut.split, apart.occurrences_eq nonempty, ← List.append_assoc]
    calc occurrences value (before ++ kept) + occurrences value after
        ≤ occurrences value (before ++ kept ++ lost) + occurrences value after :=
          Nat.add_le_add_right (Nat.le_of_add_right_le (occurrences_add_le nonempty _ lost)) _
      _ ≤ occurrences value (before ++ kept ++ lost ++ after) := occurrences_add_le nonempty _ after

/-- Hiding a secret that cannot overlap another leaves all places of the other. -/
theorem occurrences_hide_of_apart (nonempty : value ≠ []) (apart : Apart value mask)
    {other : List Char} (apart' : other ≠ [] → Apart value other) (line : List Char) :
    occurrences value (hide line other) = occurrences value line := by
  apply Nat.le_antisymm (occurrences_hide_le nonempty apart line other)
  rcases hide_cases line other with ⟨-, same⟩ | ⟨before, after, kept, cut, -, -, eq⟩
  · rw [same]
  · rw [eq, apart.occurrences_eq nonempty]
    rcases eq_or_ne other [] with rfl | full
    · -- Nothing at all is first found in front of the line.
      obtain rfl := List.eq_nil_of_length_eq_zero (Nat.le_zero.mp (cut.first [] line rfl))
      rw [cut.split]
      exact Nat.le_add_left _ _
    · rw [cut.split, (apart' full).occurrences_eq nonempty]
      exact Nat.add_le_add_right
        (Nat.le_of_add_right_le (occurrences_add_le nonempty before kept)) _

/-- Where something is hidden, the mask is shown. -/
theorem infix_hide {line part : List Char} (spelled : part <:+: mask) (stands : part <:+: line)
    (other : List Char) : part <:+: hide line other := by
  rcases hide_cases line other with ⟨-, same⟩ | ⟨before, after, kept, -, -, -, eq⟩
  · rw [same]
    exact stands
  · rw [eq]
    exact spelled.trans ⟨before ++ kept, after, rfl⟩

/-! ## All secrets are hidden -/

theorem occurrences_foldl_hide_le (nonempty : value ≠ []) (apart : Apart value mask)
    (values : List (List Char)) (line : List Char) :
    occurrences value (values.foldl hide line) ≤ occurrences value line - values.count value := by
  induction values generalizing line with
  | nil => exact le_rfl
  | cons other values ih =>
      rw [List.foldl_cons]
      have rest := ih (hide line other)
      rcases eq_or_ne other value with rfl | different
      · rw [occurrences_hide_self nonempty apart] at rest
        rw [List.count_cons_self]
        omega
      · have first := occurrences_hide_le nonempty apart line other
        rw [List.count_cons_of_ne different]
        omega

theorem occurrences_foldl_hide (nonempty : value ≠ []) (apart : Apart value mask)
    {values : List (List Char)}
    (others : ∀ other ∈ values, other ≠ value → other ≠ [] → Apart value other)
    (line : List Char) :
    occurrences value (values.foldl hide line) = occurrences value line - values.count value := by
  induction values generalizing line with
  | nil => rfl
  | cons other values ih =>
      rw [List.foldl_cons, ih fun later member => others later (List.mem_cons_of_mem other member)]
      rcases eq_or_ne other value with rfl | different
      · rw [occurrences_hide_self nonempty apart, List.count_cons_self]
        omega
      · have apart' := others other List.mem_cons_self different
        rw [occurrences_hide_of_apart nonempty apart apart', List.count_cons_of_ne different]

theorem infix_foldl_hide {line part : List Char} (spelled : part <:+: mask)
    (stands : part <:+: line) (values : List (List Char)) :
    part <:+: values.foldl hide line := by
  induction values generalizing line with
  | nil => exact stands
  | cons other values ih => exact ih (infix_hide spelled stands other)

/-- What is shown of the secrets of a line. -/
structure Conceals (line : List Char) (patterns : List Regex) (shown : List Char) : Prop where
  /-- A secret that stands in the line no more often than it is found is hidden. -/
  hidden : ∀ value ∈ secrets line patterns, value ≠ [] → Apart value mask →
    occurrences value line ≤ (secrets line patterns).count value → ¬ value <:+: shown
  /-- If no other secret can overlap it, it is shown as often as it stands in the line without
  being found. -/
  remaining : ∀ value ∈ secrets line patterns, value ≠ [] → Apart value mask →
    (∀ other ∈ secrets line patterns, other ≠ value → other ≠ [] → Apart value other) →
      occurrences value shown = occurrences value line - (secrets line patterns).count value
  /-- A secret that is part of the mask is always shown. -/
  spelled : ∀ value ∈ secrets line patterns, value <:+: mask → value <:+: shown

theorem conceals_maskLine (line : List Char) (patterns : List Regex) :
    Conceals line patterns (maskLine line patterns) where
  hidden value _ nonempty apart enough shown := by
    have left := occurrences_foldl_hide_le nonempty apart (secrets line patterns) line
    rw [← maskLine_eq] at left
    have more := (occurrences_pos_iff nonempty).mpr shown
    omega
  remaining value _ nonempty apart others := by
    rw [maskLine_eq]
    exact occurrences_foldl_hide nonempty apart others line
  spelled value member spelled := by
    rw [maskLine_eq]
    exact infix_foldl_hide spelled (infix_of_mem_secrets member) _

/-- The drafts with columns are those about lines. -/
theorem mem_inLines_of_columns {vocabulary : Vocabulary} {source : Source} {draft : Draft}
    (member : draft ∈ check vocabulary source ++ Injection.check source)
    (columns : draft.columns ≠ none) :
    draft ∈ inLines source (vocabulary.secretPatterns.map (·.regex)) := by
  rcases List.mem_append.mp member with member | member
  · rw [check] at member
    split at member
    · contradiction
    · rcases List.mem_append.mp member with member | member
      · exact member
      · obtain ⟨literal, -, member⟩ := List.mem_flatMap.mp member
        exact absurd (columns_eq_none_of_mem_inLiteral member) columns
  · exact absurd (Injection.columns_eq_none member) columns

/-- A record with columns is about a line, and shows it masked. -/
theorem conceals_of_mem_examine {stamps : Nat → Stamp} {vocabulary : Vocabulary} {source : Source}
    {records : List Record} {record : Record}
    (examined : (Detector.security stamps).examine vocabulary (.ok source) = .ok records)
    (member : record ∈ records) (columns : record.location.startColumn ≠ none) :
    ∃ number line, record.location.startLine = number + 1 ∧ source.lines[number]? = some line ∧
      Conceals line (vocabulary.secretPatterns.map (·.regex)) record.codeSnippet.toList := by
  obtain ⟨drafts, checked, rfl⟩ := Detector.exists_draft_of_examine examined
  obtain rfl := Detector.eq_append_of_securityCheck checked
  obtain ⟨index, bound, rfl⟩ := List.mem_mapIdx.mp member
  have about := mem_inLines_of_columns (List.getElem_mem bound)
    fun none => columns (congrArg (Option.map _) none)
  obtain ⟨number, line, line_eq, found, -, same⟩ := mem_inLines_iff.mp about
  refine ⟨number, line, ?_, line_eq, ?_⟩
  · exact (congrArg Draft.startLine same).symm
  · have snippet : (check vocabulary source ++ Injection.check source)[index].codeSnippet =
        String.ofList (maskLine line (vocabulary.secretPatterns.map (·.regex))) :=
      (congrArg Draft.codeSnippet same).symm
    rw [Draft.toRecord, snippet, String.toList_ofList]
    exact conceals_maskLine line _

/-- A line is shown with every secret hidden as often as it is found, in records as well. -/
theorem maskLine_conceals (line : List Char) (patterns : List Regex) :
    Conceals line patterns (maskLine line patterns) ∧
      ∀ (stamps : Nat → Stamp) (vocabulary : Vocabulary) (source : Source) (records : List Record),
        (Detector.security stamps).examine vocabulary (.ok source) = .ok records →
          ∀ record ∈ records, record.location.startColumn ≠ none →
            ∃ number line, record.location.startLine = number + 1 ∧
              source.lines[number]? = some line ∧
                Conceals line (vocabulary.secretPatterns.map (·.regex)) record.codeSnippet.toList :=
  ⟨conceals_maskLine line patterns, fun _ _ _ _ examined _ member columns =>
    conceals_of_mem_examine examined member columns⟩

/-- The built-in patterns. -/
def builtinPatterns : List Regex := SecretPattern.builtin.map (·.regex)

/-- Two credentials, each of which stands in the line once. -/
def twoCredentials : List Char :=
  "const creds = \x7b apiKey: \"abcd1234efgh\", password: \"hunter2hunter2\" \x7d;".toList

theorem maskLine_hides_twoCredentials :
    secrets twoCredentials builtinPatterns =
        ["abcd1234efgh".toList, "hunter2hunter2".toList] ∧
      ∀ value ∈ secrets twoCredentials builtinPatterns,
        ¬ value <:+: maskLine twoCredentials builtinPatterns := by
  have found : secrets twoCredentials builtinPatterns =
      ["abcd1234efgh".toList, "hunter2hunter2".toList] := by decide +kernel
  have once : ∀ value ∈ secrets twoCredentials builtinPatterns,
      value ≠ [] ∧ '*' ∉ value ∧ ¬ value <:+: mask ∧
        occurrences value twoCredentials ≤ (secrets twoCredentials builtinPatterns).count value := by
    rw [found]
    decide +kernel
  refine ⟨found, fun value member => ?_⟩
  obtain ⟨nonempty, plain, unspelled, enough⟩ := once value member
  exact (maskLine_conceals twoCredentials builtinPatterns).1.hidden value member nonempty
    (apart_mask plain unspelled) enough

/-- A credential that stands in the line once more, before the place where it is found. -/
def usedTwice : List Char := "const a = \"hunter22\", password = \"hunter22\";".toList

theorem maskLine_shows_usedTwice :
    "hunter22".toList ∈ secrets usedTwice builtinPatterns ∧ 4 < "hunter22".toList.length ∧
      maskLine usedTwice builtinPatterns =
        "const a = \"hunt***MASKED***\", password = \"hunter22\";".toList ∧
      "hunter22".toList <:+: maskLine usedTwice builtinPatterns := by
  decide +kernel

end Secret
end Hazard
