import Hazard.Proofs.Data.Grouping
import Hazard.Proofs.Detect.Extension
import Mathlib.Data.Finset.Card

/-!
# The dominant convention

Variables are reported for following another convention than most of their file.  The table of uses
that is kept while the names are read has the conventions in order of first use, each with the number
of its uses, and the first entry that no other exceeds is the dominant one.  So among conventions that
are used equally often the one that is used first is dominant.
-/

namespace Hazard
namespace Naming

/-- The bindings that are compared: variables of a known convention, not taken out of a pattern. -/
def considered (bindings : List Binding) : List Binding :=
  bindings.filter fun binding =>
    !binding.isParameter && !binding.destructured && Convention.ofName binding.name != .unknown

/-- The conventions of the compared bindings, in order. -/
def uses (bindings : List Binding) : List Convention :=
  (considered bindings).map fun binding => Convention.ofName binding.name

/-- The compared bindings that follow another convention. -/
def outliers (bindings : List Binding) (main : Convention) : List Binding :=
  (considered bindings).filter fun binding => Convention.ofName binding.name != main

/-- The uses are all of one convention. -/
def Uniform (uses : List Convention) : Prop := ∀ first ∈ uses, ∀ second ∈ uses, first = second

/-- The convention is used, and each other one is used less, or as often but later. -/
def IsDominant (uses : List Convention) (main : Convention) : Prop :=
  main ∈ uses ∧ ∀ other ∈ uses, other ≠ main →
    uses.count other < uses.count main ∨
      uses.count other = uses.count main ∧ uses.idxOf main < uses.idxOf other

/-- The record is about the binding: it tells its convention and the dominant one. -/
structure IsOutlierRecord (source : Source) (main : Convention) (record : Record)
    (binding : Binding) : Prop where
  file : record.file = source.path
  startLine : record.location.startLine = source.startLine binding.site
  endLine : record.location.endLine = source.startLine binding.site
  description : record.description =
    "Variable \"" ++ String.ofList binding.name ++ "\" uses " ++
      (Convention.ofName binding.name).name ++ " but file predominantly uses " ++ main.name
  codeSnippet : record.codeSnippet = String.ofList binding.name

/-- The records are those that the bindings call for: none if one convention is used at most, and
otherwise one for each compared binding that does not follow the dominant convention. -/
structure Reports (source : Source) (bindings : List Binding) (records : List Record) : Prop where
  /-- If one convention is used at most, there are no records. -/
  uniform : Uniform (uses bindings) → records = []
  /-- Otherwise one convention is dominant, and there is a record for each use of another one. -/
  mixed : ¬ Uniform (uses bindings) → ∃ main,
    (∀ convention, IsDominant (uses bindings) convention ↔ convention = main) ∧
      List.Forall₂ (IsOutlierRecord source main) records (outliers bindings main) ∧
      records.length = (considered bindings).length - (uses bindings).count main ∧
      records ≠ []

/-! ## The table of uses -/

section

variable {uses : List Convention}

theorem tally_eq (convention : Convention) (counts : List (Convention × Nat)) :
    tally convention counts = Grouping.enter convention 1 (· + 1) counts := by
  induction counts with
  | nil => rfl
  | cons entry counts ih => rw [tally, Grouping.enter, ih]

/-- The table has each convention once, in order of first use, with the number of its uses. -/
theorem foldl_tally (uses : List Convention) :
    uses.foldl (fun counts convention => tally convention counts) [] =
      uses.eraseDups.map fun convention => (convention, uses.count convention) := by
  have kept := Grouping.foldl_enter Grouping.accumulates_length (fun use : Convention => use) uses
  simp only [← tally_eq] at kept
  rw [kept, List.map_id']
  exact List.map_congr_left fun convention _ => by
    rw [Grouping.withKey, List.count_eq_length_filter]

/-- The entry that is kept is the first one that no other exceeds. -/
theorem exists_split_of_foldl (count : Convention → Nat) (first : Convention)
    (rest : List Convention) :
    ∃ before main after,
      (rest.map fun key => (key, count key)).foldl
          (fun best entry => if best.2 < entry.2 then entry else best) (first, count first) =
        (main, count main) ∧
      first :: rest = before ++ main :: after ∧
      (∀ key ∈ before, count key < count main) ∧ ∀ key ∈ after, count key ≤ count main := by
  induction rest using List.reverseRecOn with
  | nil => exact ⟨[], first, [], rfl, rfl, List.forall_mem_nil _, List.forall_mem_nil _⟩
  | append_singleton rest next ih =>
      obtain ⟨before, main, after, kept, placed, less, atMost⟩ := ih
      rw [List.map_append, List.foldl_append, kept, ← List.cons_append, placed]
      by_cases exceeded : count main < count next
      · refine ⟨before ++ main :: after, next, [], if_pos exceeded, rfl, ?_,
          List.forall_mem_nil _⟩
        intro key member
        rcases List.mem_append.mp member with earlier | member
        · exact (less key earlier).trans exceeded
        · rcases List.mem_cons.mp member with rfl | later
          · exact exceeded
          · exact (atMost key later).trans_lt exceeded
      · refine ⟨before, main, after ++ [next], if_neg exceeded, by simp, less, ?_⟩
        intro key member
        rcases List.mem_append.mp member with later | last
        · exact atMost key later
        · rw [List.mem_singleton.mp last]
          exact Nat.le_of_not_lt exceeded

/-- The first of the most used conventions is dominant. -/
theorem isDominant_of_split {before after : List Convention} {main : Convention}
    (placed : uses.eraseDups = before ++ main :: after)
    (less : ∀ key ∈ before, uses.count key < uses.count main)
    (atMost : ∀ key ∈ after, uses.count key ≤ uses.count main) : IsDominant uses main := by
  have mem_iff (key : Convention) : key ∈ uses ↔ key ∈ before ∨ key = main ∨ key ∈ after := by
    rw [← List.mem_eraseDups, placed, List.mem_append, List.mem_cons]
  have ordered := Grouping.pairwise_eraseDups uses
  rw [placed] at ordered
  have later (key : Convention) (member : key ∈ after) : uses.idxOf main < uses.idxOf key :=
    List.rel_of_pairwise_cons (List.pairwise_append.mp ordered).2.1 member
  refine ⟨(mem_iff main).mpr (.inr (.inl rfl)), fun other used differs => ?_⟩
  rcases (mem_iff other).mp used with earlier | same | after
  · exact .inl (less other earlier)
  · contradiction
  · rcases Nat.lt_or_eq_of_le (atMost other after) with fewer | equal
    · exact .inl fewer
    · exact .inr ⟨equal, later other after⟩

/-- What the table of uses calls dominant. -/
theorem dominant_eq_some (used : uses ≠ []) :
    ∃ main, dominant (uses.eraseDups.map fun key => (key, uses.count key)) = some main ∧
      IsDominant uses main := by
  obtain ⟨first, rest, keys_eq⟩ : ∃ first rest, uses.eraseDups = first :: rest := by
    obtain ⟨first, rest, rfl⟩ := List.exists_cons_of_ne_nil used
    exact ⟨_, _, List.eraseDups_cons⟩
  obtain ⟨before, main, after, kept, placed, less, atMost⟩ :=
    exists_split_of_foldl uses.count first rest
  refine ⟨main, ?_, isDominant_of_split (keys_eq.trans placed) less atMost⟩
  rw [keys_eq, List.map_cons, dominant, kept]

example : dominant (usage [.camelCase, .unknown, .snakeCase, .snakeCase, .unknown, .unknown,
    .camelCase, .pascalCase]) = some .camelCase := by decide

theorem IsDominant.unique {first second : Convention} (dominant : IsDominant uses first)
    (other : IsDominant uses second) : first = second := by
  by_contra differ
  have one := dominant.2 second other.1 (Ne.symm differ)
  have two := other.2 first dominant.1 differ
  omega

theorem uniform_iff : Uniform uses ↔ uses.eraseDups.length ≤ 1 := by
  rw [← List.toFinset_card_of_nodup (Grouping.nodup_eraseDups uses), Finset.card_le_one]
  simp only [Uniform, List.mem_toFinset, List.mem_eraseDups]

end

/-! ## Findings -/

section

variable {source : Source} {bindings : List Binding}

theorem filter_compared (bindings : List Binding) (keep : Convention → Bool) :
    (compared bindings).filter (fun entry => entry.2 != .unknown && keep entry.2) =
      ((considered bindings).filter fun binding => keep (Convention.ofName binding.name)).map
        fun binding => (binding, Convention.ofName binding.name) := by
  rw [compared, considered, List.filter_map, List.filter_filter, List.filter_filter]
  congr 1
  refine List.filter_congr fun binding _ => ?_
  rw [Function.comp_apply]
  ac_rfl

theorem usage_compared (bindings : List Binding) :
    usage ((compared bindings).map (·.2)) =
      (uses bindings).eraseDups.map fun key => (key, (uses bindings).count key) := by
  have known : (compared bindings).filter (fun entry => entry.2 != .unknown) =
      (considered bindings).map fun binding => (binding, Convention.ofName binding.name) := by
    simpa using filter_compared bindings fun _ => true
  rw [← foldl_tally, usage, List.filter_map, Function.comp_def, known, List.map_map]
  rfl

theorem inconsistencies_of_uniform (uniform : Uniform (uses bindings)) :
    inconsistencies source bindings = [] := by
  have short := uniform_iff.mp uniform
  rw [inconsistencies, usage_compared]
  split
  · rfl
  · rw [if_pos (by rwa [List.length_map])]

theorem inconsistencies_of_mixed (source : Source) (mixed : ¬ Uniform (uses bindings)) :
    ∃ main, IsDominant (uses bindings) main ∧
      inconsistencies source bindings = (outliers bindings main).map fun binding =>
        inconsistencyDraft source binding (Convention.ofName binding.name) main := by
  have used : uses bindings ≠ [] := by
    intro unused
    rw [unused] at mixed
    exact mixed (List.forall_mem_nil _)
  obtain ⟨main, found, dominant⟩ := dominant_eq_some used
  refine ⟨main, dominant, ?_⟩
  rw [inconsistencies, usage_compared, found]
  have long : ¬ (uses bindings).eraseDups.length ≤ 1 := fun short => mixed (uniform_iff.mpr short)
  simp only [List.length_map, if_neg long]
  have chosen := filter_compared bindings fun convention => convention != main
  rw [chosen, List.map_map]
  rfl

theorem kind_of_mem_inconsistencies {draft : Draft}
    (member : draft ∈ inconsistencies source bindings) : draft.kind = .inconsistentNaming := by
  by_cases uniform : Uniform (uses bindings)
  · rw [inconsistencies_of_uniform uniform] at member
    contradiction
  · obtain ⟨main, -, drafts_eq⟩ := inconsistencies_of_mixed source uniform
    rw [drafts_eq] at member
    obtain ⟨binding, -, rfl⟩ := List.mem_map.mp member
    rfl

theorem isOutlierRecord_inconsistencyDraft (source : Source) (binding : Binding)
    (main : Convention) (id : String) (stamp : Stamp) :
    IsOutlierRecord source main
      ((inconsistencyDraft source binding (Convention.ofName binding.name) main).toRecord id
        source.path stamp) binding :=
  ⟨rfl, rfl, rfl, rfl, rfl⟩

theorem length_outliers (bindings : List Binding) (main : Convention) :
    (outliers bindings main).length = (considered bindings).length - (uses bindings).count main := by
  have split := List.length_eq_countP_add_countP
    (fun binding : Binding => Convention.ofName binding.name != main) (l := considered bindings)
  have followers : (uses bindings).count main = (considered bindings).countP
      fun binding => ¬ (Convention.ofName binding.name != main) := by
    rw [uses, List.count, List.countP_map]
    refine List.countP_congr fun binding _ => ?_
    simp
  rw [outliers, ← List.countP_eq_length_filter, followers]
  omega

/-- Another convention is used as well. -/
theorem outliers_ne_nil {main : Convention} (mixed : ¬ Uniform (uses bindings)) :
    outliers bindings main ≠ [] := by
  intro none
  have all : ∀ convention ∈ uses bindings, convention = main := by
    rw [uses, List.forall_mem_map]
    intro binding chosen
    simpa using List.filter_eq_nil_iff.mp none binding chosen
  refine mixed fun first used second used' => ?_
  rw [all first used, all second used']

theorem reports_of_marked {records : List Record} {id : String}
    (marked : List.Forall₂ (fun record draft => ∃ stamp, record = draft.toRecord id source.path stamp)
      records (inconsistencies source bindings)) : Reports source bindings records where
  uniform uniform := by
    rw [inconsistencies_of_uniform uniform] at marked
    exact List.forall₂_nil_right_iff.mp marked
  mixed mixed := by
    obtain ⟨main, dominant, drafts_eq⟩ := inconsistencies_of_mixed source mixed
    have told : List.Forall₂
        (fun draft binding => ∀ id stamp,
          IsOutlierRecord source main (draft.toRecord id source.path stamp) binding)
        (inconsistencies source bindings) (outliers bindings main) := by
      rw [drafts_eq, List.forall₂_map_left_iff, List.forall₂_same]
      exact fun binding _ => isOutlierRecord_inconsistencyDraft source binding main
    have records_told := Detector.forall₂_records marked told
    refine ⟨main, ?_, records_told, ?_, ?_⟩
    · intro convention
      refine ⟨fun other => other.unique dominant, ?_⟩
      rintro rfl
      exact dominant
    · rw [records_told.length_eq, length_outliers]
    · rintro rfl
      exact outliers_ne_nil mixed (List.forall₂_nil_left_iff.mp records_told)

end

/-- Whatever the bindings, the findings about mixed conventions are one for each compared binding that
does not follow the dominant convention, and the names of a file are examined so wherever there is room
for its patterns. -/
theorem mixedConventions_reports (source : Source) (vocabulary : Vocabulary)
    (stamps : Nat → Stamp) :
    (∀ bindings, Reports source bindings
      ((Detector.stampAll "naming" source.path stamps
        (genericNames source vocabulary bindings ++ inconsistencies source bindings)).filter
          (·.kind == .inconsistentNaming))) ∧
    ∀ room, Binding.callsFor source ≤ room →
      ∃ records, (Detector.naming stamps room).examine vocabulary (.ok source) = .ok records ∧
        Reports source (Binding.collect source) (records.filter (·.kind == .inconsistentNaming)) := by
  refine (and_iff_left_of_imp fun reports room fits => ?_).mpr fun bindings => ?_
  · rw [Detector.naming_examine, Binding.within_of_le fits]
    exact ⟨_, rfl, reports (Binding.collect source)⟩
  have marked := Detector.forall₂_stampAll "naming" source.path stamps .inconsistentNaming
    (genericNames source vocabulary bindings ++ inconsistencies source bindings)
  have generic : ofKind .inconsistentNaming (genericNames source vocabulary bindings) = [] :=
    ofKind_eq_nil (by decide) fun _ => kind_of_mem_genericNames
  have mixed : ofKind .inconsistentNaming (inconsistencies source bindings) =
      inconsistencies source bindings := ofKind_eq_self fun _ => kind_of_mem_inconsistencies
  rw [ofKind_append, generic, mixed, List.nil_append] at marked
  exact reports_of_marked marked

/-- A declaration of two variables that follow two conventions. -/
def twoConventions : Source where
  path := "src/a.js"
  grammar := .javascript
  text := "let a_b, cD;\n".toList
  tree :=
    .node ⟨0, "program", "", true, ⟨0, 13⟩⟩
      [.node ⟨1, "lexical_declaration", "", true, ⟨0, 12⟩⟩
        [.node ⟨2, "let", "kind", false, ⟨0, 3⟩⟩ [],
          .node ⟨3, "variable_declarator", "", true, ⟨4, 7⟩⟩
            [.node ⟨4, "identifier", "name", true, ⟨4, 7⟩⟩ []],
          .node ⟨5, ",", "", false, ⟨7, 8⟩⟩ [],
          .node ⟨6, "variable_declarator", "", true, ⟨9, 11⟩⟩
            [.node ⟨7, "identifier", "name", true, ⟨9, 11⟩⟩ []],
          .node ⟨8, ";", "", false, ⟨11, 12⟩⟩ []]]

/-- Of two conventions that are used equally often, the first is dominant, and the other variable is
reported. -/
theorem mixedConventions_reports_twoConventions :
    ∃ records, (Detector.naming Detector.fixedStamps).examine Detector.oneName
        (.ok twoConventions) = .ok records ∧
      (records.filter (·.kind == .inconsistentNaming)).map Record.description =
        ["Variable \"cD\" uses camelCase but file predominantly uses snake_case"] ∧
      Reports twoConventions (Binding.collect twoConventions)
        (records.filter (·.kind == .inconsistentNaming)) := by
  have fits : Binding.callsFor twoConventions ≤ Binding.usualRoom := by decide +kernel
  have described : ((((Detector.naming Detector.fixedStamps).examine Detector.oneName
      (.ok twoConventions)).toOption.getD []).filter (·.kind == .inconsistentNaming)).map
        Record.description =
          ["Variable \"cD\" uses camelCase but file predominantly uses snake_case"] := by
    decide +kernel
  obtain ⟨records, examined, reports⟩ :=
    (mixedConventions_reports twoConventions Detector.oneName Detector.fixedStamps).2 _ fits
  rw [examined, Except.toOption, Option.getD_some] at described
  exact ⟨records, examined, described, reports⟩

end Naming
end Hazard
