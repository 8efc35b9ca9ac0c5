import Hazard.Proofs.Detect.Recording
import Hazard.Proofs.Syntax.Nesting
import Mathlib.Data.Prod.Lex

/-!
# Records are well formed

Every record of a built-in detector names one of the kinds that the detector declares, the file and
the detector, and a region of the file: lines that exist, in order, and columns, if there are any, in
order too.  Each way to make a finding takes its lines from other nodes, so the argument has one
lemma for each check and one for the nodes they share.
-/

namespace Hazard

/-- A record that a detector may make about a source. -/
structure Record.WellFormed (detector : Detector) (source : Source) (record : Record) : Prop where
  /-- The detector declares the kind. -/
  kind : record.kind ∈ detector.kinds
  /-- The record names the file. -/
  file : record.file = source.path
  /-- The record names the detector. -/
  detectorId : record.detectorId = detector.id
  /-- Lines are counted from one. -/
  first : 1 ≤ record.location.startLine
  /-- The last line is not before the first. -/
  ordered : record.location.startLine ≤ record.location.endLine
  /-- The last line is one of the file. -/
  last : record.location.endLine ≤ source.lines.length
  /-- Both columns are missing, or both are there and the region does not end before it starts. -/
  columns :
    (record.location.startColumn = none ∧ record.location.endColumn = none) ∨
      ∃ start stop, record.location.startColumn = some start ∧
        record.location.endColumn = some stop ∧ 1 ≤ start ∧ 1 ≤ stop ∧
        toLex (record.location.startLine, start) ≤ toLex (record.location.endLine, stop)

/-- A finding of one of the kinds, in a region of the source. -/
structure Draft.Placed (source : Source) (kinds : List Kind) (draft : Draft) : Prop where
  /-- The kind is one of the kinds. -/
  kind : draft.kind ∈ kinds
  /-- Lines are counted from one. -/
  first : 1 ≤ draft.startLine
  /-- The last line is not before the first. -/
  ordered : draft.startLine ≤ draft.endLine
  /-- The last line is one of the file. -/
  last : draft.endLine ≤ source.lines.length
  /-- Columns are counted from one, and on one line the last is not before the first. -/
  columns : ∀ pair ∈ draft.columns, 1 ≤ pair.1 ∧ 1 ≤ pair.2 ∧
    (draft.startLine = draft.endLine → pair.1 ≤ pair.2)

/-- Columns that are missing satisfy every condition. -/
theorem Draft.forall_columns_of_none {holds : Nat × Nat → Prop} : ∀ pair ∈ none, holds pair :=
  fun pair member => absurd member (Option.not_mem_none pair)

theorem Draft.Placed.wellFormed_toRecord (detector : Detector) {source : Source} {draft : Draft}
    (placed : draft.Placed source detector.kinds) (stamp : Stamp) :
    (draft.toRecord detector.id source.path stamp).WellFormed detector source where
  kind := placed.kind
  file := rfl
  detectorId := rfl
  first := placed.first
  ordered := placed.ordered
  last := placed.last
  columns := by
    cases pair_eq : draft.columns with
    | none => simp [toRecord, pair_eq]
    | some pair =>
        obtain ⟨first, second, ordered⟩ := placed.columns pair pair_eq
        refine .inr ⟨pair.1, pair.2, by simp [toRecord, pair_eq], by simp [toRecord, pair_eq],
          by exact_mod_cast first, by exact_mod_cast second, ?_⟩
        rw [Prod.Lex.toLex_le_toLex]
        rcases Nat.lt_or_eq_of_le placed.ordered with less | same
        · exact .inl less
        · exact .inr ⟨same, Int.ofNat_le.mpr (ordered same)⟩

/-! ## Lines of nodes -/

namespace Source

section

variable (source : Source)

theorem startLine_le_endLine {first last : Site} (le : first.span.start ≤ last.span.stop) :
    source.startLine first ≤ source.endLine last :=
  Nat.succ_le_succ (Text.row_mono le source.text)

theorem startLine_mono {first second : Site} (le : first.span.start ≤ second.span.start) :
    source.startLine first ≤ source.startLine second :=
  Nat.succ_le_succ (Text.row_mono le source.text)

theorem endLine_mono {first second : Site} (le : first.span.stop ≤ second.span.stop) :
    source.endLine first ≤ source.endLine second :=
  Nat.succ_le_succ (Text.row_mono le source.text)

theorem startLine_le_length (site : Site) : source.startLine site ≤ source.lines.length :=
  Text.row_lt_length_lines source.text site.span.start

theorem endLine_le_length (site : Site) : source.endLine site ≤ source.lines.length :=
  Text.row_lt_length_lines source.text site.span.stop

end

variable {source : Source}

/-- On one line a node does not end before it starts. -/
theorem startColumn_le_endColumn {site : Site} (forward : site.span.start ≤ site.span.stop)
    (same : source.startLine site = source.endLine site) :
    source.startColumn site ≤ source.endColumn site :=
  Text.column_mono forward (Nat.succ.inj same)

theorem nested_of_mem_walk (nested : source.tree.Nested) {site : Site}
    (mem : site ∈ source.walk) : site.tree.Nested :=
  Site.nested_of_mem_walkTree nested mem

theorem nested_of_mem_ofKinds (nested : source.tree.Nested) {site : Site} {kinds : List String}
    (mem : site ∈ source.ofKinds kinds) : site.tree.Nested :=
  nested_of_mem_walk nested (List.mem_of_mem_filter mem)

end Source

/-- The lines of a finding may be those of any nodes around the node whose columns it tells: if they
are one line, that node stands on it. -/
theorem Draft.placed_around {source : Source} {kinds : List Kind} {draft : Draft}
    {inner : Site} (first last : Site) (nested : inner.tree.Nested) (kind : draft.kind ∈ kinds)
    (start : draft.startLine = source.startLine first)
    (stop : draft.endLine = source.endLine last)
    (starts : first.span.start ≤ inner.span.start) (stops : inner.span.stop ≤ last.span.stop)
    (columns : ∀ pair ∈ draft.columns, pair = (source.startColumn inner, source.endColumn inner)) :
    draft.Placed source kinds := by
  have startLine_le := source.startLine_mono starts
  have endLine_le := source.endLine_mono stops
  have forward := source.startLine_le_endLine nested.forward
  refine ⟨kind, start ▸ source.one_le_startLine first, by omega,
    stop ▸ source.endLine_le_length last, ?_⟩
  intro pair mem
  obtain rfl := columns pair mem
  refine ⟨Text.column_pos _ _, Text.column_pos _ _, fun same => ?_⟩
  exact Source.startColumn_le_endColumn nested.forward (by omega)

/-- A finding on the lines of one node, without columns. -/
theorem Draft.placed_of_site {source : Source} {kinds : List Kind} {draft : Draft} {site : Site}
    (nested : site.tree.Nested) (kind : draft.kind ∈ kinds)
    (start : draft.startLine = source.startLine site)
    (stop : draft.endLine = source.endLine site) (plain : draft.columns = none) :
    draft.Placed source kinds :=
  placed_around site site nested kind start stop (Nat.le_refl _) (Nat.le_refl _) (by simp [plain])

/-- A finding on one line of the source. -/
theorem Draft.placed_of_line {source : Source} {kinds : List Kind} {draft : Draft} {number : Nat}
    (exists_line : number < source.lines.length) (kind : draft.kind ∈ kinds)
    (start : draft.startLine = number + 1) (stop : draft.endLine = number + 1)
    (columns : ∀ pair ∈ draft.columns, 1 ≤ pair.1 ∧ 1 ≤ pair.2 ∧ pair.1 ≤ pair.2) :
    draft.Placed source kinds where
  kind := kind
  first := by omega
  ordered := by omega
  last := by omega
  columns := fun pair mem =>
    ⟨(columns pair mem).1, (columns pair mem).2.1, fun _ => (columns pair mem).2.2⟩

theorem mem_filterMap_mapIdx {α β : Type} {f : Nat → α → Option β} {items : List α} {found : β} :
    found ∈ (items.mapIdx f).filterMap id ↔
      ∃ number item, items[number]? = some item ∧ f number item = some found := by
  simp only [List.mem_filterMap, List.mem_mapIdx, id_eq]
  constructor
  · rintro ⟨_, ⟨number, number_lt, rfl⟩, found_eq⟩
    exact ⟨number, items[number], List.getElem?_eq_getElem number_lt, found_eq⟩
  · rintro ⟨number, item, item_eq, found_eq⟩
    obtain ⟨number_lt, rfl⟩ := List.getElem?_eq_some_iff.mp item_eq
    exact ⟨_, ⟨number, number_lt, rfl⟩, found_eq⟩

/-! ## Names -/

namespace Binding

/-- The name is bound inside its declaration. -/
structure Held (binding : Binding) : Prop where
  declared : binding.declaration.tree.Nested
  within : binding.site.Within binding.declaration.span

theorem held_of_mem_ofPattern {source : Source} {declaration pattern : Site} {inLoopHeader : Bool}
    {binding : Binding} (declared : declaration.tree.Nested)
    (within : pattern.Within declaration.span)
    (mem : binding ∈ ofPattern source declaration inLoopHeader pattern) : binding.Held := by
  obtain ⟨⟨site, nesting⟩, named, rfl⟩ := List.mem_map.mp mem
  exact ⟨declared, (within_of_mem_namesIn within.nested named).trans within.inside⟩

theorem nested_of_mem_parameters {function parameter : Site} (nested : function.tree.Nested)
    (mem : parameter ∈ parameters function) : parameter.tree.Nested := by
  rw [parameters] at mem
  split at mem
  · rename_i single found
    obtain rfl := List.mem_singleton.mp mem
    exact (Site.within_of_child? nested found).nested
  · split at mem
    · rename_i list found
      have held := (Site.within_of_child? nested found).nested
      exact (Site.within_of_mem_namedChildren held mem).nested
    · exact absurd mem List.not_mem_nil

theorem held_of_mem_ofParameters {source : Source} {function : Site} {binding : Binding}
    (nested : function.tree.Nested) (mem : binding ∈ ofParameters source function) :
    binding.Held := by
  obtain ⟨parameter, listed, bound⟩ := List.mem_flatMap.mp mem
  obtain ⟨plain, named, rfl⟩ := List.mem_map.mp bound
  have declared := nested_of_mem_parameters nested listed
  have held := held_of_mem_ofPattern declared (.self declared) named
  exact ⟨held.declared, held.within⟩

theorem held_of_mem_ofSite {source : Source} {site : Site} {binding : Binding}
    (nested : site.tree.Nested) (mem : binding ∈ ofSite source site) : binding.Held := by
  have held_of_child {field : String} {pattern : Site} {inLoopHeader : Bool}
      (found : site.child? field = some pattern)
      (mem : binding ∈ ofPattern source site inLoopHeader pattern) : binding.Held :=
    held_of_mem_ofPattern nested (Site.within_of_child? nested found) mem
  rw [ofSite] at mem
  split at mem
  · split at mem
    · exact held_of_child ‹_› mem
    · exact absurd mem List.not_mem_nil
  · split at mem
    · split at mem
      · split at mem
        · exact held_of_child ‹_› mem
        · exact absurd mem List.not_mem_nil
      · exact absurd mem List.not_mem_nil
    · split at mem
      · split at mem
        · exact held_of_child ‹_› mem
        · exact absurd mem List.not_mem_nil
      · split at mem
        · exact held_of_mem_ofParameters nested mem
        · exact absurd mem List.not_mem_nil

theorem held_of_mem_collect {source : Source} {binding : Binding} (nested : source.tree.Nested)
    (mem : binding ∈ collect source) : binding.Held := by
  obtain ⟨site, mem, bound⟩ := List.mem_flatMap.mp mem
  exact held_of_mem_ofSite (Source.nested_of_mem_walk nested mem) bound

end Binding

namespace Naming

variable {source : Source} {kinds : List Kind} {binding : Binding}

theorem placed_variableDraft (held : binding.Held) (kind : Kind.genericVariableName ∈ kinds) :
    (variableDraft source binding).Placed source kinds := by
  by_cases declarator : binding.declaration.kind == "variable_declarator"
  · exact Draft.placed_around binding.site binding.declaration
      held.within.nested kind rfl (by simp [variableDraft, suggestedDraft, declarator]) (Nat.le_refl _)
      held.within.inside.stop (by simp [variableDraft, suggestedDraft, columns])
  · exact Draft.placed_around binding.site binding.site
      held.within.nested kind rfl (by simp [variableDraft, suggestedDraft, declarator]) (Nat.le_refl _)
      (Nat.le_refl _) (by simp [variableDraft, suggestedDraft, columns])

theorem placed_parameterDraft (held : binding.Held) (kind : Kind.genericVariableName ∈ kinds) :
    (parameterDraft source binding).Placed source kinds :=
  Draft.placed_around binding.declaration binding.declaration
    held.within.nested kind rfl rfl held.within.inside.start held.within.inside.stop
    (by simp [parameterDraft, columns])

theorem placed_inconsistencyDraft (convention dominant : Convention)
    (kind : Kind.inconsistentNaming ∈ kinds) :
    (inconsistencyDraft source binding convention dominant).Placed source kinds where
  kind := kind
  first := source.one_le_startLine binding.site
  ordered := Nat.le_refl _
  last := source.startLine_le_length binding.site
  columns := Draft.forall_columns_of_none

theorem placed_of_check {room : Nat} {vocabulary : Vocabulary} {drafts : List Draft}
    (nested : source.tree.Nested) (checked : check room vocabulary source = .ok drafts) :
    ∀ draft ∈ drafts, draft.Placed source [.genericVariableName, .inconsistentNaming] := by
  obtain rfl := eq_findings_of_check checked
  intro draft mem
  rcases List.mem_append.mp mem with mem | mem
  · obtain ⟨binding, chosen, rfl⟩ := List.mem_map.mp mem
    have held := Binding.held_of_mem_collect nested (List.mem_of_mem_filter chosen)
    split
    · exact placed_parameterDraft held (by decide)
    · exact placed_variableDraft held (by decide)
  · rw [inconsistencies] at mem
    dsimp only at mem
    split at mem
    · exact absurd mem List.not_mem_nil
    · split at mem
      · exact absurd mem List.not_mem_nil
      · obtain ⟨⟨binding, convention⟩, -, rfl⟩ := List.mem_map.mp mem
        exact placed_inconsistencyDraft convention _ (by decide)

end Naming

/-! ## Errors -/

namespace ErrorHandling

variable {source : Source} {kinds : List Kind} {site : Site} {draft : Draft}

theorem placed_of_emptyCatch? (nested : site.tree.Nested) (kind : Kind.emptyCatchBlock ∈ kinds)
    (found : emptyCatch? source site = some draft) : draft.Placed source kinds := by
  rw [emptyCatch?] at found
  split at found
  · split at found
    · obtain rfl := Option.some.inj found
      exact Draft.placed_of_site nested kind rfl rfl rfl
    · contradiction
  · contradiction

theorem placed_of_swallowed? (nested : site.tree.Nested) (kind : Kind.swallowedError ∈ kinds)
    (found : swallowed? source site = some draft) : draft.Placed source kinds := by
  rw [swallowed?] at found
  split at found
  · split at found
    · contradiction
    · obtain rfl := Option.some.inj found
      exact Draft.placed_of_site nested kind rfl rfl rfl
  · contradiction

/-- What looks like a `try` starts at the node or inside it. -/
theorem within_of_attempt? {found : Attempt} (nested : site.tree.Nested)
    (attempted : attempt? site = some found) : found.start.Within site.span := by
  rw [attempt?] at attempted
  split at attempted
  · obtain rfl := Option.some.inj attempted
    exact .self nested
  · split at attempted
    · obtain ⟨start, held, rfl⟩ := Option.map_eq_some_iff.mp attempted
      exact Site.within_of_mem_children nested (List.mem_of_find?_eq_some held)
    · contradiction

theorem placed_of_uncaught? (nested : site.tree.Nested) (bare : Kind.emptyCatchBlock ∈ kinds)
    (finallyOnly : Kind.tryWithoutCatch ∈ kinds)
    (found : uncaught? source site = some draft) : draft.Placed source kinds := by
  rw [uncaught?] at found
  split at found
  · contradiction
  · rename_i attempted
    split at found
    · contradiction
    · split at found
      · obtain rfl := Option.some.inj found
        have within := within_of_attempt? nested attempted
        exact Draft.placed_around _ site within.nested bare rfl rfl (Nat.le_refl _)
          within.inside.stop Draft.forall_columns_of_none
      · split at found
        · obtain rfl := Option.some.inj found
          exact Draft.placed_of_site nested finallyOnly rfl rfl rfl
        · contradiction

theorem placed_of_boundary? (nested : site.tree.Nested)
    (kind : Kind.missingErrorBoundary ∈ kinds) (found : boundary? source site = some draft) :
    draft.Placed source kinds := by
  have forward := source.startLine_le_endLine nested.forward
  have last := source.endLine_le_length site
  rw [boundary?] at found
  split at found
  · split at found
    · contradiction
    · dsimp only at found
      split at found
      · contradiction
      · obtain rfl := Option.some.inj found
        refine ⟨kind, source.one_le_startLine site, ?_, ?_, Draft.forall_columns_of_none⟩
        · simp only [boundaryDraft]
          omega
        · simp only [boundaryDraft]
          omega
  · contradiction

theorem placed_messageDraft (nested : site.tree.Nested)
    (kind : Kind.genericErrorMessage ∈ kinds) :
    (messageDraft source site).Placed source kinds :=
  Draft.placed_around site site nested kind rfl rfl (Nat.le_refl _) (Nat.le_refl _)
    (by simp [messageDraft])

theorem placed_of_check {vocabulary : Vocabulary} {drafts : List Draft}
    (nested : source.tree.Nested) (checked : check vocabulary source = .ok drafts) :
    ∀ draft ∈ drafts, draft.Placed source
      [.emptyCatchBlock, .swallowedError, .missingErrorBoundary, .genericErrorMessage,
        .tryWithoutCatch] := by
  obtain rfl := eq_findings_of_check checked
  intro draft mem
  simp only [findings, List.mem_append, List.mem_filterMap] at mem
  rcases mem with (((⟨site, mem, found⟩ | ⟨site, mem, found⟩) | ⟨site, mem, found⟩) |
    ⟨site, mem, found⟩) | mem
  · exact placed_of_emptyCatch? (Source.nested_of_mem_ofKinds nested mem) (by decide) found
  · exact placed_of_swallowed? (Source.nested_of_mem_ofKinds nested mem) (by decide) found
  · exact placed_of_uncaught? (Source.nested_of_mem_walk nested mem) (by decide) (by decide) found
  · exact placed_of_boundary? (Source.nested_of_mem_walk nested mem) (by decide) found
  · obtain ⟨literal, chosen, rfl⟩ := List.mem_map.mp mem
    have held := Source.nested_of_mem_ofKinds nested (List.mem_of_mem_filter chosen)
    exact placed_messageDraft held (by decide)

end ErrorHandling

/-! ## Credentials and injections -/

namespace Secret

variable {source : Source} {kinds : List Kind}

theorem exists_search_of_inLine? {line : List Char} {patterns : List Regex}
    {found : Regex.Match} (searched : inLine? line patterns = some found) :
    ∃ pattern ∈ patterns, pattern.search line = some found := by
  rw [inLine?] at searched
  split at searched
  · contradiction
  · exact List.exists_of_findSome?_eq_some searched

theorem mem_inLines_iff {patterns : List Regex} {draft : Draft} :
    draft ∈ inLines source patterns ↔
      ∃ number line, source.lines[number]? = some line ∧
        ∃ found, inLine? line patterns = some found ∧
          lineDraft line patterns (number + 1) found = draft := by
  rw [inLines, mem_filterMap_mapIdx]
  simp only [Option.map_eq_some_iff]

theorem placed_of_mem_inLines {patterns : List Regex} {draft : Draft}
    (kind : Kind.hardcodedSecret ∈ kinds) (mem : draft ∈ inLines source patterns) :
    draft.Placed source kinds := by
  obtain ⟨number, line, line_eq, found, searched, rfl⟩ := mem_inLines_iff.mp mem
  obtain ⟨number_lt, -⟩ := List.getElem?_eq_some_iff.mp line_eq
  obtain ⟨pattern, -, searched⟩ := exists_search_of_inLine? searched
  have stop := (Regex.liesIn_of_search searched).stop
  refine Draft.placed_of_line number_lt kind rfl rfl ?_
  intro pair pair_eq
  obtain rfl := Option.some.inj pair_eq
  exact ⟨Nat.le_add_left 1 _, Nat.le_add_left 1 _, by simp only; omega⟩

theorem placed_of_mem_inLiteral {literal : Site} {draft : Draft} (nested : literal.tree.Nested)
    (kind : Kind.hardcodedSecret ∈ kinds) (mem : draft ∈ inLiteral source literal) :
    draft.Placed source kinds := by
  rcases List.mem_append.mp mem with mem | mem
  · split at mem
    · obtain rfl := List.mem_singleton.mp mem
      exact Draft.placed_of_site nested kind rfl rfl rfl
    · exact absurd mem List.not_mem_nil
  · split at mem
    · obtain rfl := List.mem_singleton.mp mem
      exact Draft.placed_of_site nested kind rfl rfl rfl
    · exact absurd mem List.not_mem_nil

theorem placed_of_mem_check {vocabulary : Vocabulary} {draft : Draft}
    (nested : source.tree.Nested) (kind : Kind.hardcodedSecret ∈ kinds)
    (mem : draft ∈ check vocabulary source) : draft.Placed source kinds := by
  rw [check] at mem
  split at mem
  · exact absurd mem List.not_mem_nil
  · rcases List.mem_append.mp mem with mem | mem
    · exact placed_of_mem_inLines kind mem
    · obtain ⟨literal, listed, mem⟩ := List.mem_flatMap.mp mem
      exact placed_of_mem_inLiteral (Source.nested_of_mem_ofKinds nested listed) kind mem

end Secret

namespace Injection

variable {source : Source} {kinds : List Kind} {call : Site} {draft : Draft}

theorem placed_of_evaluation? (nested : call.tree.Nested) (kind : Kind.unsafeEval ∈ kinds)
    (found : evaluation? source call = some draft) : draft.Placed source kinds := by
  rw [evaluation?] at found
  split at found
  · split at found
    · obtain rfl := Option.some.inj found
      exact Draft.placed_of_site nested kind rfl rfl rfl
    · contradiction
  · split at found
    · obtain rfl := Option.some.inj found
      exact Draft.placed_of_site nested kind rfl rfl rfl
    · split at found
      · obtain rfl := Option.some.inj found
        exact Draft.placed_of_site nested kind rfl rfl rfl
      · split at found
        · obtain rfl := Option.some.inj found
          exact Draft.placed_of_site nested kind rfl rfl rfl
        · contradiction

theorem placed_of_random? (nested : call.tree.Nested) (kind : Kind.insecureRandom ∈ kinds)
    (found : random? source call = some draft) : draft.Placed source kinds := by
  rw [random?] at found
  split at found
  · obtain rfl := Option.some.inj found
    exact Draft.placed_of_site nested kind rfl rfl rfl
  · contradiction

theorem placed_of_mem_check (nested : source.tree.Nested)
    (query : Kind.sqlConcatenation ∈ kinds) (evaluation : Kind.unsafeEval ∈ kinds)
    (random : Kind.insecureRandom ∈ kinds) (mem : draft ∈ check source) :
    draft.Placed source kinds := by
  simp only [check, List.mem_append] at mem
  rcases mem with ((mem | mem) | mem) | mem
  · obtain ⟨template, chosen, rfl⟩ := List.mem_map.mp mem
    have held := Source.nested_of_mem_ofKinds nested (List.mem_of_mem_filter chosen)
    exact Draft.placed_of_site held query rfl rfl rfl
  · obtain ⟨sum, chosen, rfl⟩ := List.mem_map.mp mem
    have held := Source.nested_of_mem_ofKinds nested (List.mem_of_mem_filter chosen)
    exact Draft.placed_of_site held query rfl rfl rfl
  · obtain ⟨call, listed, found⟩ := List.mem_filterMap.mp mem
    exact placed_of_evaluation? (Source.nested_of_mem_ofKinds nested listed) evaluation found
  · obtain ⟨call, listed, found⟩ := List.mem_filterMap.mp mem
    exact placed_of_random? (Source.nested_of_mem_ofKinds nested listed) random found

end Injection

/-! ## Numbers, remarks and bodies -/

namespace MagicNumber

variable {source : Source} {kinds : List Kind}

theorem placed_of_examine {literal : Site} {draft : Draft} (nested : literal.tree.Nested)
    (kind : Kind.magicNumber ∈ kinds) (examined : examine source literal = .ok (some draft)) :
    draft.Placed source kinds := by
  rw [examine] at examined
  split at examined
  · exact absurd (Except.ok.inj examined).symm (Option.some_ne_none draft)
  · split at examined
    · obtain rfl := Option.some.inj (Except.ok.inj examined)
      exact Draft.placed_of_site nested kind rfl rfl rfl
    · contradiction

theorem placed_of_mem_check {drafts : List Draft} (nested : source.tree.Nested)
    (kind : Kind.magicNumber ∈ kinds) (checked : check source = .ok drafts) :
    ∀ draft ∈ drafts, draft.Placed source kinds := by
  intro draft mem
  obtain ⟨literal, listed, examined⟩ := exists_literal_of_check checked mem
  exact placed_of_examine (Source.nested_of_mem_ofKinds nested listed) kind examined

end MagicNumber

namespace Remark

variable {source : Source} {kinds : List Kind}

theorem placed_of_mem_reminders {draft : Draft} (kind : Kind.todoWithoutContext ∈ kinds)
    (mem : draft ∈ reminders source) : draft.Placed source kinds := by
  rw [reminders, mem_filterMap_mapIdx] at mem
  obtain ⟨number, line, line_eq, found⟩ := mem
  obtain ⟨number_lt, -⟩ := List.getElem?_eq_some_iff.mp line_eq
  rw [reminder?] at found
  split at found
  · contradiction
  · split at found
    · contradiction
    · obtain rfl := Option.some.inj found
      exact Draft.placed_of_line number_lt kind rfl rfl Draft.forall_columns_of_none

theorem placed_of_mem_commentedCode {draft : Draft} (kind : Kind.commentedOutCode ∈ kinds)
    (mem : draft ∈ commentedCode source) : draft.Placed source kinds := by
  obtain ⟨run, chosen, rfl⟩ := List.mem_map.mp mem
  have bounds := bounds_of_mem_runsFrom (List.mem_of_mem_filter chosen)
  refine ⟨kind, bounds.1, ?_, ?_, Draft.forall_columns_of_none⟩
  · simp only [runDraft, blockDraft, Run.stop]
    omega
  · simp only [runDraft, blockDraft, Run.stop]
    omega

theorem placed_of_mem_check {draft : Draft} (reminder : Kind.todoWithoutContext ∈ kinds)
    (commented : Kind.commentedOutCode ∈ kinds) (mem : draft ∈ check source) :
    draft.Placed source kinds := by
  rcases List.mem_append.mp mem with mem | mem
  · exact placed_of_mem_reminders reminder mem
  · exact placed_of_mem_commentedCode commented mem

end Remark

namespace Body

variable {source : Source} {kinds : List Kind} {function : Site} {draft : Draft}

theorem placed_of_mem_placeholders (nested : function.tree.Nested)
    (kind : Kind.placeholderImplementation ∈ kinds)
    (mem : draft ∈ placeholders source function) : draft.Placed source kinds := by
  rw [placeholders] at mem
  split at mem
  · exact absurd mem List.not_mem_nil
  · dsimp only at mem
    split at mem
    · obtain rfl := List.mem_singleton.mp mem
      exact Draft.placed_of_site nested kind rfl rfl rfl
    · rcases List.mem_append.mp mem with mem | mem
      · split at mem
        · obtain rfl := List.mem_singleton.mp mem
          exact Draft.placed_of_site nested kind rfl rfl rfl
        · exact absurd mem List.not_mem_nil
      · split at mem
        · obtain rfl := List.mem_singleton.mp mem
          exact Draft.placed_of_site nested kind rfl rfl rfl
        · exact absurd mem List.not_mem_nil

theorem placed_of_mem_check (nested : source.tree.Nested)
    (complex : Kind.overlyComplexFunction ∈ kinds)
    (placeholder : Kind.placeholderImplementation ∈ kinds) (mem : draft ∈ check source) :
    draft.Placed source kinds := by
  rcases List.mem_append.mp mem with mem | mem
  · obtain ⟨function, chosen, rfl⟩ := List.mem_map.mp mem
    have held := Source.nested_of_mem_ofKinds nested (List.mem_of_mem_filter chosen)
    exact Draft.placed_of_site held complex rfl rfl rfl
  · obtain ⟨function, listed, mem⟩ := List.mem_flatMap.mp mem
    exact placed_of_mem_placeholders (Source.nested_of_mem_ofKinds nested listed) placeholder mem

end Body

/-! ## Detectors -/

namespace Detector

/-- A detector whose check places its findings makes well-formed records. -/
theorem wellFormed_of_placed {id : String} {kinds : List Kind} {stamps : Nat → Stamp}
    {check : Vocabulary → Source → Except Failure (List Draft)} {vocabulary : Vocabulary}
    {source : Source} {records : List Record}
    (placed : ∀ drafts, check vocabulary source = .ok drafts →
      ∀ draft ∈ drafts, draft.Placed source kinds)
    (examined : (ofCheck id kinds stamps check).examine vocabulary (.ok source) = .ok records) :
    ∀ record ∈ records, record.WellFormed (ofCheck id kinds stamps check) source := by
  obtain ⟨drafts, checked, rfl⟩ := exists_draft_of_examine examined
  intro record mem
  obtain ⟨index, index_lt, rfl⟩ := List.mem_mapIdx.mp mem
  have draft_placed := placed drafts checked _ (List.getElem_mem index_lt)
  exact Draft.Placed.wellFormed_toRecord (ofCheck id kinds stamps check) draft_placed _

/-- Every record of a built-in detector about a source with a nested tree is well formed. -/
theorem standard_wellFormed {stamps : Nat → Stamp} {vocabulary : Vocabulary} {source : Source}
    {detector : Detector} {records : List Record} (nested : source.tree.Nested)
    (builtin : detector ∈ standard stamps)
    (examined : detector.examine vocabulary (.ok source) = .ok records) :
    ∀ record ∈ records, record.WellFormed detector source := by
  simp only [standard, List.mem_cons, List.not_mem_nil, or_false] at builtin
  rcases builtin with rfl | rfl | rfl | rfl
  · exact wellFormed_of_placed (fun _ checked => Naming.placed_of_check nested checked) examined
  · exact wellFormed_of_placed (fun _ checked => ErrorHandling.placed_of_check nested checked)
      examined
  · refine wellFormed_of_placed (fun drafts checked draft mem => ?_) examined
    obtain rfl := eq_append_of_securityCheck checked
    rcases List.mem_append.mp mem with mem | mem
    · exact Secret.placed_of_mem_check nested (by decide) mem
    · exact Injection.placed_of_mem_check nested (by decide) (by decide) (by decide) mem
  · refine wellFormed_of_placed (fun drafts checked draft mem => ?_) examined
    obtain ⟨numbers, found, rfl⟩ := exists_numbers_of_qualityCheck checked
    rcases List.mem_append.mp mem with mem | mem
    · rcases List.mem_append.mp mem with mem | mem
      · exact MagicNumber.placed_of_mem_check nested (by decide) found draft mem
      · exact Remark.placed_of_mem_check (by decide) (by decide) mem
    · exact Body.placed_of_mem_check nested (by decide) (by decide) mem

/-- A declaration whose value stands on the two lines after the name. -/
def wrappedDeclaration : Source where
  path := "src/a.jsx"
  grammar := .javascript
  text := "const data =\n  one +\n  two;\n".toList
  tree :=
    .node ⟨0, "program", "", true, ⟨0, 28⟩⟩
      [.node ⟨1, "lexical_declaration", "", true, ⟨0, 27⟩⟩
        [.node ⟨2, "const", "kind", false, ⟨0, 5⟩⟩ [],
          .node ⟨3, "variable_declarator", "", true, ⟨6, 26⟩⟩
            [.node ⟨4, "identifier", "name", true, ⟨6, 10⟩⟩ [],
              .node ⟨5, "=", "", false, ⟨11, 12⟩⟩ [],
              .node ⟨6, "binary_expression", "value", true, ⟨15, 26⟩⟩
                [.node ⟨7, "identifier", "left", true, ⟨15, 18⟩⟩ [],
                  .node ⟨8, "+", "operator", false, ⟨19, 20⟩⟩ [],
                  .node ⟨9, "identifier", "right", true, ⟨23, 26⟩⟩ []]],
          .node ⟨10, ";", "", false, ⟨26, 27⟩⟩ []]]

/-- The vocabulary with one name that says nothing. -/
def oneName : Vocabulary := ⟨["data".toList], [], [], [], [], []⟩

/-- The same mark for all findings. -/
def fixedStamps : Nat → Stamp := fun _ => ⟨"00000000", ⟨2024, 1, 2, 3, 4, 5, 0, none⟩⟩

/-- The one record about the wrapped declaration is well formed. -/
theorem standard_wellFormed_wrapped :
    wrappedDeclaration.tree.Nested ∧
      ∃ record, (naming fixedStamps).examine oneName (.ok wrappedDeclaration) = .ok [record] ∧
        record.location = ⟨"src/a.jsx", 1, 3, some 7, some 11⟩ ∧
        record.WellFormed (naming fixedStamps) wrappedDeclaration := by
  have nested : wrappedDeclaration.tree.Nested := by
    simp [wrappedDeclaration, Tree.Nested.node_iff, Span.inside_iff, Tree.span, Tree.label]
  have examined : (naming fixedStamps).examine oneName (.ok wrappedDeclaration) =
      .ok [(Naming.variableDraft wrappedDeclaration
        ((Binding.collect wrappedDeclaration).head (by decide +kernel))).toRecord "naming"
          "src/a.jsx" (fixedStamps 0)] := by decide +kernel
  exact ⟨nested, _, examined, by decide +kernel,
    standard_wellFormed nested List.mem_cons_self examined _ List.mem_cons_self⟩

end Detector

end Hazard
