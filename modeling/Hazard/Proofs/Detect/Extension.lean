import Hazard.Proofs.Detect.Regions
import Mathlib.Data.List.Basic
import Mathlib.Data.List.Forall2
import Mathlib.Data.List.Range
import Mathlib.Order.Basic

/-!
# Extending the vocabulary

More generic names and messages give more findings, more names that are fine give fewer, and patterns of
secrets after the others give more lines without moving what was found on a line.  Nothing else changes.
Two examinations mark their records differently, so records are compared without their marks.
-/

namespace Hazard

/-- The record without what marks it: its id and its time. -/
def Record.unmarked (record : Record) : Record :=
  { record with id := "", detectedAt := ⟨1, 1, 1, 0, 0, 0, 0, none⟩ }

/-- What a record of the draft tells. -/
def Draft.told (id path : String) (draft : Draft) : Record :=
  (draft.toRecord id path ⟨"", ⟨1, 1, 1, 0, 0, 0, 0, none⟩⟩).unmarked

/-- What the records of one kind tell, in order; a detector that fails tells nothing. -/
def Detector.told (detector : Detector) (vocabulary : Vocabulary) (source : Source) (kind : Kind) :
    List Record :=
  (((detector.examine vocabulary (.ok source)).toOption.getD []).filter (·.kind == kind)).map
    Record.unmarked

/-- The record tells columns. -/
def Record.hasColumns (record : Record) : Bool := record.location.startColumn.isSome

/-- The regions of the records that tell columns. -/
def regions (records : List Record) : List Location :=
  (records.filter Record.hasColumns).map (·.location)

/-- The extensions have the same words and patterns where findings of the kind depend on them. -/
def Extensions.AgreeOn (first second : Extensions) : Kind → Prop
  | .genericVariableName =>
    first.genericNames = second.genericNames ∧ first.loopNames = second.loopNames ∧
      first.coordinateNames = second.coordinateNames
  | .genericErrorMessage => first.errorMessages = second.errorMessages
  | .hardcodedSecret => first.secretPatterns = second.secretPatterns
  | _ => True

/-! ## Vocabularies -/

namespace Vocabulary

theorem mem_distinct {text : List Char} {texts : List (List Char)} :
    text ∈ distinct texts ↔ text ∈ texts := by
  have step (kept texts : List (List Char)) :
      text ∈ texts.foldl (fun kept text => if kept.contains text then kept else kept ++ [text]) kept ↔
        text ∈ kept ∨ text ∈ texts := by
    induction texts generalizing kept with
    | nil => simp
    | cons first texts ih =>
        rw [List.foldl_cons, ih, List.mem_cons]
        split
        · rename_i present
          have known : first ∈ kept := by simpa using present
          constructor
          · rintro (old | later)
            · exact .inl old
            · exact .inr (.inr later)
          · rintro (old | rfl | later)
            · exact .inl old
            · exact .inl known
            · exact .inr later
        · simp [or_assoc]
  rw [distinct, step, or_iff_right List.not_mem_nil]

/-- More words to begin with, more words in the list. -/
theorem distinct_map_subset {read : String → List Char} (builtin : List String)
    {few many : List String} (included : few ⊆ many) :
    distinct ((builtin ++ few).map read) ⊆ distinct ((builtin ++ many).map read) := by
  intro text member
  rw [mem_distinct] at member ⊢
  have wider : builtin ++ few ⊆ builtin ++ many := List.append_subset.mpr
    ⟨List.subset_append_left builtin many,
      List.Subset.trans included (List.subset_append_right builtin many)⟩
  exact List.map_subset read wider member

/-- The pattern that a text writes, if it can be read. -/
def readable? (pattern : String) : Option SecretPattern :=
  (Regex.parse { ignoreCase := true } pattern).toOption.map (⟨pattern, ·⟩)

/-- Each pattern is read by itself. -/
theorem eq_filterMap_of_readPatterns {patterns : List String} {known : List SecretPattern}
    {rejected : List String} (read : readPatterns readPattern patterns = .ok (known, rejected)) :
    known = patterns.filterMap readable? := by
  induction patterns generalizing known rejected with
  | nil =>
      obtain ⟨rfl, -⟩ := Prod.mk.inj (Except.ok.inj read)
      rfl
  | cons pattern patterns ih =>
      rw [readPatterns] at read
      have parse_eq : Regex.parse { ignoreCase := true } pattern = readPattern pattern := rfl
      rw [List.filterMap_cons, readable?, parse_eq]
      cases parsed : readPattern pattern with
      | ok regex =>
          rw [parsed] at read
          cases rest : readPatterns readPattern patterns with
          | error fault =>
              rw [rest] at read
              contradiction
          | ok pair =>
              rw [rest] at read
              obtain ⟨rfl, -⟩ := Prod.mk.inj (Except.ok.inj read)
              exact congrArg _ (ih rest)
      | error fault =>
          rw [parsed] at read
          dsimp only at read
          split at read
          · cases rest : readPatterns readPattern patterns with
            | error fault =>
                rw [rest] at read
                contradiction
            | ok pair =>
                rw [rest] at read
                obtain ⟨rfl, -⟩ := Prod.mk.inj (Except.ok.inj read)
                exact ih rest
          · contradiction

/-- What extensions make of the built-in vocabulary. -/
structure Extends (extensions : Extensions) (vocabulary : Vocabulary) : Prop where
  genericNames : vocabulary.genericNames =
    distinct ((builtinGenericNames ++ extensions.genericNames).map fun name => Text.lower name.toList)
  loopNames : vocabulary.loopNames =
    distinct ((builtinLoopNames ++ extensions.loopNames).map String.toList)
  coordinateNames : vocabulary.coordinateNames =
    distinct ((builtinCoordinateNames ++ extensions.coordinateNames).map String.toList)
  errorMessages : vocabulary.errorMessages =
    distinct ((builtinErrorMessages ++ extensions.errorMessages).map fun m => Text.lower m.toList)
  secretPatterns : vocabulary.secretPatterns =
    SecretPattern.builtin ++ extensions.secretPatterns.filterMap readable?

theorem extends_of_extend {extensions : Extensions} {vocabulary : Vocabulary}
    (extended : extend extensions = .ok vocabulary) : Extends extensions vocabulary := by
  unfold extend at extended
  cases read : readPatterns readPattern extensions.secretPatterns with
  | error fault =>
      rw [read] at extended
      contradiction
  | ok pair =>
      rw [read] at extended
      obtain ⟨patterns, rejected⟩ := pair
      simp only [bind, Except.bind, pure, Except.pure] at extended
      obtain rfl := Except.ok.inj extended
      have readable := eq_filterMap_of_readPatterns read
      constructor
      all_goals dsimp only
      rw [readable]

end Vocabulary

/-! ## Names and messages -/

section

variable {source : Source} {v w : Vocabulary}

theorem Naming.kind_of_mem_genericNames {bindings : List Binding} {draft : Draft}
    (mem : draft ∈ genericNames source v bindings) : draft.kind = .genericVariableName := by
  obtain ⟨binding, -, rfl⟩ := List.mem_map.mp mem
  split <;> rfl

theorem Naming.genericNames_sublist (generic : v.genericNames ⊆ w.genericNames)
    (loops : w.loopNames ⊆ v.loopNames) (coordinates : w.coordinateNames ⊆ v.coordinateNames)
    (bindings : List Binding) :
    (genericNames source v bindings).Sublist (genericNames source w bindings) := by
  refine List.Sublist.map _ (List.monotone_filter_right bindings ?_)
  intro binding
  simp only [Bool.and_eq_true, Bool.not_eq_true', Bool.eq_false_iff, ne_eq]
  rintro ⟨named, rejected⟩
  refine ⟨?_, fun accepted => rejected ?_⟩
  · simp only [isGeneric, Bool.or_eq_true, Bool.and_eq_true, Bool.not_eq_true', Bool.eq_false_iff,
      ne_eq, List.contains_iff_mem] at named ⊢
    rcases named with listed | ⟨⟨single, noLoop⟩, noCoordinate⟩
    · exact .inl (generic listed)
    · exact .inr ⟨⟨single, fun loop => noLoop (loops loop)⟩,
        fun coordinate => noCoordinate (coordinates coordinate)⟩
  · simp only [isAcceptable, Bool.or_eq_true, Bool.and_eq_true, List.contains_iff_mem] at accepted ⊢
    rcases accepted with ((((header | ⟨loop, inside⟩) | coordinate) | caught) | element) | callback
    · exact .inl (.inl (.inl (.inl (.inl header))))
    · exact .inl (.inl (.inl (.inl (.inr ⟨loops loop, inside⟩))))
    · exact .inl (.inl (.inl (.inr (coordinates coordinate))))
    · exact .inl (.inl (.inr caught))
    · exact .inl (.inr element)
    · exact .inr callback

theorem ErrorHandling.messages_sublist (included : v.errorMessages ⊆ w.errorMessages) :
    (messages source v).Sublist (messages source w) := by
  refine List.Sublist.map _ (List.monotone_filter_right _ ?_)
  intro literal
  simp only [Bool.and_eq_true, isGenericMessage, List.any_eq_true]
  rintro ⟨⟨message, listed, fits⟩, context⟩
  exact ⟨⟨message, included listed, fits⟩, context⟩

end

/-! ## Lines with secrets -/

namespace Secret

/-- Patterns after the others do not change what is found first on a line. -/
theorem inLine?_append {line : List Char} {patterns : List Regex} {found : Regex.Match}
    (searched : inLine? line patterns = some found) (later : List Regex) :
    inLine? line (patterns ++ later) = some found := by
  rw [inLine?] at searched ⊢
  split
  · rename_i refers
    rw [if_pos refers] at searched
    contradiction
  · rename_i plain
    rw [if_neg plain] at searched
    rw [List.findSome?_append, searched, Option.some_or]

/-- Where the finding about a line is. -/
def lineRegion? (path : String) (patterns : List Regex) (line : List Char × Nat) : Option Location :=
  (inLine? line.1 patterns).map fun found =>
    ⟨path, line.2 + 1, line.2 + 1, some (found.start + 1 : Nat), some (found.stop + 1 : Nat)⟩

theorem map_location_inLines (source : Source) (id path : String) (patterns : List Regex) :
    ((inLines source patterns).map fun draft => (draft.told id path).location) =
      source.lines.zipIdx.filterMap (lineRegion? path patterns) := by
  rw [inLines, List.mapIdx_eq_zipIdx_map, List.filterMap_map, List.map_filterMap]
  refine List.filterMap_congr fun line _ => ?_
  simp only [Function.comp_apply, id_eq, Option.map_map, lineRegion?]
  rfl

theorem filterMap_sublist {α β : Type} {f g : α → Option β} {items : List α}
    (kept : ∀ item result, f item = some result → g item = some result) :
    (items.filterMap f).Sublist (items.filterMap g) := by
  induction items with
  | nil => exact .slnil
  | cons item items ih =>
      rw [List.filterMap_cons, List.filterMap_cons]
      cases first : f item with
      | some result =>
          rw [kept item result first]
          exact ih.cons_cons result
      | none =>
          cases g item with
          | none => exact ih
          | some result => exact ih.cons result

theorem lineRegions_sublist (lines : List (List Char × Nat)) (path : String)
    {patterns all : List Regex} (extended : patterns <+: all) :
    (lines.filterMap (lineRegion? path patterns)).Sublist
      (lines.filterMap (lineRegion? path all)) := by
  obtain ⟨later, rfl⟩ := extended
  refine filterMap_sublist fun line region found => ?_
  obtain ⟨fit, searched, rfl⟩ := Option.map_eq_some_iff.mp found
  rw [lineRegion?, inLine?_append searched later]
  rfl

/-- A line has at most one finding, and findings follow the lines. -/
theorem lineRegions_pairwise (lines : List (List Char)) (path : String) (patterns : List Regex) :
    (lines.zipIdx.filterMap (lineRegion? path patterns)).Pairwise
      fun first second => first.startLine < second.startLine := by
  have numbered : lines.zipIdx.Pairwise fun first second => first.2 < second.2 := by
    rw [← List.pairwise_map, List.zipIdx_map_snd]
    exact List.pairwise_lt_range'
  refine numbered.filterMap _ fun first second less a found b found' => ?_
  obtain ⟨_, -, rfl⟩ := Option.map_eq_some_iff.mp found
  obtain ⟨_, -, rfl⟩ := Option.map_eq_some_iff.mp found'
  exact Nat.succ_lt_succ less

variable {source : Source} {draft : Draft}

theorem columns_isSome_of_mem_inLines {patterns : List Regex} (mem : draft ∈ inLines source patterns) :
    draft.columns.isSome = true := by
  obtain ⟨_, _, -, _, -, rfl⟩ := mem_inLines_iff.mp mem
  rfl

theorem columns_eq_none_of_mem_inLiteral {literal : Site} (mem : draft ∈ inLiteral source literal) :
    draft.columns = none := by
  grind [inLiteral, tokenDraft, accountKeyDraft]

theorem kind_of_mem_check {vocabulary : Vocabulary} (mem : draft ∈ check vocabulary source) :
    draft.kind = .hardcodedSecret := by
  rw [check] at mem
  split at mem
  · exact absurd mem List.not_mem_nil
  · rcases List.mem_append.mp mem with mem | mem
    · obtain ⟨_, _, -, _, -, rfl⟩ := mem_inLines_iff.mp mem
      rfl
    · obtain ⟨literal, -, mem⟩ := List.mem_flatMap.mp mem
      grind [inLiteral, tokenDraft, accountKeyDraft]

end Secret

/-! ## Records of one kind -/

/-- The drafts of one kind. -/
def ofKind (kind : Kind) (drafts : List Draft) : List Draft := drafts.filter (·.kind == kind)

theorem ofKind_append (kind : Kind) (first second : List Draft) :
    ofKind kind (first ++ second) = ofKind kind first ++ ofKind kind second :=
  List.filter_append ..

theorem ofKind_eq_nil_of_ne {kind : Kind} {drafts : List Draft}
    (others : ∀ draft ∈ drafts, draft.kind ≠ kind) : ofKind kind drafts = [] := by
  rw [ofKind, List.filter_eq_nil_iff]
  intro draft mem
  rw [beq_iff_eq]
  exact others draft mem

theorem ofKind_eq_self {kind : Kind} {drafts : List Draft}
    (all : ∀ draft ∈ drafts, draft.kind = kind) : ofKind kind drafts = drafts := by
  rw [ofKind, List.filter_eq_self]
  intro draft mem
  rw [beq_iff_eq]
  exact all draft mem

theorem ofKind_eq_nil {kind other : Kind} {drafts : List Draft} (differs : kind ≠ other)
    (all : ∀ draft ∈ drafts, draft.kind = other) : ofKind kind drafts = [] :=
  ofKind_eq_nil_of_ne fun draft mem => all draft mem ▸ differs.symm

namespace Detector

/-- The records are the drafts, each with a mark. -/
theorem forall₂_marked (id path : String) (stamps : Nat → Stamp) (drafts : List Draft) :
    List.Forall₂ (fun record draft => ∃ stamp, record = draft.toRecord id path stamp)
      (stampAll id path stamps drafts) drafts := by
  induction drafts generalizing stamps with
  | nil => exact .nil
  | cons draft drafts ih =>
      have rest := ih fun index => stamps (index + 1)
      rw [stampAll] at rest ⊢
      rw [List.mapIdx_cons]
      exact .cons ⟨stamps 0, rfl⟩ rest

/-- The records with some property are the drafts that have it, whatever their marks. -/
theorem forall₂_filter {id path : String} {records : List Record} {drafts : List Draft}
    {keep : Record → Bool} {keep' : Draft → Bool}
    (marked : List.Forall₂ (fun record draft => ∃ stamp, record = draft.toRecord id path stamp)
      records drafts)
    (same : ∀ draft stamp, keep (draft.toRecord id path stamp) = keep' draft) :
    List.Forall₂ (fun record draft => ∃ stamp, record = draft.toRecord id path stamp)
      (records.filter keep) (drafts.filter keep') := by
  refine List.rel_filter ?_ marked
  rintro record draft ⟨stamp, rfl⟩
  exact Bool.eq_iff_iff.mp (same draft stamp)

/-- What does not depend on the marks is the same of the records and of the drafts. -/
theorem map_eq_of_forall₂ {α : Type} {id path : String} {records : List Record}
    {drafts : List Draft} {view : Record → α} {view' : Draft → α}
    (marked : List.Forall₂ (fun record draft => ∃ stamp, record = draft.toRecord id path stamp)
      records drafts)
    (same : ∀ draft stamp, view (draft.toRecord id path stamp) = view' draft) :
    records.map view = drafts.map view' := by
  rw [← List.forall₂_eq_eq_eq, List.forall₂_map_left_iff, List.forall₂_map_right_iff]
  refine marked.imp ?_
  rintro record draft ⟨stamp, rfl⟩
  exact same draft stamp

/-- The records of one kind are the drafts of that kind, each with a mark. -/
theorem forall₂_stampAll (id path : String) (stamps : Nat → Stamp) (kind : Kind)
    (drafts : List Draft) :
    List.Forall₂ (fun record draft => ∃ stamp, record = draft.toRecord id path stamp)
      ((stampAll id path stamps drafts).filter (·.kind == kind)) (ofKind kind drafts) :=
  forall₂_filter (forall₂_marked id path stamps drafts) fun _ _ => rfl

theorem unmarked_stampAll (id path : String) (stamps : Nat → Stamp) (kind : Kind)
    (drafts : List Draft) :
    ((stampAll id path stamps drafts).filter (·.kind == kind)).map Record.unmarked =
      (ofKind kind drafts).map (Draft.told id path) :=
  map_eq_of_forall₂ (forall₂_stampAll id path stamps kind drafts) fun _ _ => rfl

theorem forall₂_of_examine {id : String} {kinds : List Kind} {stamps : Nat → Stamp}
    {check : Vocabulary → Source → Except Failure (List Draft)} {vocabulary : Vocabulary}
    {source : Source} {records : List Record} (kind : Kind)
    (examined : (ofCheck id kinds stamps check).examine vocabulary (.ok source) = .ok records) :
    ∃ drafts, check vocabulary source = .ok drafts ∧
      List.Forall₂ (fun record draft => ∃ stamp, record = draft.toRecord id source.path stamp)
        (records.filter (·.kind == kind)) (ofKind kind drafts) := by
  obtain ⟨drafts, checked, rfl⟩ := exists_draft_of_examine examined
  exact ⟨drafts, checked, forall₂_stampAll id source.path stamps kind drafts⟩

/-- What is said of the record of a draft, whatever its mark, is said of the records. -/
theorem forall₂_records {α : Type} {id path : String} {tells : Record → α → Prop}
    {records : List Record} {drafts : List Draft} {items : List α}
    (marked : List.Forall₂ (fun record draft => ∃ stamp, record = draft.toRecord id path stamp)
      records drafts)
    (told : List.Forall₂ (fun draft item => ∀ id stamp, tells (draft.toRecord id path stamp) item)
      drafts items) :
    List.Forall₂ tells records items := by
  induction marked generalizing items with
  | nil =>
      cases told
      exact .nil
  | cons first _ ih =>
      obtain ⟨stamp, rfl⟩ := first
      cases told with
      | cons head rest => exact .cons (head id stamp) (ih rest)

/-- What a detector tells comes from the drafts of its check. -/
theorem told_ofCheck {check : Vocabulary → Source → Except Failure (List Draft)}
    (recordable : Recordable check) (id : String) (kinds : List Kind) (stamps : Nat → Stamp)
    (vocabulary : Vocabulary) (source : Source) (kind : Kind) :
    (ofCheck id kinds stamps check).told vocabulary source kind =
      (ofKind kind ((check vocabulary source).toOption.getD [])).map
        (Draft.told id source.path) := by
  rw [told, examine_ofCheck recordable]
  cases check vocabulary source with
  | error failure => rfl
  | ok drafts => exact unmarked_stampAll id source.path stamps kind drafts

end Detector

/-! ## The built-in detectors -/

namespace Secret

variable {source : Source}

theorem kind_ne_of_mem_injection {draft : Draft} (mem : draft ∈ Injection.check source) :
    draft.kind ≠ .hardcodedSecret := by
  simp only [Injection.check, List.mem_append] at mem
  rcases mem with ((mem | mem) | mem) | mem
  · grind [Injection.templates, Injection.templateDraft]
  · grind [Injection.sums, Injection.sumDraft]
  · grind [Injection.evaluations, Injection.evaluation?, Injection.evaluationDraft,
      Injection.constructorDraft, Injection.timerDraft]
  · grind [Injection.randomNumbers, Injection.random?, Injection.randomDraft]

theorem ofKind_check (vocabulary : Vocabulary) (source : Source) :
    ofKind .hardcodedSecret (check vocabulary source ++ Injection.check source) =
      check vocabulary source := by
  rw [ofKind_append, ofKind_eq_self fun _ => kind_of_mem_check,
    ofKind_eq_nil_of_ne fun _ => kind_ne_of_mem_injection, List.append_nil]

/-- Of the findings of the security detector, those with columns are the ones about lines. -/
theorem filter_columns_ofKind (vocabulary : Vocabulary) (source : Source) :
    (ofKind .hardcodedSecret (check vocabulary source ++ Injection.check source)).filter
        (·.columns.isSome) =
      if isExempt source.path then []
      else inLines source (vocabulary.secretPatterns.map (·.regex)) := by
  have literals : ((source.ofKinds ["string"]).flatMap (inLiteral source)).filter
      (·.columns.isSome) = [] := by
    rw [List.filter_eq_nil_iff]
    intro draft mem
    obtain ⟨literal, -, mem⟩ := List.mem_flatMap.mp mem
    simp [columns_eq_none_of_mem_inLiteral mem]
  rw [ofKind_check, check]
  split
  · rfl
  · rw [List.filter_append, literals, List.append_nil, List.filter_eq_self]
    exact fun _ => columns_isSome_of_mem_inLines

/-- Those without columns are the ones about literals. -/
theorem filter_literals_ofKind (vocabulary : Vocabulary) (source : Source) :
    (ofKind .hardcodedSecret (check vocabulary source ++ Injection.check source)).filter
        (fun draft => !draft.columns.isSome) =
      if isExempt source.path then []
      else (source.ofKinds ["string"]).flatMap (inLiteral source) := by
  have lines : (inLines source (vocabulary.secretPatterns.map (·.regex))).filter
      (fun draft => !draft.columns.isSome) = [] := by
    rw [List.filter_eq_nil_iff]
    intro draft mem
    simp [columns_isSome_of_mem_inLines mem]
  rw [ofKind_check, check]
  split
  · rfl
  · rw [List.filter_append, lines, List.nil_append, List.filter_eq_self]
    intro draft mem
    obtain ⟨literal, -, mem⟩ := List.mem_flatMap.mp mem
    simp [columns_eq_none_of_mem_inLiteral mem]

/-- The findings without columns do not depend on the vocabulary. -/
theorem filter_no_columns_ofKind (v w : Vocabulary) (source : Source) :
    (ofKind .hardcodedSecret (check v source ++ Injection.check source)).filter
        (fun draft => !draft.columns.isSome) =
      (ofKind .hardcodedSecret (check w source ++ Injection.check source)).filter
        fun draft => !draft.columns.isSome :=
  (filter_literals_ofKind v source).trans (filter_literals_ofKind w source).symm

end Secret

namespace Detector

variable {source : Source} {v w : Vocabulary}

theorem hasColumns_told (id path : String) (draft : Draft) :
    (draft.told id path).hasColumns = draft.columns.isSome := by
  rw [Record.hasColumns, Draft.told, Record.unmarked, Draft.toRecord]
  cases draft.columns <;> rfl

theorem told_security (stamps : Nat → Stamp) (vocabulary : Vocabulary) (source : Source)
    (kind : Kind) :
    (security stamps).told vocabulary source kind =
      (ofKind kind (Secret.check vocabulary source ++ Injection.check source)).map
        (Draft.told "security" source.path) := by
  rw [security, told_ofCheck recordable_securityCheck, securityCheck_eq_ok]
  rfl

theorem told_errorHandling (stamps : Nat → Stamp) (vocabulary : Vocabulary) (source : Source)
    (kind : Kind) :
    (errorHandling stamps).told vocabulary source kind =
      (ofKind kind (ErrorHandling.findings vocabulary source)).map
        (Draft.told "error_handling" source.path) := by
  rw [errorHandling, told_ofCheck ErrorHandling.recordable_check, ErrorHandling.check_eq_ok]
  rfl

/-- What is told about names, which is nothing if a pattern is too deep. -/
theorem told_naming (stamps : Nat → Stamp) (vocabulary : Vocabulary) (source : Source)
    (kind : Kind) :
    (naming stamps).told vocabulary source kind =
      if Binding.callsFor source ≤ Binding.usualRoom then
        (ofKind kind (Naming.findings vocabulary source (Binding.collect source))).map
          (Draft.told "naming" source.path)
      else [] := by
  rw [naming, told_ofCheck (Naming.recordable_check _), Naming.check_eq, Binding.collectWithin_eq,
    Binding.map_within, Binding.within]
  split <;> rfl

theorem regions_security (stamps : Nat → Stamp) (vocabulary : Vocabulary) (source : Source) :
    regions ((security stamps).told vocabulary source .hardcodedSecret) =
      if Secret.isExempt source.path then []
      else source.lines.zipIdx.filterMap (Secret.lineRegion? source.path
        (vocabulary.secretPatterns.map (·.regex))) := by
  rw [regions, told_security, List.filter_map, List.map_map]
  simp only [Function.comp_def, hasColumns_told, Secret.filter_columns_ofKind]
  split
  · rfl
  · exact Secret.map_location_inLines source "security" source.path _

theorem told_naming_sublist (stamps stamps' : Nat → Stamp) (kind : Kind)
    (generic : v.genericNames ⊆ w.genericNames) (loops : w.loopNames ⊆ v.loopNames)
    (coordinates : w.coordinateNames ⊆ v.coordinateNames) :
    ((naming stamps).told v source kind).Sublist ((naming stamps').told w source kind) := by
  rw [told_naming, told_naming]
  split
  · exact (((Naming.genericNames_sublist generic loops coordinates _).append
      (List.Sublist.refl _)).filter _).map _
  · exact List.Sublist.refl _

theorem told_errorHandling_sublist (stamps stamps' : Nat → Stamp) (kind : Kind)
    (included : v.errorMessages ⊆ w.errorMessages) :
    ((errorHandling stamps).told v source kind).Sublist
      ((errorHandling stamps').told w source kind) := by
  rw [told_errorHandling, told_errorHandling]
  exact (((List.Sublist.refl _).append (ErrorHandling.messages_sublist included)).filter _).map _

/-- What the detector finds in numbers stands before its other findings. -/
theorem exists_numbers_of_codeQuality {drafts : List Draft}
    (checked : qualityCheck source = .ok drafts) :
    ∃ numbers, (∀ draft ∈ numbers, draft.kind = .magicNumber) ∧
      drafts = numbers ++ Remark.check source ++ Body.check source := by
  obtain ⟨numbers, found, rfl⟩ := exists_numbers_of_qualityCheck checked
  refine ⟨numbers, fun draft mem => ?_, rfl⟩
  obtain ⟨literal, -, examined⟩ := MagicNumber.exists_literal_of_check found mem
  grind [MagicNumber.examine, MagicNumber.draft]

theorem told_codeQuality_eq (stamps stamps' : Nat → Stamp) (kind : Kind) :
    (codeQuality stamps).told v source kind = (codeQuality stamps').told w source kind := by
  rw [codeQuality, codeQuality, told_ofCheck recordable_qualityCheck,
    told_ofCheck recordable_qualityCheck]

/-- Findings of other kinds than that of generic names do not depend on the vocabulary. -/
theorem told_naming_eq (stamps stamps' : Nat → Stamp) {kind : Kind}
    (other : kind ≠ .genericVariableName) :
    (naming stamps).told v source kind = (naming stamps').told w source kind := by
  have none_generic (vocabulary : Vocabulary) :
      ofKind kind (Naming.genericNames source vocabulary (Binding.collect source)) = [] :=
    ofKind_eq_nil other fun _ => Naming.kind_of_mem_genericNames
  rw [told_naming, told_naming, Naming.findings, Naming.findings, ofKind_append, ofKind_append,
    none_generic, none_generic]

theorem told_errorHandling_eq (stamps stamps' : Nat → Stamp) {kind : Kind}
    (other : kind ≠ .genericErrorMessage) :
    (errorHandling stamps).told v source kind = (errorHandling stamps').told w source kind := by
  have none_generic (vocabulary : Vocabulary) :
      ofKind kind (ErrorHandling.messages source vocabulary) = [] := by
    refine ofKind_eq_nil other fun draft mem => ?_
    obtain ⟨literal, -, rfl⟩ := List.mem_map.mp mem
    rfl
  rw [told_errorHandling, told_errorHandling]
  simp only [ErrorHandling.findings, ofKind_append, none_generic]

theorem told_security_eq (stamps stamps' : Nat → Stamp) {kind : Kind}
    (other : kind ≠ .hardcodedSecret) :
    (security stamps).told v source kind = (security stamps').told w source kind := by
  have none_secret (vocabulary : Vocabulary) : ofKind kind (Secret.check vocabulary source) = [] :=
    ofKind_eq_nil other fun _ => Secret.kind_of_mem_check
  rw [told_security, told_security, ofKind_append, ofKind_append, none_secret, none_secret]

theorem told_standard_eq {few many : Extensions} (extends_v : Vocabulary.Extends few v)
    (extends_w : Vocabulary.Extends many w) (stamps stamps' : Nat → Stamp) {kind : Kind}
    (agree : few.AgreeOn many kind) :
    ((standard stamps).map fun detector => detector.told v source kind) =
      (standard stamps').map fun detector => detector.told w source kind := by
  have included {texts others : List (List Char)} (same : texts = others) : texts ⊆ others :=
    fun _ mem => same ▸ mem
  have names : (naming stamps).told v source kind = (naming stamps').told w source kind := by
    by_cases other : kind = .genericVariableName
    · subst other
      obtain ⟨generic, loops, coordinates⟩ := agree
      have sameGeneric : v.genericNames = w.genericNames := by
        rw [extends_v.genericNames, extends_w.genericNames, generic]
      have sameLoops : v.loopNames = w.loopNames := by
        rw [extends_v.loopNames, extends_w.loopNames, loops]
      have sameCoordinates : v.coordinateNames = w.coordinateNames := by
        rw [extends_v.coordinateNames, extends_w.coordinateNames, coordinates]
      exact (told_naming_sublist stamps stamps' _ (included sameGeneric)
        (included sameLoops.symm) (included sameCoordinates.symm)).antisymm
        (told_naming_sublist stamps' stamps _ (included sameGeneric.symm)
          (included sameLoops) (included sameCoordinates))
    · exact told_naming_eq stamps stamps' other
  have messages : (errorHandling stamps).told v source kind =
      (errorHandling stamps').told w source kind := by
    by_cases other : kind = .genericErrorMessage
    · subst other
      have same : v.errorMessages = w.errorMessages := by
        rw [extends_v.errorMessages, extends_w.errorMessages, show few.errorMessages = _ from agree]
      exact (told_errorHandling_sublist stamps stamps' _ (included same)).antisymm
        (told_errorHandling_sublist stamps' stamps _ (included same.symm))
    · exact told_errorHandling_eq stamps stamps' other
  have secrets : (security stamps).told v source kind = (security stamps').told w source kind := by
    by_cases other : kind = .hardcodedSecret
    · subst other
      have same : v.secretPatterns = w.secretPatterns := by
        rw [extends_v.secretPatterns, extends_w.secretPatterns,
          show few.secretPatterns = _ from agree]
      rw [told_security, told_security, Secret.check, Secret.check, same]
    · exact told_security_eq stamps stamps' other
  simp only [standard, List.map_cons, List.map_nil, names, messages, secrets,
    told_codeQuality_eq (v := v) (w := w) stamps stamps' kind]

/-- How extensions of the vocabulary act on what the built-in detectors tell: more generic names and
fewer harmless ones, and more messages, only add findings; patterns of secrets after the others only add
lines; and findings of a kind are the same where the extensions agree on what the kind depends on. -/
theorem told_extend_mono {few many : Extensions} {v w : Vocabulary}
    (extended : Vocabulary.extend few = .ok v) (extended' : Vocabulary.extend many = .ok w)
    (stamps stamps' : Nat → Stamp) (source : Source) :
    (few.genericNames ⊆ many.genericNames → many.loopNames ⊆ few.loopNames →
        many.coordinateNames ⊆ few.coordinateNames →
        ((naming stamps).told v source .genericVariableName).Sublist
          ((naming stamps').told w source .genericVariableName)) ∧
      (few.errorMessages ⊆ many.errorMessages →
        ((errorHandling stamps).told v source .genericErrorMessage).Sublist
          ((errorHandling stamps').told w source .genericErrorMessage)) ∧
      (few.secretPatterns <+: many.secretPatterns →
        (regions ((security stamps).told v source .hardcodedSecret)).Sublist
            (regions ((security stamps').told w source .hardcodedSecret)) ∧
          (regions ((security stamps').told w source .hardcodedSecret)).Pairwise
            (fun first second => first.startLine < second.startLine) ∧
          ((security stamps).told v source .hardcodedSecret).filter (fun r => !r.hasColumns) =
            ((security stamps').told w source .hardcodedSecret).filter fun r => !r.hasColumns) ∧
      ∀ kind, few.AgreeOn many kind →
        ((standard stamps).map fun detector => detector.told v source kind) =
          (standard stamps').map fun detector => detector.told w source kind := by
  have extends_v := Vocabulary.extends_of_extend extended
  have extends_w := Vocabulary.extends_of_extend extended'
  refine ⟨fun generic loops coordinates => ?_, fun messages => ?_, fun patterns => ⟨?_, ?_, ?_⟩,
    fun kind agree => told_standard_eq extends_v extends_w stamps stamps' agree⟩
  · refine told_naming_sublist stamps stamps' _ ?_ ?_ ?_
    · rw [extends_v.genericNames, extends_w.genericNames]
      exact Vocabulary.distinct_map_subset _ generic
    · rw [extends_v.loopNames, extends_w.loopNames]
      exact Vocabulary.distinct_map_subset _ loops
    · rw [extends_v.coordinateNames, extends_w.coordinateNames]
      exact Vocabulary.distinct_map_subset _ coordinates
  · refine told_errorHandling_sublist stamps stamps' _ ?_
    rw [extends_v.errorMessages, extends_w.errorMessages]
    exact Vocabulary.distinct_map_subset _ messages
  · have regexes : v.secretPatterns.map (·.regex) <+: w.secretPatterns.map (·.regex) := by
      rw [extends_v.secretPatterns, extends_w.secretPatterns]
      exact ((List.prefix_append_right_inj _).mpr (patterns.filterMap _)).map _
    rw [regions_security, regions_security]
    split
    · exact List.Sublist.refl _
    · exact Secret.lineRegions_sublist _ _ regexes
  · rw [regions_security]
    split
    · exact List.Pairwise.nil
    · exact Secret.lineRegions_pairwise _ _ _
  · rw [told_security, told_security, List.filter_map, List.filter_map]
    simp only [Function.comp_def, hasColumns_told]
    rw [Secret.filter_no_columns_ofKind v w source]

/-- A pattern for keys that begin with `sk-`. -/
def keyExtension : Extensions := { secretPatterns := ["sk-[a-z]+"] }

/-- The vocabulary of extensions, if there is one. -/
def vocabularyOf (extensions : Extensions) : Vocabulary :=
  (Vocabulary.extend extensions).toOption.getD oneName

/-- A line that a built-in pattern finds, and one that only the pattern for keys finds. -/
def tokenThenKey : Source where
  path := "src/a.js"
  grammar := .javascript
  text := "token='a'\nsk-b".toList
  tree := .node ⟨0, "program", "", true, ⟨0, 14⟩⟩ []

/-- With the pattern for keys the second line is reported, too, and the first where it was. -/
theorem regions_tokenThenKey :
    regions ((security fixedStamps).told (vocabularyOf {}) tokenThenKey .hardcodedSecret) =
        [⟨"src/a.js", 1, 1, some 1, some 10⟩] ∧
      regions ((security fixedStamps).told (vocabularyOf keyExtension) tokenThenKey
          .hardcodedSecret) =
        [⟨"src/a.js", 1, 1, some 1, some 10⟩, ⟨"src/a.js", 2, 2, some 1, some 5⟩] ∧
      (regions ((security fixedStamps).told (vocabularyOf {}) tokenThenKey
          .hardcodedSecret)).Sublist
        (regions ((security fixedStamps).told (vocabularyOf keyExtension) tokenThenKey
          .hardcodedSecret)) := by
  have extended : Vocabulary.extend {} = .ok (vocabularyOf {}) := by
    decide +kernel
  have extended' : Vocabulary.extend keyExtension = .ok (vocabularyOf keyExtension) := by
    decide +kernel
  obtain ⟨-, -, secrets, -⟩ :=
    told_extend_mono extended extended' fixedStamps fixedStamps tokenThenKey
  exact ⟨by decide +kernel, by decide +kernel, (secrets List.nil_prefix).1⟩

end Detector

end Hazard
