import Hazard.Proofs.Detect.WellFormed

/-!
# What the regions of records denote

A record with columns is about a construct of the source: a bound name, a string literal or a fit of
a secret pattern.  Its region denotes the construct if its two ends are the places where the
construct starts and ends.  Regions of literals and of fits do.  The region of a name takes its
columns from the name and lines from the declaration around it, so it denotes the name exactly when
those lines are the name's own.
-/

namespace Hazard

/-- What a record with columns is about. -/
inductive Construct where
  | name (binding : Binding)
  | literal (site : Site)
  /-- A fit on the line with the number, counted from zero. -/
  | fit (number : Nat) (found : Regex.Match)

namespace Construct

/-- The text of the source before the construct, and the text up to its end. -/
inductive Extends (source : Source) : Construct → List Char → List Char → Prop
  | name (binding : Binding) :
      Extends source (.name binding) (Text.takeBytes binding.site.span.start source.text)
        (Text.takeBytes binding.site.span.stop source.text)
  | literal (site : Site) :
      Extends source (.literal site) (Text.takeBytes site.span.start source.text)
        (Text.takeBytes site.span.stop source.text)
  | fit {found : Regex.Match} {lead front rear rest : List Char}
      (split : source.text = lead ++ (front ++ found.text ++ rear) ++ rest)
      (lineStart : Text.lastLine lead = []) (oneLine : '\n' ∉ front ++ found.text ++ rear)
      (start : found.start = front.length)
      (stop : found.stop = found.start + found.text.length) :
      Extends source (.fit (lead.count '\n') found) (lead ++ front) (lead ++ front ++ found.text)

/-- The detectors make the finding about the construct. -/
inductive Yields (source : Source) (vocabulary : Vocabulary) : Construct → Draft → Prop
  | declared {binding : Binding} (bound : binding ∈ Binding.collect source)
      (isParameter : binding.isParameter = false) :
      Yields source vocabulary (.name binding) (Naming.variableDraft source binding)
  | passed {binding : Binding} (bound : binding ∈ Binding.collect source)
      (isParameter : binding.isParameter = true) :
      Yields source vocabulary (.name binding) (Naming.parameterDraft source binding)
  | message {site : Site} (listed : site ∈ source.ofKinds ["string"]) :
      Yields source vocabulary (.literal site) (ErrorHandling.messageDraft source site)
  | secret {number : Nat} {line : List Char} {pattern : SecretPattern} {found : Regex.Match}
      (line_eq : source.lines[number]? = some line)
      (listed : pattern ∈ vocabulary.secretPatterns)
      (searched : pattern.regex.search line = some found) :
      Yields source vocabulary (.fit number found)
        (Secret.lineDraft line (vocabulary.secretPatterns.map (·.regex)) (number + 1) found)

/-- The record is a finding about the construct. -/
def IsReportedAs (source : Source) (vocabulary : Vocabulary) (construct : Construct)
    (record : Record) : Prop :=
  ∃ draft id stamp, construct.Yields source vocabulary draft ∧
    record = draft.toRecord id source.path stamp

/-- The lines of the region are those on which the construct itself starts and ends: a parameter is
reported on the lines of its whole declaration, and a variable of a declarator up to the line on which
the declarator ends. -/
def OnOwnLines (source : Source) : Construct → Prop
  | .name binding =>
      if binding.isParameter then
        (Text.placeAt source.text binding.declaration.span.start).1 =
            (Text.placeAt source.text binding.site.span.start).1 ∧
          (Text.placeAt source.text binding.declaration.span.stop).1 =
            (Text.placeAt source.text binding.site.span.stop).1
      else binding.declaration.kind = "variable_declarator" →
        (Text.placeAt source.text binding.declaration.span.stop).1 =
          (Text.placeAt source.text binding.site.span.stop).1
  | .literal _ => True
  | .fit _ _ => True

/-- Neither end of the construct divides a line end. -/
def RespectsLineEnds (source : Source) : Construct → Prop
  | .name binding =>
      ¬ Text.DividesLineEnd source.text binding.site.span.start ∧
        ¬ Text.DividesLineEnd source.text binding.site.span.stop
  | .literal site =>
      ¬ Text.DividesLineEnd source.text site.span.start ∧
        ¬ Text.DividesLineEnd source.text site.span.stop
  | .fit _ _ => True

end Construct

/-- The region of the record starts after one text and ends after the other. -/
structure Record.Spans (record : Record) (before upTo : List Char) : Prop where
  startLine : record.location.startLine = (Text.placeAfter before).1
  startColumn : record.location.startColumn = some ↑(Text.placeAfter before).2
  endLine : record.location.endLine = (Text.placeAfter upTo).1
  endColumn : record.location.endColumn = some ↑(Text.placeAfter upTo).2

/-- The region of the record starts and ends where the construct does. -/
def Record.Denotes (source : Source) (record : Record) (construct : Construct) : Prop :=
  ∃ before upTo, construct.Extends source before upTo ∧ record.Spans before upTo

/-! ## Nodes and lines -/

/-- A region with the columns of a node denotes it if its lines are those of the node, and neither
end of the node divides a line end. -/
theorem spans_iff {source : Source} {site : Site} {draft : Draft} {id : String} {stamp : Stamp}
    (columns : draft.columns = some (source.startColumn site, source.endColumn site)) :
    (draft.toRecord id source.path stamp).Spans (Text.takeBytes site.span.start source.text)
        (Text.takeBytes site.span.stop source.text) ↔
      (draft.startLine = (Text.placeAt source.text site.span.start).1 ∧
        draft.endLine = (Text.placeAt source.text site.span.stop).1) ∧
      ¬ Text.DividesLineEnd source.text site.span.start ∧
        ¬ Text.DividesLineEnd source.text site.span.stop := by
  rw [← Text.column_eq_iff, ← Text.column_eq_iff]
  constructor
  · rintro ⟨startLine, startColumn, endLine, endColumn⟩
    simp only [Draft.toRecord, columns, Option.map_some, Option.some.injEq, Int.natCast_inj]
      at startColumn endColumn
    exact ⟨⟨startLine, endLine⟩, startColumn, endColumn⟩
  · rintro ⟨⟨startLine, endLine⟩, startColumn, endColumn⟩
    refine ⟨startLine, ?_, endLine, ?_⟩
    · simp only [Draft.toRecord, columns, Option.map_some, Option.some.injEq, Int.natCast_inj]
      exact startColumn
    · simp only [Draft.toRecord, columns, Option.map_some, Option.some.injEq, Int.natCast_inj]
      exact endColumn

namespace Construct

variable {source : Source} {vocabulary : Vocabulary}

theorem denotes_name_iff {binding : Binding} {record : Record} :
    record.Denotes source (.name binding) ↔
      record.Spans (Text.takeBytes binding.site.span.start source.text)
        (Text.takeBytes binding.site.span.stop source.text) := by
  constructor
  · rintro ⟨before, upTo, extent, spans⟩
    cases extent
    exact spans
  · exact fun spans => ⟨_, _, .name binding, spans⟩

theorem denotes_literal_iff {site : Site} {record : Record} :
    record.Denotes source (.literal site) ↔
      record.Spans (Text.takeBytes site.span.start source.text)
        (Text.takeBytes site.span.stop source.text) := by
  constructor
  · rintro ⟨before, upTo, extent, spans⟩
    cases extent
    exact spans
  · exact fun spans => ⟨_, _, .literal site, spans⟩

/-- A fit on a line lies in the source where its line does. -/
theorem denotes_fit {number : Nat} {line : List Char} {patterns : List Regex} {pattern : Regex}
    {found : Regex.Match} (line_eq : source.lines[number]? = some line)
    (searched : pattern.search line = some found) (id : String) (stamp : Stamp) :
    ((Secret.lineDraft line patterns (number + 1) found).toRecord id source.path stamp).Denotes
      source (.fit number found) := by
  obtain ⟨lead, rest, split, rfl, lineStart, oneLine⟩ :=
    Text.lineAt_of_getElem?_lines line_eq
  obtain ⟨⟨front, rear, rfl, start⟩, stop⟩ := Regex.liesIn_of_search searched
  have inFront : '\n' ∉ front := fun mem => oneLine (by simp [mem])
  have inFound : '\n' ∉ front ++ found.text := fun mem =>
    oneLine (List.mem_append_left rear mem)
  refine ⟨lead ++ front, lead ++ front ++ found.text, .fit split lineStart oneLine start stop, ?_⟩
  have place := Text.placeAfter_append lineStart inFront
  have place' := Text.placeAfter_append lineStart inFound
  rw [← List.append_assoc] at place'
  refine ⟨?_, ?_, ?_, ?_⟩
  · rw [place]
    rfl
  · rw [place]
    simp [Draft.toRecord, Secret.lineDraft, Secret.shownLineDraft, start]
  · rw [place']
    rfl
  · rw [place']
    simp [Draft.toRecord, Secret.lineDraft, Secret.shownLineDraft, start, stop]

theorem Yields.denotes_iff {construct : Construct} {draft : Draft}
    (yields : construct.Yields source vocabulary draft) (id : String) (stamp : Stamp) :
    (draft.toRecord id source.path stamp).Denotes source construct ↔
      construct.OnOwnLines source ∧ construct.RespectsLineEnds source := by
  cases yields with
  | @declared binding bound isParameter =>
      rw [denotes_name_iff, spans_iff rfl, RespectsLineEnds]
      refine and_congr_left' ?_
      by_cases declarator : binding.declaration.kind = "variable_declarator"
      · simp [OnOwnLines, isParameter, Naming.variableDraft, Naming.suggestedDraft, declarator,
          Source.startLine, Source.endLine, Text.row_eq]
      · simp [OnOwnLines, isParameter, Naming.variableDraft, Naming.suggestedDraft, declarator,
          Source.startLine, Source.endLine, Text.row_eq]
  | @passed binding bound isParameter =>
      rw [denotes_name_iff, spans_iff rfl, RespectsLineEnds]
      refine and_congr_left' ?_
      simp [OnOwnLines, isParameter, Naming.parameterDraft, Source.startLine, Source.endLine,
        Text.row_eq]
  | @message site listed =>
      rw [denotes_literal_iff, spans_iff rfl, RespectsLineEnds]
      refine and_congr_left' ?_
      simp [OnOwnLines, ErrorHandling.messageDraft, Source.startLine, Source.endLine, Text.row_eq]
  | secret line_eq listed searched =>
      exact ⟨fun _ => ⟨trivial, trivial⟩, fun _ => denotes_fit line_eq searched id stamp⟩

end Construct

/-! ## Findings with columns -/

/-- The finding has no columns or is about a construct. -/
def Draft.Explained (source : Source) (vocabulary : Vocabulary) (draft : Draft) : Prop :=
  draft.columns = none ∨ ∃ construct : Construct, construct.Yields source vocabulary draft

variable {source : Source} {vocabulary : Vocabulary} {draft : Draft} {drafts : List Draft}

theorem Naming.explained_of_check {room : Nat}
    (checked : check room vocabulary source = .ok drafts) :
    ∀ draft ∈ drafts, draft.Explained source vocabulary := by
  obtain rfl := eq_findings_of_check checked
  intro draft mem
  rcases List.mem_append.mp mem with mem | mem
  · obtain ⟨binding, chosen, rfl⟩ := List.mem_map.mp mem
    have bound := List.mem_of_mem_filter chosen
    refine .inr ⟨.name binding, ?_⟩
    split
    · exact .passed bound ‹_›
    · exact .declared bound (Bool.eq_false_iff.mpr ‹_›)
  · rw [inconsistencies] at mem
    dsimp only at mem
    split at mem
    · exact absurd mem List.not_mem_nil
    · split at mem
      · exact absurd mem List.not_mem_nil
      · obtain ⟨⟨binding, convention⟩, -, rfl⟩ := List.mem_map.mp mem
        exact .inl rfl

theorem ErrorHandling.explained_of_check (checked : check vocabulary source = .ok drafts) :
    ∀ draft ∈ drafts, draft.Explained source vocabulary := by
  obtain rfl := eq_findings_of_check checked
  intro draft mem
  simp only [findings, List.mem_append, List.mem_filterMap] at mem
  rcases mem with (((⟨site, mem, found⟩ | ⟨site, mem, found⟩) | ⟨site, mem, found⟩) |
    ⟨site, mem, found⟩) | mem
  · grind [emptyCatch?, emptyCatchDraft, Draft.Explained]
  · grind [swallowed?, swallowedDraft, Draft.Explained]
  · grind [uncaught?, bareTryDraft, finallyOnlyDraft, Draft.Explained]
  · grind [boundary?, boundaryDraft, Draft.Explained]
  · obtain ⟨literal, chosen, rfl⟩ := List.mem_map.mp mem
    exact .inr ⟨.literal literal, .message (List.mem_of_mem_filter chosen)⟩

theorem Secret.explained_of_mem_check (mem : draft ∈ check vocabulary source) :
    draft.Explained source vocabulary := by
  rw [check] at mem
  split at mem
  · exact absurd mem List.not_mem_nil
  · rcases List.mem_append.mp mem with mem | mem
    · obtain ⟨number, line, line_eq, found, searched, rfl⟩ := mem_inLines_iff.mp mem
      obtain ⟨regex, used, searched⟩ := exists_search_of_inLine? searched
      obtain ⟨pattern, listed, rfl⟩ := List.mem_map.mp used
      exact .inr ⟨.fit number found, .secret line_eq listed searched⟩
    · obtain ⟨literal, listed, mem⟩ := List.mem_flatMap.mp mem
      grind [inLiteral, tokenDraft, accountKeyDraft, Draft.Explained]

theorem Injection.columns_eq_none (mem : draft ∈ check source) : draft.columns = none := by
  simp only [check, List.mem_append] at mem
  rcases mem with ((mem | mem) | mem) | mem
  · grind [templates, templateDraft]
  · grind [sums, sumDraft]
  · grind [evaluations, evaluation?, constructorDraft, evaluationDraft, timerDraft]
  · grind [randomNumbers, random?, randomDraft]

theorem MagicNumber.columns_eq_none (checked : check source = .ok drafts) :
    ∀ draft ∈ drafts, draft.columns = none := by
  intro draft mem
  obtain ⟨literal, -, examined⟩ := exists_literal_of_check checked mem
  grind [examine, MagicNumber.draft]

theorem Remark.columns_eq_none (mem : draft ∈ check source) : draft.columns = none := by
  rcases List.mem_append.mp mem with mem | mem
  · grind [reminders, reminder?, reminderDraft, mem_filterMap_mapIdx]
  · grind [commentedCode, runDrafts, runDraft, blockDraft]

theorem Body.columns_eq_none (mem : draft ∈ check source) : draft.columns = none := by
  rcases List.mem_append.mp mem with mem | mem
  · grind [complexityDraft]
  · grind [placeholders, notImplementedDraft, reminderDraft, emptyDraft]

namespace Detector

variable {stamps : Nat → Stamp} {records : List Record}

/-- A detector whose check explains its findings reports constructs wherever it gives columns. -/
theorem isReportedAs_of_explained {id : String} {kinds : List Kind}
    {check : Vocabulary → Source → Except Failure (List Draft)}
    (explained : ∀ drafts, check vocabulary source = .ok drafts →
      ∀ draft ∈ drafts, draft.Explained source vocabulary)
    (examined : (ofCheck id kinds stamps check).examine vocabulary (.ok source) = .ok records)
    {record : Record} (mem : record ∈ records) (columns : record.location.startColumn ≠ none) :
    ∃ construct : Construct, construct.IsReportedAs source vocabulary record := by
  obtain ⟨drafts, checked, rfl⟩ := exists_draft_of_examine examined
  obtain ⟨index, index_lt, rfl⟩ := List.mem_mapIdx.mp mem
  rcases explained drafts checked _ (List.getElem_mem index_lt) with none_eq | ⟨construct, yields⟩
  · exact absurd (by simp [Draft.toRecord, none_eq]) columns
  · exact ⟨construct, _, _, _, yields, rfl⟩

theorem standard_isReportedAs {detector : Detector} (builtin : detector ∈ standard stamps)
    (examined : detector.examine vocabulary (.ok source) = .ok records) {record : Record}
    (mem : record ∈ records) (columns : record.location.startColumn ≠ none) :
    ∃ construct : Construct, construct.IsReportedAs source vocabulary record := by
  simp only [standard, List.mem_cons, List.not_mem_nil, or_false] at builtin
  rcases builtin with rfl | rfl | rfl | rfl
  · exact isReportedAs_of_explained (fun _ checked => Naming.explained_of_check checked) examined
      mem columns
  · exact isReportedAs_of_explained (fun _ checked => ErrorHandling.explained_of_check checked)
      examined mem columns
  · refine isReportedAs_of_explained (fun drafts checked draft mem => ?_) examined mem columns
    obtain rfl := eq_append_of_securityCheck checked
    rcases List.mem_append.mp mem with mem | mem
    · exact Secret.explained_of_mem_check mem
    · exact .inl (Injection.columns_eq_none mem)
  · refine isReportedAs_of_explained (fun drafts checked draft mem => ?_) examined mem columns
    obtain ⟨numbers, found, rfl⟩ := exists_numbers_of_qualityCheck checked
    simp only [List.mem_append] at mem
    rcases mem with (mem | mem) | mem
    · exact .inl (MagicNumber.columns_eq_none found draft mem)
    · exact .inl (Remark.columns_eq_none mem)
    · exact .inl (Body.columns_eq_none mem)

/-- A record of a built-in detector that gives columns is about a construct, and its region denotes a
construct that it is about exactly when the lines are the construct's own and no end of the
construct divides a line end. -/
theorem denotes_iff_onOwnLines {detector : Detector} (builtin : detector ∈ standard stamps)
    (examined : detector.examine vocabulary (.ok source) = .ok records) :
    ∀ record ∈ records, record.location.startColumn ≠ none →
      (∃ construct : Construct, construct.IsReportedAs source vocabulary record) ∧
        ∀ construct : Construct, construct.IsReportedAs source vocabulary record →
          (record.Denotes source construct ↔
            construct.OnOwnLines source ∧ construct.RespectsLineEnds source) := by
  intro record mem columns
  refine ⟨standard_isReportedAs builtin examined mem columns, ?_⟩
  rintro construct ⟨draft, id, stamp, yields, rfl⟩
  exact yields.denotes_iff id stamp

/-- A line that assigns a token, after a line that ends in two characters. -/
def tokenOnSecondLine : Source where
  path := "src/b.js"
  grammar := .javascript
  text := "// on\r\nlet token = 'abcd';\r\n".toList
  tree := .node ⟨0, "program", "", true, ⟨0, 29⟩⟩ []

/-- A pattern of assigned tokens. -/
def tokenPattern : SecretPattern :=
  ⟨"token", SecretPattern.assigned (Regex.literal .unicode "token")⟩

/-- The record about the token starts and ends where the fit on the second line does. -/
theorem denotes_token :
    ∃ record found,
      (security fixedStamps).examine ⟨[], [], [], [], [tokenPattern], []⟩ (.ok tokenOnSecondLine) =
        .ok [record] ∧
      tokenPattern.regex.search "let token = 'abcd';".toList = some found ∧
      found.text = "token = 'abcd'".toList ∧
      record.location = ⟨"src/b.js", 2, 2, some 5, some 19⟩ ∧
      record.Denotes tokenOnSecondLine (.fit 1 found) := by
  obtain ⟨found, searched⟩ := Option.isSome_iff_exists.mp
    (by decide +kernel : (tokenPattern.regex.search "let token = 'abcd';".toList).isSome)
  have found_eq : found =
      (tokenPattern.regex.search "let token = 'abcd';".toList).get (by decide +kernel) :=
    (Option.get_of_eq_some _ searched).symm
  have examined :
      (security fixedStamps).examine ⟨[], [], [], [], [tokenPattern], []⟩ (.ok tokenOnSecondLine) =
        .ok [(Secret.lineDraft "let token = 'abcd';".toList [tokenPattern.regex] 2 found).toRecord
          "security" "src/b.js" (fixedStamps 0)] := by
    rw [found_eq]
    decide +kernel
  have builtin : security fixedStamps ∈ standard fixedStamps := by simp [standard]
  have region := denotes_iff_onOwnLines builtin examined _ List.mem_cons_self
    (Option.some_ne_none _)
  refine ⟨_, found, examined, searched, ?_, ?_, (region.2 _ ?_).mpr ⟨trivial, trivial⟩⟩
  · rw [found_eq]
    decide +kernel
  · rw [found_eq]
    decide +kernel
  · exact ⟨_, _, _, .secret (by decide +kernel) (List.mem_singleton_self _) searched, rfl⟩

/-- The record about the wrapped declaration ends on the third line, and the name on the first. -/
theorem not_denotes_wrapped :
    ∃ record, (naming fixedStamps).examine oneName (.ok wrappedDeclaration) = .ok [record] ∧
      ∃ binding, Binding.collect wrappedDeclaration = [binding] ∧
        (Construct.name binding).IsReportedAs wrappedDeclaration oneName record ∧
        Text.placeAt wrappedDeclaration.text binding.site.span.start = (1, 7) ∧
        Text.placeAt wrappedDeclaration.text binding.site.span.stop = (1, 11) ∧
        record.location = ⟨"src/a.jsx", 1, 3, some 7, some 11⟩ ∧
        ¬ record.Denotes wrappedDeclaration (.name binding) := by
  obtain ⟨binding, collected⟩ : ∃ binding, Binding.collect wrappedDeclaration = [binding] :=
    List.length_eq_one_iff.mp (by decide +kernel)
  have head_eq : binding = (Binding.collect wrappedDeclaration).head (by decide +kernel) := by
    simp [collected]
  have examined : (naming fixedStamps).examine oneName (.ok wrappedDeclaration) =
      .ok [(Naming.variableDraft wrappedDeclaration binding).toRecord "naming" "src/a.jsx"
        (fixedStamps 0)] := by
    rw [head_eq]
    decide +kernel
  have location : ((Naming.variableDraft wrappedDeclaration binding).toRecord "naming" "src/a.jsx"
      (fixedStamps 0)).location = ⟨"src/a.jsx", 1, 3, some 7, some 11⟩ := by
    rw [head_eq]
    decide +kernel
  have stop : Text.placeAt wrappedDeclaration.text binding.site.span.stop = (1, 11) := by
    rw [head_eq]
    decide +kernel
  refine ⟨_, examined, binding, collected, ⟨_, _, _, .declared ?_ ?_, rfl⟩, ?_, stop, location, ?_⟩
  · simp [collected]
  · rw [head_eq]
    decide +kernel
  · rw [head_eq]
    decide +kernel
  · rw [Construct.denotes_name_iff]
    intro spans
    have endLine := spans.endLine
    rw [location] at endLine
    exact absurd (endLine.trans (congrArg Prod.fst stop)) (by decide)

end Detector

end Hazard
