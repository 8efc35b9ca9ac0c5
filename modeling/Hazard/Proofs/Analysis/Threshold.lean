import Hazard.Proofs.Analysis.Listing

/-!
# Raising the threshold

Two calls that differ in their thresholds alone are compared.  A threshold looks at the severity that a
detector gave and a listing is ordered by the severity that the configuration gives, so what has to be
seen is that leaving out emissions does not move the others.  It does not, because the order of a
listing has no ties: a listing is determined by the emissions that it lists.
-/

namespace Hazard
namespace Analyzer

/-- The outcome of a call at a threshold. -/
def outcomeAt (analyzer : Analyzer) (options : AnalysisOptions) (document : Document)
    (limit : Severity) : Except AnalysisError Result :=
  (analyzer.analyzeFile { options with minSeverity := some limit.name } document).2.outcome

/-- A detector makes the emission when the call is made, whatever the threshold is. -/
def Makes (analyzer : Analyzer) (options : AnalysisOptions) (document : Document)
    (emission : Emission) : Prop :=
  ∃ config vocabulary, Reaches analyzer.config options document config vocabulary ∧
    Emitted (Applies (Language.ofPath? document.path) options.kinds config.enabledKinds) vocabulary
      document analyzer.stations emission

/-- The options with another table of severities in a configuration. -/
def withSeverities (options : AnalysisOptions) (config : Config)
    (overrides : List (Kind × Severity)) : AnalysisOptions :=
  { options with override := some (.whole { config with severityOverrides := overrides }) }

/-! ## A listing is determined by its emissions -/

namespace Emission

theorem ListedBefore.asymm {overrides : List (Kind × Severity)} {a b : Emission}
    (before : a.ListedBefore overrides b) : ¬ b.ListedBefore overrides a := by
  intro after
  rcases before with severer | ⟨same, earlier⟩
  · rcases after with severer' | ⟨same', -⟩
    · exact absurd severer' (Nat.lt_asymm severer)
    · rw [same'] at severer
      exact absurd severer (Nat.lt_irrefl _)
  · rcases after with severer' | ⟨-, earlier'⟩
    · rw [same] at severer'
      exact absurd severer' (Nat.lt_irrefl _)
    · simp only [Earlier] at earlier earlier'
      omega

end Emission

/-- Two arrangements of the same emissions in the order of a listing are one. -/
theorem arrangement_unique {overrides : List (Kind × Severity)} {a b : List Emission}
    (perm : a.Perm b) (aSorted : a.Pairwise (Emission.ListedBefore overrides))
    (bSorted : b.Pairwise (Emission.ListedBefore overrides)) : a = b :=
  perm.eq_of_pairwise (fun _ _ _ _ before after => absurd after before.asymm) aSorted bSorted

variable {emitted : Emission → Prop} {low high : Severity} {overrides : List (Kind × Severity)}

/-- A listing at a higher threshold is the listing at the lower one without the emissions that were
not severe enough when they were emitted. -/
theorem Lists.raise {lower higher : List Record} (raised : low.rank ≤ high.rank)
    (lists : Lists emitted low overrides lower) (lists' : Lists emitted high overrides higher) :
    ∃ arrangement : List Emission,
      arrangement.Nodup ∧
        (∀ emission, emission ∈ arrangement ↔
          emitted emission ∧ low.rank ≤ emission.record.severity.rank) ∧
        lower = arrangement.map (Emission.listed overrides) ∧
        higher = (arrangement.filter fun emission =>
          high.rank ≤ emission.record.severity.rank).map (Emission.listed overrides) := by
  obtain ⟨arrangement, distinct, members, rfl, sorted⟩ := lists
  obtain ⟨others, distinct', members', rfl, sorted'⟩ := lists'
  refine ⟨arrangement, distinct, members, rfl, ?_⟩
  have perm : others.Perm (arrangement.filter fun emission =>
      high.rank ≤ emission.record.severity.rank) := by
    rw [List.perm_ext_iff_of_nodup distinct' (distinct.filter _)]
    intro emission
    rw [List.mem_filter, members, members', decide_eq_true_iff]
    constructor
    · exact fun ⟨made, reaches⟩ => ⟨⟨made, Nat.le_trans raised reaches⟩, reaches⟩
    · exact fun ⟨⟨made, _⟩, reaches⟩ => ⟨made, reaches⟩
  rw [arrangement_unique perm sorted' (sorted.sublist List.filter_sublist)]

/-- Two listings with different tables of severities list the same emissions. -/
theorem Lists.exists_perm {overrides' : List (Kind × Severity)} {records : List Record}
    {arrangement : List Emission} (distinct : arrangement.Nodup)
    (members : ∀ emission, emission ∈ arrangement ↔
      emitted emission ∧ low.rank ≤ emission.record.severity.rank)
    (lists : Lists emitted low overrides' records) :
    ∃ rearranged : List Emission, rearranged.Perm arrangement ∧
      records = rearranged.map (Emission.listed overrides') := by
  obtain ⟨rearranged, distinct', members', rfl, -⟩ := lists
  refine ⟨rearranged, ?_, rfl⟩
  rw [List.perm_ext_iff_of_nodup distinct' distinct]
  intro emission
  rw [members, members']

/-! ## Calls -/

section Calls

variable {analyzer : Analyzer} {options : AnalysisOptions} {document : Document} {config : Config}

/-- A call has a result: with this configuration the file is left out, or the call comes to the
detectors and those that apply answer. -/
structure Completes (analyzer : Analyzer) (options : AnalysisOptions) (document : Document)
    (config : Config) : Prop where
  /-- The configuration is the one of the call. -/
  inForce : analyzer.config.withOverride options.override = .ok config
  /-- There is nothing that keeps the call from its end. -/
  ends : Exclude.matchesAny config.exclude document.path = .ok true ∨
    ∃ vocabulary, Reaches analyzer.config options document config vocabulary ∧
      AllAnswer (appliesTo config options document) vocabulary document analyzer.stations

theorem Completes.withSeverities (completes : Completes analyzer options document config)
    (overrides : List (Kind × Severity)) :
    Completes analyzer (withSeverities options config overrides) document
      { config with severityOverrides := overrides } := by
  refine ⟨rfl, ?_⟩
  rcases completes.ends with excluded | ⟨vocabulary, reaches, answer⟩
  · exact .inl excluded
  · exact .inr ⟨vocabulary, ⟨rfl, reaches.kept, reaches.extended⟩, answer⟩

/-- Another table of severities changes nothing about the emissions that a call makes. -/
theorem Completes.makes_withSeverities (completes : Completes analyzer options document config)
    (overrides : List (Kind × Severity)) (emission : Emission) :
    Makes analyzer (Analyzer.withSeverities options config overrides) document emission ↔
      Makes analyzer options document emission := by
  constructor
  · rintro ⟨config', vocabulary, reaches, emitted⟩
    obtain rfl : { config with severityOverrides := overrides } = config' :=
      Except.ok.inj reaches.inForce
    exact ⟨config, vocabulary, ⟨completes.inForce, reaches.kept, reaches.extended⟩, emitted⟩
  · rintro ⟨config', vocabulary, reaches, emitted⟩
    obtain rfl : config = config' := Except.ok.inj (completes.inForce.symm.trans reaches.inForce)
    exact ⟨_, vocabulary, ⟨rfl, reaches.kept, reaches.extended⟩, emitted⟩

/-- A call that comes to the detectors makes the emissions of those that apply. -/
theorem Reaches.makes_iff {vocabulary : Vocabulary}
    (reaches : Reaches analyzer.config options document config vocabulary) (emission : Emission) :
    Makes analyzer options document emission ↔
      Emitted (Applies (Language.ofPath? document.path) options.kinds config.enabledKinds)
        vocabulary document analyzer.stations emission := by
  constructor
  · rintro ⟨config', vocabulary', reaches', emitted⟩
    obtain rfl : config = config' := Except.ok.inj (reaches.inForce.symm.trans reaches'.inForce)
    obtain rfl : vocabulary = vocabulary' :=
      Except.ok.inj (reaches.extended.symm.trans reaches'.extended)
    exact emitted
  · exact fun emitted => ⟨config, vocabulary, reaches, emitted⟩

theorem Reaches.withThreshold {base : Config} {vocabulary : Vocabulary}
    (reaches : Reaches base options document config vocabulary) (limit : Severity) :
    Reaches base { options with minSeverity := some limit.name } document config vocabulary :=
  ⟨reaches.inForce, reaches.kept, reaches.extended⟩

theorem Reaches.exists_lists {vocabulary : Vocabulary}
    (reaches : Reaches analyzer.config options document config vocabulary)
    (answer : AllAnswer (appliesTo config options document) vocabulary document analyzer.stations)
    (limit : Severity) :
    ∃ result, outcomeAt analyzer options document limit = .ok result ∧
      Lists (Makes analyzer options document) limit config.severityOverrides result.records := by
  obtain ⟨records, outcome, lists⟩ := (reaches.withThreshold limit).exists_lists_of_answers answer
    (threshold_of_severity config (some limit))
  refine ⟨_, outcome, ?_⟩
  obtain ⟨arrangement, distinct, members, records, sorted⟩ := lists
  refine ⟨arrangement, distinct, fun emission => ?_, records, sorted⟩
  rw [members, reaches.makes_iff]
  exact Iff.rfl

/-- At every threshold, a call that has a result lists the emissions that it makes. -/
theorem Completes.exists_lists (completes : Completes analyzer options document config)
    (limit : Severity) :
    ∃ result, outcomeAt analyzer options document limit = .ok result ∧
      Lists (Makes analyzer options document) limit config.severityOverrides result.records := by
  rcases completes.ends with excluded | ⟨vocabulary, reaches, answer⟩
  · have early : EndsEarly analyzer.config { options with minSeverity := some limit.name } document
        Vocabulary.readPattern
        ⟨.ok (resultOf document.path []), [.fileExcluded document.path]⟩ :=
      .leftOut completes.inForce excluded
    refine ⟨resultOf document.path [], ?_, [], List.nodup_nil, ?_, rfl, List.Pairwise.nil⟩
    · rw [outcomeAt, early.analyzeFile_eq]
    · intro emission
      refine ⟨fun member => absurd member List.not_mem_nil, ?_⟩
      rintro ⟨⟨config', _, reaches, _⟩, _⟩
      obtain rfl : config = config' := Except.ok.inj (completes.inForce.symm.trans reaches.inForce)
      have kept := reaches.kept
      rw [excluded] at kept
      exact absurd (Except.ok.inj kept) Bool.true_eq_false.mp
  · exact reaches.exists_lists answer limit

/-- Whether a call has a result does not depend on its threshold. -/
theorem fails_or_completes (analyzer : Analyzer) (options : AnalysisOptions) (document : Document) :
    (∃ fault, ∀ limit, outcomeAt analyzer options document limit = .error fault) ∨
      ∃ config, Completes analyzer options document config := by
  have fails {fault : AnalysisError} (early : ∀ limit : Severity, EndsEarly analyzer.config
      { options with minSeverity := some limit.name } document Vocabulary.readPattern
        (.plain (.error fault))) :
      ∃ fault, ∀ limit, outcomeAt analyzer options document limit = .error fault :=
    ⟨fault, fun limit => by rw [outcomeAt, (early limit).analyzeFile_eq]; rfl⟩
  rcases endsEarly_or_reaches analyzer.config options document Vocabulary.readPattern with
    ⟨noted, early⟩ | ⟨config, vocabulary, reaches⟩
  · cases early with
    | config invalid => exact .inl (fails fun _ => .config invalid)
    | glob inForce malformed => exact .inl (fails fun _ => .glob inForce malformed)
    | leftOut inForce excluded => exact .inr ⟨_, inForce, .inl excluded⟩
    | pattern inForce kept refused => exact .inl (fails fun _ => .pattern inForce kept refused)
  · by_cases answer :
        AllAnswer (appliesTo config options document) vocabulary document analyzer.stations
    · exact .inr ⟨config, reaches.inForce, .inr ⟨vocabulary, reaches, answer⟩⟩
    · -- The waiting fails in the same way at every threshold, since it comes before the threshold.
      obtain ⟨fault, -, gathered, -⟩ := reaches.outcome_of_not_answers answer
      refine .inl ⟨fault, fun limit => ?_⟩
      rw [outcomeAt, (reaches.withThreshold limit).outcome_eq_gather]
      exact congrArg (Except.bind · _) gathered

end Calls

/-- A call fails at both thresholds, or its result at the higher one is its result at the lower one
without the records whose severity, as their detector gave it, is below the higher one.  Which records
are listed does not depend on the severities that the configuration gives. -/
theorem outcomeAt_raise (analyzer : Analyzer) (options : AnalysisOptions) (document : Document)
    (low high : Severity) (raised : low.rank ≤ high.rank) :
    (∃ fault, outcomeAt analyzer options document low = .error fault ∧
        outcomeAt analyzer options document high = .error fault) ∨
      ∃ (config : Config) (lower higher : Result) (arrangement : List Emission),
        analyzer.config.withOverride options.override = .ok config ∧
        outcomeAt analyzer options document low = .ok lower ∧
        outcomeAt analyzer options document high = .ok higher ∧
        arrangement.Nodup ∧
        (∀ emission, emission ∈ arrangement ↔
          Makes analyzer options document emission ∧ low.rank ≤ emission.record.severity.rank) ∧
        lower.records = arrangement.map (Emission.listed config.severityOverrides) ∧
        higher.records = (arrangement.filter fun emission =>
          high.rank ≤ emission.record.severity.rank).map
            (Emission.listed config.severityOverrides) ∧
        ∀ overrides, ∃ (other : Result) (rearranged : List Emission),
          outcomeAt analyzer (withSeverities options config overrides) document low = .ok other ∧
          rearranged.Perm arrangement ∧
          other.records = rearranged.map (Emission.listed overrides) := by
  rcases fails_or_completes analyzer options document with ⟨fault, fails⟩ | ⟨config, completes⟩
  · exact .inl ⟨fault, fails low, fails high⟩
  · right
    obtain ⟨lower, lower_eq, lists⟩ := completes.exists_lists low
    obtain ⟨higher, higher_eq, lists'⟩ := completes.exists_lists high
    obtain ⟨arrangement, distinct, members, lowerRecords, higherRecords⟩ :=
      lists.raise raised lists'
    refine ⟨config, lower, higher, arrangement, completes.inForce, lower_eq, higher_eq, distinct,
      members, lowerRecords, higherRecords, fun overrides => ?_⟩
    obtain ⟨other, other_eq, lists⟩ := (completes.withSeverities overrides).exists_lists low
    have members' (emission : Emission) : emission ∈ arrangement ↔
        Makes analyzer (withSeverities options config overrides) document emission ∧
          low.rank ≤ emission.record.severity.rank := by
      rw [members, completes.makes_withSeverities]
    obtain ⟨rearranged, perm, records⟩ := lists.exists_perm distinct members'
    exact ⟨other, rearranged, other_eq, perm, records⟩

/-- A warning, a remark and another warning. -/
def mixedRecords : List Record :=
  [magicRecord .warning 3, magicRecord .info 2, magicRecord .warning 1]

/-- A detector makes the mixed records, and all that is listed of them becomes a remark. -/
def remarkingAnalyzer : Analyzer :=
  .ofDetectors { Config.standard with severityOverrides := [(.magicNumber, .info)] }
    [steadyDetector "sound" (.ok mixedRecords)]

theorem outcomeAt_remarkingAnalyzer (limit : Severity) :
    outcomeAt remarkingAnalyzer {} ⟨"src/a.js", [], none⟩ limit =
      .ok (resultOf "src/a.js" (report limit [(.magicNumber, .info)] mixedRecords)) := by
  obtain ⟨vocabulary, extended⟩ :=
    (extend_ok_iff Vocabulary.readPattern remarkingAnalyzer.config.extensions).mpr
      (List.forall_mem_nil _)
  have reaches : Reaches remarkingAnalyzer.config { minSeverity := some limit.name }
      ⟨"src/a.js", [], none⟩ remarkingAnalyzer.config vocabulary :=
    ⟨rfl, by decide +kernel, extended⟩
  have applied : isApplicable (Language.ofPath? "src/a.js") none Kind.all
      (steadyDetector "sound" (.ok mixedRecords)) = true := by decide +kernel
  have limit_eq : threshold remarkingAnalyzer.config (some limit.name) = .ok limit :=
    threshold_of_severity _ (some limit)
  have run_eq := steadyDetector_run "sound" (.ok mixedRecords) vocabulary ⟨"src/a.js", [], none⟩
  have records_eq : recordsAt (appliesTo remarkingAnalyzer.config { minSeverity := some limit.name }
      ⟨"src/a.js", [], none⟩) vocabulary ⟨"src/a.js", [], none⟩
      (.idle (steadyDetector "sound" (.ok mixedRecords))) = mixedRecords := by
    rw [recordsAt, run_eq]
    exact if_pos applied
  have answer : AllAnswer (appliesTo remarkingAnalyzer.config { minSeverity := some limit.name }
      ⟨"src/a.js", [], none⟩) vocabulary ⟨"src/a.js", [], none⟩ remarkingAnalyzer.stations := by
    intro station member _
    rw [List.mem_singleton.mp member, run_eq]
    exact answers_ok _
  rw [outcomeAt, reaches.outcome_eq answer, limit_eq]
  simp only [remarkingAnalyzer, ofDetectors, List.map_cons, List.map_nil, List.flatMap_cons,
    List.flatMap_nil, List.append_nil] at records_eq ⊢
  rw [records_eq]
  rfl

/-- Remarks about earlier lines come first. -/
theorem precedes_magicRecord (first second : Nat) :
    precedes (magicRecord .info first) (magicRecord .info second) = decide (first ≤ second) := by
  rw [precedes]
  rfl

theorem report_mixedRecords_info : report .info [(.magicNumber, .info)] mixedRecords =
    [magicRecord .info 1, magicRecord .info 2, magicRecord .info 3] := by
  have listed : (mixedRecords.filter fun record => record.severity.meets .info).map
      (applyOverride [(.magicNumber, .info)]) =
        [magicRecord .info 3, magicRecord .info 2, magicRecord .info 1] := by decide
  rw [report, listed]
  simp [List.mergeSort, List.MergeSort.Internal.splitInTwo, precedes_magicRecord]

theorem report_mixedRecords_warning : report .warning [(.magicNumber, .info)] mixedRecords =
    [magicRecord .info 1, magicRecord .info 3] := by
  have listed : (mixedRecords.filter fun record => record.severity.meets .warning).map
      (applyOverride [(.magicNumber, .info)]) =
        [magicRecord .info 3, magicRecord .info 1] := by decide
  rw [report, listed]
  simp [List.mergeSort, List.MergeSort.Internal.splitInTwo, precedes_magicRecord]

/-- At the threshold of warnings the two warnings are listed, as remarks. -/
theorem outcomeAt_raise_remarks :
    Severity.info.rank ≤ Severity.warning.rank ∧
      ∃ (lower higher : Result) (arrangement : List Emission),
        outcomeAt remarkingAnalyzer {} ⟨"src/a.js", [], none⟩ .info = .ok lower ∧
        outcomeAt remarkingAnalyzer {} ⟨"src/a.js", [], none⟩ .warning = .ok higher ∧
        lower.records = arrangement.map (Emission.listed [(.magicNumber, .info)]) ∧
        higher.records = (arrangement.filter fun emission =>
          Severity.warning.rank ≤ emission.record.severity.rank).map
            (Emission.listed [(.magicNumber, .info)]) ∧
        lower.records = [magicRecord .info 1, magicRecord .info 2, magicRecord .info 3] ∧
        higher.records = [magicRecord .info 1, magicRecord .info 3] := by
  have lower_eq := outcomeAt_remarkingAnalyzer .info
  have higher_eq := outcomeAt_remarkingAnalyzer .warning
  refine ⟨by decide, ?_⟩
  rcases outcomeAt_raise remarkingAnalyzer {} ⟨"src/a.js", [], none⟩ .info .warning (by decide) with
    ⟨fault, fails, -⟩ | ⟨config, lower, higher, arrangement, inForce, lower_eq', higher_eq', -, -,
      lowerRecords, higherRecords, -⟩
  · exact absurd (lower_eq.symm.trans fails) (by simp)
  · obtain rfl := Except.ok.inj inForce
    obtain rfl := Except.ok.inj (lower_eq.symm.trans lower_eq')
    obtain rfl := Except.ok.inj (higher_eq.symm.trans higher_eq')
    refine ⟨_, _, arrangement, lower_eq, higher_eq, lowerRecords, higherRecords,
      report_mixedRecords_info, report_mixedRecords_warning⟩

end Analyzer
end Hazard
