import Hazard.Detect.Standard
import Hazard.Proofs.Analysis.Course
import Mathlib.Data.List.Basic

/-!
# Listings

Every record of a result goes back to one emission: a station, a place in its output, and the record as
the detector made it. This file says which emissions are listed, what becomes of their records, and in
which order they stand. The order has no ties, since emissions that agree in severity and line are
listed in the order in which they were emitted.
-/

namespace Hazard

namespace Severity

theorem rank_injective : Function.Injective rank := by
  intro a b equal
  cases a <;> cases b <;> first | rfl | cases equal

theorem meets_iff (severity threshold : Severity) :
    severity.meets threshold = true ↔ threshold.rank ≤ severity.rank := by
  simp [meets]

theorem ofName?_name (severity : Severity) : ofName? severity.name = some severity := by
  cases severity <;> decide

end Severity

namespace Analyzer

/-! ## Emissions -/

/-- A record as a detector emits it: the place of the detector among the stations, and the place of
the record in the detector's output. -/
structure Emission where
  /-- The place of the detector among the stations. -/
  station : Nat
  /-- The place of the record in its output. -/
  place : Nat
  /-- The record, before its severity is overridden. -/
  record : Record

namespace Emission

/-- The first emission is from an earlier station, or from an earlier place of one station. -/
def Earlier (a b : Emission) : Prop :=
  a.station < b.station ∨ a.station = b.station ∧ a.place < b.place

/-- The record as it is listed: its severity is what the configuration gives its kind, if anything,
and all else is as it was emitted. -/
def listed (overrides : List (Kind × Severity)) (emission : Emission) : Record :=
  { emission.record with
    severity := (overrides.lookup emission.record.kind).getD emission.record.severity }

/-- The order of a listing: more severe records first, then those on earlier lines, then those that
were emitted earlier. -/
def ListedBefore (overrides : List (Kind × Severity)) (a b : Emission) : Prop :=
  (b.listed overrides).severity.rank < (a.listed overrides).severity.rank ∨
    (a.listed overrides).severity = (b.listed overrides).severity ∧
      (a.record.startLine < b.record.startLine ∨
        a.record.startLine = b.record.startLine ∧ a.Earlier b)

end Emission

/-- The detector knows the language, and one of its kinds is both asked for and enabled. -/
def Applies (language : Option String) (requested : Option (List Kind)) (enabled : List Kind)
    (detector : Detector) : Prop :=
  (∃ name, language = some name ∧ name ∈ detector.languages) ∧
    ∃ kind ∈ detector.kinds, (∀ kinds, requested = some kinds → kind ∈ kinds) ∧ kind ∈ enabled

/-- The emissions of the stations whose detectors apply and do not fail. -/
def Emitted (applies : Detector → Prop) (vocabulary : Vocabulary) (document : Document)
    (stations : List Station) (emission : Emission) : Prop :=
  ∃ station records, stations[emission.station]? = some station ∧ applies station.detector ∧
    (station.run vocabulary document).2 = .ok records ∧
      records[emission.place]? = some emission.record

/-- The records list exactly the emissions that are severe enough as they were emitted, each once,
with the severities of the configuration and in the order of a listing. -/
def Lists (emitted : Emission → Prop) (threshold : Severity) (overrides : List (Kind × Severity))
    (records : List Record) : Prop :=
  ∃ arrangement : List Emission,
    arrangement.Nodup ∧
      (∀ emission, emission ∈ arrangement ↔
        emitted emission ∧ threshold.rank ≤ emission.record.severity.rank) ∧
      records = arrangement.map (Emission.listed overrides) ∧
      arrangement.Pairwise (Emission.ListedBefore overrides)

theorem isApplicable_iff (language : Option String) (requested : Option (List Kind))
    (enabled : List Kind) (detector : Detector) :
    isApplicable language requested enabled detector = true ↔
      Applies language requested enabled detector := by
  cases requested <;>
    simp [isApplicable, Applies, Option.any_eq_true, List.any_eq_true]

/-- The emissions of a station. -/
def emissionsAt (applies : Detector → Bool) (vocabulary : Vocabulary) (document : Document)
    (station : Station × Nat) : List Emission :=
  (recordsAt applies vocabulary document station.1).zipIdx.map fun record =>
    ⟨station.2, record.2, record.1⟩

/-- All emissions, in the order in which they are made. -/
def emissions (applies : Detector → Bool) (vocabulary : Vocabulary) (document : Document)
    (stations : List Station) : List Emission :=
  stations.zipIdx.flatMap (emissionsAt applies vocabulary document)

section Emissions

variable (applies : Detector → Bool) (vocabulary : Vocabulary) (document : Document)
  (stations : List Station)

theorem map_record_emissions :
    (emissions applies vocabulary document stations).map (·.record) =
      stations.flatMap (recordsAt applies vocabulary document) := by
  have single (station : Station × Nat) :
      (emissionsAt applies vocabulary document station).map (·.record) =
        recordsAt applies vocabulary document station.1 := by
    simp [emissionsAt, Function.comp_def, List.zipIdx_map_fst]
  rw [emissions, List.map_flatMap]
  simp only [single]
  rw [← List.flatMap_map Prod.fst, List.zipIdx_map_fst]

theorem mem_recordsAt_iff (station : Station) (place : Nat) (record : Record) :
    (recordsAt applies vocabulary document station)[place]? = some record ↔
      applies station.detector = true ∧
        ∃ records, (station.run vocabulary document).2 = .ok records ∧
          records[place]? = some record := by
  by_cases applied : applies station.detector <;>
    cases ran : (station.run vocabulary document).2 <;>
      simp [recordsAt, recordsOf, applied, ran]

theorem mem_emissions_iff (emission : Emission) :
    emission ∈ emissions applies vocabulary document stations ↔
      Emitted (applies · = true) vocabulary document stations emission := by
  obtain ⟨index, place, record⟩ := emission
  constructor
  · intro member
    obtain ⟨⟨station, found⟩, stationMember, member⟩ := List.mem_flatMap.mp member
    obtain ⟨⟨_, _⟩, recordMember, equal⟩ := List.mem_map.mp member
    cases equal
    rw [List.mem_zipIdx_iff_getElem?] at stationMember recordMember
    obtain ⟨applied, records, ran, here⟩ :=
      (mem_recordsAt_iff applies vocabulary document station _ _).mp recordMember
    exact ⟨station, records, stationMember, applied, ran, here⟩
  · rintro ⟨station, records, stationHere, applied, ran, here⟩
    have recordHere :=
      (mem_recordsAt_iff applies vocabulary document station place record).mpr
        ⟨applied, records, ran, here⟩
    refine List.mem_flatMap.mpr ⟨(station, index), ?_, ?_⟩
    · exact List.mem_zipIdx_iff_getElem?.mpr stationHere
    · exact List.mem_map.mpr ⟨(record, place), List.mem_zipIdx_iff_getElem?.mpr recordHere, rfl⟩

/-- Emissions are made from station to station, and from place to place at each. -/
theorem emissions_pairwise_earlier :
    (emissions applies vocabulary document stations).Pairwise Emission.Earlier := by
  have increasing {α : Type} (items : List α) :
      items.zipIdx.Pairwise fun a b => a.2 < b.2 := by
    have numbers : (List.range' 0 items.length).Pairwise (· < ·) := List.pairwise_lt_range'
    rw [← List.zipIdx_map_snd 0 items] at numbers
    exact List.pairwise_map.mp numbers
  rw [emissions, List.pairwise_flatMap]
  constructor
  · intro station _
    rw [emissionsAt, List.pairwise_map]
    exact (increasing _).imp fun less => .inr ⟨rfl, less⟩
  · refine (increasing stations).imp fun {a b} less x xMember y yMember => .inl ?_
    obtain ⟨_, _, rfl⟩ := List.mem_map.mp xMember
    obtain ⟨_, _, rfl⟩ := List.mem_map.mp yMember
    exact less

end Emissions

/-! ## The order of a listing -/

theorem applyOverride_eq (overrides : List (Kind × Severity)) (record : Record) :
    applyOverride overrides record =
      { record with severity := (overrides.lookup record.kind).getD record.severity } := by
  rw [applyOverride]
  cases overrides.lookup record.kind <;> rfl

theorem precedes_iff (a b : Record) :
    precedes a b = true ↔
      b.severity.rank < a.severity.rank ∨
        a.severity.rank = b.severity.rank ∧ a.startLine ≤ b.startLine := by
  rw [precedes, Bool.or_eq_true, Bool.and_eq_true, decide_eq_true_iff, beq_iff_eq,
    decide_eq_true_iff, Severity.listingOrder]
  omega

theorem precedes_trans (a b c : Record) (first : precedes a b = true)
    (second : precedes b c = true) : precedes a c = true := by
  rw [precedes_iff] at *
  omega

theorem precedes_total (a b : Record) : (precedes a b || precedes b a) = true := by
  rw [Bool.or_eq_true, precedes_iff, precedes_iff]
  omega

/-- Sorting does not touch the order of the elements that are tied with a given one. -/
theorem filter_tied_mergeSort {α : Type} {le : α → α → Bool}
    (trans : ∀ a b c, le a b = true → le b c = true → le a c = true)
    (total : ∀ a b, (le a b || le b a) = true) (items : List α) (a : α) :
    (items.mergeSort le).filter (fun b => le a b && le b a) =
      items.filter fun b => le a b && le b a := by
  have tied : (items.filter fun b => le a b && le b a).Pairwise fun b c => le b c = true := by
    refine List.pairwise_of_forall_mem_list fun b bMember c cMember => ?_
    simp only [List.mem_filter, Bool.and_eq_true] at bMember cMember
    exact trans b a c bMember.2.2 cMember.2.1
  have within := (List.sublist_mergeSort trans total tied List.filter_sublist).filter
    fun b => le a b && le b a
  simp only [List.filter_filter, Bool.and_self] at within
  exact (within.eq_of_length ((List.mergeSort_perm items le).filter _).length_eq.symm).symm

/-- The order by which emissions are sorted. -/
def sortsBefore (overrides : List (Kind × Severity)) (a b : Emission) : Bool :=
  precedes (a.listed overrides) (b.listed overrides)

/-- Sorting emissions that are in order of emission leaves no ties. -/
theorem mergeSort_pairwise_listedBefore (overrides : List (Kind × Severity))
    (made : List Emission) (inOrder : made.Pairwise Emission.Earlier) :
    (made.mergeSort (sortsBefore overrides)).Pairwise (Emission.ListedBefore overrides) := by
  have trans (a b c : Emission) : sortsBefore overrides a b = true →
      sortsBefore overrides b c = true → sortsBefore overrides a c = true :=
    precedes_trans _ _ _
  have total (a b : Emission) :
      (sortsBefore overrides a b || sortsBefore overrides b a) = true :=
    precedes_total _ _
  rw [List.pairwise_iff_forall_sublist]
  intro a b sublist
  have sorted : sortsBefore overrides a b = true :=
    List.pairwise_iff_forall_sublist.mp (List.pairwise_mergeSort trans total made) sublist
  by_cases tie : sortsBefore overrides b a = true
  · -- The pair survives the restriction to what is tied with `a`, where nothing has moved.
    have self : sortsBefore overrides a a = true := by simpa using total a a
    have pair := sublist.filter fun c => sortsBefore overrides a c && sortsBefore overrides c a
    rw [filter_tied_mergeSort trans total] at pair
    have emitted : [a, b].Sublist made := by
      simpa [self, sorted, tie] using pair.trans List.filter_sublist
    have earlier := List.pairwise_iff_forall_sublist.mp inOrder emitted
    rw [sortsBefore, precedes_iff] at sorted tie
    have ranks : (a.listed overrides).severity.rank = (b.listed overrides).severity.rank := by omega
    have lines : a.record.startLine = b.record.startLine := by
      change _ ∨ _ ∧ a.record.startLine ≤ b.record.startLine at sorted
      change _ ∨ _ ∧ b.record.startLine ≤ a.record.startLine at tie
      omega
    exact .inr ⟨Severity.rank_injective ranks, .inr ⟨lines, earlier⟩⟩
  · rw [sortsBefore, precedes_iff] at sorted tie
    change _ ∨ _ ∧ a.record.startLine ≤ b.record.startLine at sorted
    change ¬ (_ ∨ _ ∧ b.record.startLine ≤ a.record.startLine) at tie
    obtain severer | ⟨ranks, lines⟩ := sorted
    · exact .inl severer
    · exact .inr ⟨Severity.rank_injective ranks, .inl (by omega)⟩

/-- A report of records that are in order of emission lists their emissions. -/
theorem report_lists (limit : Severity) (overrides : List (Kind × Severity)) (made : List Emission)
    (inOrder : made.Pairwise Emission.Earlier) :
    Lists (· ∈ made) limit overrides (report limit overrides (made.map (·.record))) := by
  let kept := made.filter fun emission => emission.record.severity.meets limit
  have keptInOrder : kept.Pairwise Emission.Earlier := inOrder.sublist List.filter_sublist
  have distinct : kept.Nodup := keptInOrder.imp fun earlier equal => by
    subst equal
    exact absurd earlier (by simp [Emission.Earlier])
  refine ⟨kept.mergeSort (sortsBefore overrides), ?_, ?_, ?_, ?_⟩
  · exact (List.mergeSort_perm _ _).nodup_iff.mpr distinct
  · intro emission
    simp [kept, Severity.meets_iff]
  · have listedRecords : (made.map (·.record)).filter (fun record => record.severity.meets limit) =
        kept.map (·.record) := List.filter_map
    have sortedRecords : (kept.mergeSort (sortsBefore overrides)).map (Emission.listed overrides) =
        (kept.map (Emission.listed overrides)).mergeSort precedes :=
      List.map_mergeSort fun _ _ _ _ => rfl
    rw [report, listedRecords, List.map_map, sortedRecords]
    congr 1
    exact List.map_congr_left fun emission _ => applyOverride_eq overrides emission.record
  · exact mergeSort_pairwise_listedBefore overrides kept keptInOrder

/-! ## The listing of a call -/

/-- Every pattern is read or refused for its form alone. -/
def ReadOrMalformed (compile : PatternReader) (patterns : List String) : Prop :=
  ∀ pattern ∈ patterns, ∀ fault, compile pattern = .error fault → fault.isMalformed = true

theorem readPatterns_ok_iff (compile : PatternReader) (patterns : List String) :
    (∃ read, Vocabulary.readPatterns compile patterns = .ok read) ↔
      ReadOrMalformed compile patterns := by
  induction patterns with
  | nil => simp [Vocabulary.readPatterns, ReadOrMalformed]
  | cons pattern rest ih =>
      rw [ReadOrMalformed, List.forall_mem_cons, ← ReadOrMalformed, ← ih, Vocabulary.readPatterns]
      cases compiled : compile pattern with
      | ok regex =>
          cases Vocabulary.readPatterns compile rest <;>
            simp [bind, Except.bind, pure, Except.pure]
      | error fault =>
          cases malformed : fault.isMalformed with
          | false => simp [malformed]
          | true =>
              cases Vocabulary.readPatterns compile rest <;>
                simp [malformed, bind, Except.bind, pure, Except.pure]

/-- There is a vocabulary unless some pattern is refused for another reason than its form. -/
theorem extend_ok_iff (compile : PatternReader) (extensions : Extensions) :
    (∃ vocabulary, Vocabulary.extend extensions compile = .ok vocabulary) ↔
      ReadOrMalformed compile extensions.secretPatterns := by
  rw [← readPatterns_ok_iff, Vocabulary.extend]
  cases Vocabulary.readPatterns compile extensions.secretPatterns <;>
    simp [bind, Except.bind, pure, Except.pure]

theorem threshold_of_severity (config : Config) (limit : Option Severity) :
    threshold config (limit.map Severity.name) = .ok (limit.getD config.minSeverity) := by
  cases limit with
  | none => rfl
  | some severity => simp [threshold, Severity.ofName?_name]

/-- Where all detectors that apply answer, the records of a report list their emissions. -/
theorem Reaches.exists_lists_of_answers {analyzer : Analyzer} {options : AnalysisOptions}
    {document : Document} {config : Config} {vocabulary : Vocabulary} {compile : PatternReader}
    (reaches : Reaches analyzer.config options document config vocabulary compile)
    (answer : AllAnswer (appliesTo config options document) vocabulary document analyzer.stations)
    {limit : Severity} (asked : threshold config options.minSeverity = .ok limit) :
    ∃ records,
      (analyzer.analyzeFile options document compile).2.outcome =
          .ok (resultOf document.path records) ∧
        Lists
          (Emitted (Applies (Language.ofPath? document.path) options.kinds config.enabledKinds)
            vocabulary document analyzer.stations)
          limit config.severityOverrides records := by
  have outcome := reaches.outcome_eq answer
  rw [asked, ← map_record_emissions, Except.map] at outcome
  refine ⟨_, outcome, ?_⟩
  obtain ⟨arrangement, distinct, members, records, sorted⟩ :=
    report_lists limit config.severityOverrides
      (emissions (appliesTo config options document) vocabulary document analyzer.stations)
      (emissions_pairwise_earlier _ _ _ _)
  refine ⟨arrangement, distinct, fun emission => ?_, records, sorted⟩
  simp only [members, mem_emissions_iff, Emitted, appliesTo, isApplicable_iff]

/-- A call on a file that is not left out gives a result that lists the emissions of its detectors,
unless a pattern of secrets is refused for another reason than its form, or a detector that applies
does not answer.  This is so however patterns are read. -/
theorem analyzeFile_lists_iff (analyzer : Analyzer) (options : AnalysisOptions)
    (document : Document) (config : Config) (limit : Option Severity) (compile : PatternReader)
    (inForce : analyzer.config.withOverride options.override = .ok config)
    (kept : Exclude.matchesAny config.exclude document.path = .ok false)
    (asked : options.minSeverity = limit.map Severity.name) :
    (∃ vocabulary result,
        Vocabulary.extend config.extensions compile = .ok vocabulary ∧
          (analyzer.analyzeFile options document compile).2.outcome = .ok result ∧
          result.file = document.path ∧
          result.language = Language.ofPath? document.path ∧
          Lists
            (Emitted (Applies (Language.ofPath? document.path) options.kinds config.enabledKinds)
              vocabulary document analyzer.stations)
            (limit.getD config.minSeverity) config.severityOverrides result.records) ↔
      (∀ pattern ∈ config.extensions.secretPatterns, ∀ fault,
        compile pattern = .error fault → fault.isMalformed = true) ∧
      ∀ vocabulary, Vocabulary.extend config.extensions compile = .ok vocabulary →
        ∀ station ∈ analyzer.stations,
          Applies (Language.ofPath? document.path) options.kinds config.enabledKinds
            station.detector →
          Answers (station.run vocabulary document).2 := by
  simp only [← isApplicable_iff]
  have patterns := extend_ok_iff compile config.extensions
  constructor
  · rintro ⟨vocabulary, result, extended, outcome, -⟩
    refine ⟨patterns.mp ⟨vocabulary, extended⟩, fun vocabulary' extended' => ?_⟩
    have reaches : Reaches analyzer.config options document config vocabulary' compile :=
      ⟨inForce, kept, extended'⟩
    by_contra silent
    obtain ⟨fault, -, -, failed⟩ := reaches.outcome_of_not_answers silent
    rw [outcome] at failed
    cases failed
  · rintro ⟨readable, answer⟩
    obtain ⟨vocabulary, extended⟩ := patterns.mpr readable
    have reaches : Reaches analyzer.config options document config vocabulary compile :=
      ⟨inForce, kept, extended⟩
    obtain ⟨records, outcome, lists⟩ := reaches.exists_lists_of_answers (answer vocabulary extended)
      (asked ▸ threshold_of_severity config limit)
    exact ⟨vocabulary, _, extended, outcome, resultOf_file _ _, resultOf_language _ _, lists⟩

/-- A detector of magic numbers in scripts that has one outcome for every file. -/
def steadyDetector (id : String) (outcome : Except Failure (List Record)) : Detector :=
  ⟨id, [.magicNumber], Detector.scriptLanguages, fun _ _ => outcome⟩

theorem steadyDetector_run (id : String) (outcome : Except Failure (List Record))
    (vocabulary : Vocabulary) (document : Document) :
    ((Station.idle (steadyDetector id outcome)).run vocabulary document).2 = outcome := by
  unfold Station.run
  generalize Source.ofDocument? document = opened
  cases opened <;> rfl

/-- A magic number on a line of a script. -/
def magicRecord (severity : Severity) (line : Nat) : Record :=
  { id := "steady", kind := .magicNumber, severity := severity
    location := ⟨"src/a.js", line, line, none, none⟩
    description := "", explanation := "", codeSnippet := "", suggestion := none
    confidence := .zero, autoFixAvailable := false, detectorId := "steady"
    detectedAt := ⟨1, 2, 3, 4, 5, 6, 7, none⟩ }

/-- A detector that fails and one that makes three findings, the least of which is below the
threshold, where all that are listed become critical. -/
theorem analyzeFile_lists_magicRecords :
    Exclude.matchesAny Config.builtinExclude "src/a.js" = .ok false ∧
      ∃ vocabulary result,
        Vocabulary.extend {} = .ok vocabulary ∧
          ((Analyzer.ofDetectors
            { Config.standard with severityOverrides := [(.magicNumber, .critical)] }
            [steadyDetector "broken" (.error (.other "broken")),
              steadyDetector "sound"
                (.ok [magicRecord .warning 3, magicRecord .info 2, magicRecord .warning 1])]).analyzeFile
            { minSeverity := some "warning" } ⟨"src/a.js", [], none⟩).2.outcome = .ok result ∧
          result.file = "src/a.js" ∧
          result.language = Language.ofPath? "src/a.js" ∧
          Lists
            (Emitted (Applies (Language.ofPath? "src/a.js") none Kind.all) vocabulary
              ⟨"src/a.js", [], none⟩
              [.idle (steadyDetector "broken" (.error (.other "broken"))),
                .idle (steadyDetector "sound"
                  (.ok [magicRecord .warning 3, magicRecord .info 2, magicRecord .warning 1]))])
            .warning [(.magicNumber, .critical)] result.records := by
  have kept : Exclude.matchesAny Config.builtinExclude "src/a.js" = .ok false := by decide +kernel
  refine ⟨kept, (analyzeFile_lists_iff
    (Analyzer.ofDetectors
      { Config.standard with severityOverrides := [(.magicNumber, .critical)] }
      [steadyDetector "broken" (.error (.other "broken")),
        steadyDetector "sound"
          (.ok [magicRecord .warning 3, magicRecord .info 2, magicRecord .warning 1])])
    { minSeverity := some "warning" } ⟨"src/a.js", [], none⟩
    { Config.standard with severityOverrides := [(.magicNumber, .critical)] } (some .warning)
    Vocabulary.readPattern rfl kept rfl).mpr ⟨List.forall_mem_nil _, ?_⟩⟩
  intro vocabulary _ station member _
  rcases List.mem_cons.mp member with rfl | member
  · rw [steadyDetector_run]
    exact answers_error_iff.mpr rfl
  · rw [List.mem_singleton.mp member, steadyDetector_run]
    exact answers_ok _

/-- A pattern of secrets that counts too far leaves a call on a script without a result. -/
theorem analyzeFile_no_result_of_count :
    Exclude.matchesAny Config.builtinExclude "src/a.js" = .ok false ∧
      ¬ ∃ result,
        ((Analyzer.ofDetectors
          { Config.standard with extensions := { secretPatterns := ["a\x7b4294967295\x7d"] } }
          (Detector.standard fun _ => ⟨"0", ⟨1, 2, 3, 4, 5, 6, 7, none⟩⟩)).analyzeFile
            {} ⟨"src/a.js", [], none⟩).2.outcome = .ok result := by
  refine ⟨by decide +kernel, ?_⟩
  rintro ⟨result, given⟩
  have refused : ((Analyzer.ofDetectors
      { Config.standard with extensions := { secretPatterns := ["a\x7b4294967295\x7d"] } }
      (Detector.standard fun _ => ⟨"0", ⟨1, 2, 3, 4, 5, 6, 7, none⟩⟩)).analyzeFile
        {} ⟨"src/a.js", [], none⟩).2.outcome = .error (.pattern .repetitionTooLarge) := by
    decide +kernel
  rw [refused] at given
  cases given

end Analyzer
end Hazard
