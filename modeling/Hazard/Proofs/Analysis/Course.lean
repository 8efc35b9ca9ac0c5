import Hazard.Analysis.Analyzer
import Mathlib.Tactic.Push

/-!
# The course of one analysis

A call either comes to the detectors or it ends before them, and then it ends in the same way whatever
the detectors are.  A call that comes to the detectors waits for the outcomes of those that apply.  If
all of them answer, by records or by an error, then its outcome is the report of the records; if one of
them does not, then there is no result.
-/

namespace Hazard

/-- A call has no result because of a detector that did not answer. -/
def AnalysisError.IsUnanswered (fault : AnalysisError) : Prop :=
  fault = .stalled ∨ ∃ name, fault = .interrupted name

namespace Analyzer

/-! ## Waiting for outcomes -/

/-- A detector answers: its outcome is records or an error. -/
def Answers (outcome : Except Failure (List Record)) : Prop :=
  ∀ failure, outcome = .error failure → failure.isError = true

theorem answers_ok (records : List Record) : Answers (.ok records) := by
  intro failure equal
  cases equal

theorem answers_error_iff {failure : Failure} :
    Answers (.error failure) ↔ failure.isError = true :=
  ⟨fun answers => answers failure rfl, fun error _ equal => Except.error.inj equal ▸ error⟩

/-- What does not answer is a signal to leave, or lost. -/
theorem answers_iff (outcome : Except Failure (List Record)) :
    Answers outcome ↔ interruptOf? outcome = none ∧ isLost outcome = false := by
  cases outcome with
  | ok records => exact ⟨fun _ => ⟨rfl, rfl⟩, fun _ => answers_ok records⟩
  | error failure =>
      rw [answers_error_iff]
      cases failure <;> simp [Failure.isError, interruptOf?, isLost]

theorem gather_of_interrupted {outcomes : List (Except Failure (List Record))} {name : String}
    (interrupted : outcomes.findSome? interruptOf? = some name) :
    gather outcomes = .error (.interrupted name) := by
  rw [gather, interrupted]

theorem gather_of_calm {outcomes : List (Except Failure (List Record))}
    (calm : outcomes.findSome? interruptOf? = none) :
    gather outcomes =
      if outcomes.any isLost then .error .stalled else .ok (outcomes.flatMap recordsOf) := by
  rw [gather, calm]

/-- Outcomes that are all answers give their records, one after the other. -/
theorem gather_of_answers {outcomes : List (Except Failure (List Record))}
    (answer : ∀ outcome ∈ outcomes, Answers outcome) :
    gather outcomes = .ok (outcomes.flatMap recordsOf) := by
  have calm : outcomes.findSome? interruptOf? = none :=
    List.findSome?_eq_none_iff.mpr fun outcome member =>
      ((answers_iff outcome).mp (answer outcome member)).1
  have kept : outcomes.any isLost = false :=
    List.any_eq_false.mpr fun outcome member =>
      Bool.eq_false_iff.mp ((answers_iff outcome).mp (answer outcome member)).2
  rw [gather_of_calm calm]
  exact if_neg (Bool.eq_false_iff.mp kept)

/-- One outcome that is no answer leaves the call without a result. -/
theorem gather_of_not_answers {outcomes : List (Except Failure (List Record))}
    {outcome : Except Failure (List Record)} (member : outcome ∈ outcomes)
    (silent : ¬ Answers outcome) :
    ∃ fault : AnalysisError, fault.IsUnanswered ∧ gather outcomes = .error fault := by
  cases interrupted : outcomes.findSome? interruptOf? with
  | some name => exact ⟨_, .inr ⟨name, rfl⟩, gather_of_interrupted interrupted⟩
  | none =>
      have calm := List.findSome?_eq_none_iff.mp interrupted outcome member
      have lost : isLost outcome = true :=
        Bool.not_eq_false _ ▸ fun kept => silent ((answers_iff outcome).mpr ⟨calm, kept⟩)
      refine ⟨.stalled, .inl rfl, ?_⟩
      rw [gather_of_calm interrupted]
      exact if_pos (List.any_eq_true.mpr ⟨outcome, member, lost⟩)

/-! ## The stations of a call -/

/-- A call on a document comes to the detectors, with this configuration and this vocabulary. -/
structure Reaches (base : Config) (options : AnalysisOptions) (document : Document)
    (config : Config) (vocabulary : Vocabulary)
    (compile : PatternReader := Vocabulary.readPattern) : Prop where
  /-- The configuration is the one of the call. -/
  inForce : base.withOverride options.override = .ok config
  /-- The file is not left out. -/
  kept : Exclude.matchesAny config.exclude document.path = .ok false
  /-- The patterns of secrets are read. -/
  extended : Vocabulary.extend config.extensions compile = .ok vocabulary

/-- The test for the detectors of a call. -/
def appliesTo (config : Config) (options : AnalysisOptions) (document : Document) :
    Detector → Bool :=
  isApplicable (Language.ofPath? document.path) options.kinds config.enabledKinds

/-- Every detector that applies answers. -/
def AllAnswer (applies : Detector → Bool) (vocabulary : Vocabulary) (document : Document)
    (stations : List Station) : Prop :=
  ∀ station ∈ stations, applies station.detector = true →
    Answers (station.run vocabulary document).2

/-- What a station adds to the outcomes. -/
def outcomesAt (applies : Detector → Bool) (vocabulary : Vocabulary) (document : Document)
    (station : Station) : List (Except Failure (List Record)) :=
  if applies station.detector then [(station.run vocabulary document).2] else []

/-- What a station adds to the records. -/
def recordsAt (applies : Detector → Bool) (vocabulary : Vocabulary) (document : Document)
    (station : Station) : List Record :=
  if applies station.detector then recordsOf (station.run vocabulary document).2 else []

/-- What a station adds to the notes. -/
def eventsAt (applies : Detector → Bool) (vocabulary : Vocabulary) (document : Document)
    (station : Station) : List Event :=
  if applies station.detector then
    eventsOf station.detector document.path (station.run vocabulary document).2
  else []

@[simp] theorem resultOf_file (path : String) (records : List Record) :
    (resultOf path records).file = path := by rw [resultOf]

@[simp] theorem resultOf_language (path : String) (records : List Record) :
    (resultOf path records).language = Language.ofPath? path := by rw [resultOf]

@[simp] theorem resultOf_records (path : String) (records : List Record) :
    (resultOf path records).records = records := by rw [resultOf]

section Stations

variable (applies : Detector → Bool) (vocabulary : Vocabulary) (document : Document)
  (stations : List Station)

theorem runStations_outcomes :
    (runStations applies vocabulary document stations).2.map (·.2) =
      stations.flatMap (outcomesAt applies vocabulary document) := by
  induction stations with
  | nil => rfl
  | cons station rest ih =>
      rw [List.flatMap_cons, ← ih]
      rcases ran : station.run vocabulary document with ⟨after, outcome⟩
      by_cases applied : applies station.detector <;>
        simp [runStations, outcomesAt, applied, ran]

theorem runStations_events :
    ((runStations applies vocabulary document stations).2.flatMap fun (detector, outcome) =>
        eventsOf detector document.path outcome) =
      stations.flatMap (eventsAt applies vocabulary document) := by
  induction stations with
  | nil => rfl
  | cons station rest ih =>
      rw [List.flatMap_cons, ← ih]
      rcases ran : station.run vocabulary document with ⟨after, outcome⟩
      by_cases applied : applies station.detector <;>
        simp [runStations, eventsAt, applied, ran]

theorem forall_answers_iff :
    (∀ outcome ∈ stations.flatMap (outcomesAt applies vocabulary document), Answers outcome) ↔
      AllAnswer applies vocabulary document stations := by
  simp only [List.mem_flatMap, outcomesAt, AllAnswer]
  constructor
  · intro answer station member applied
    exact answer _ ⟨station, member, by rw [if_pos applied]; exact List.mem_singleton_self _⟩
  · rintro answer outcome ⟨station, member, listed⟩
    split at listed
    next applied => exact List.mem_singleton.mp listed ▸ answer station member applied
    next => exact absurd listed List.not_mem_nil

theorem flatMap_recordsOf :
    (stations.flatMap (outcomesAt applies vocabulary document)).flatMap recordsOf =
      stations.flatMap (recordsAt applies vocabulary document) := by
  rw [List.flatMap_assoc]
  congr 1
  funext station
  rw [outcomesAt, recordsAt]
  split <;> simp

end Stations

/-! ## Calls that come to the detectors -/

namespace Reaches

variable {analyzer : Analyzer} {options : AnalysisOptions} {document : Document} {config : Config}
  {vocabulary : Vocabulary} {compile : PatternReader}

/-- A call that comes to the detectors waits for them, and then looks at the threshold. -/
theorem outcome_eq_gather
    (reaches : Reaches analyzer.config options document config vocabulary compile) :
    (analyzer.analyzeFile options document compile).2.outcome =
      (gather (analyzer.stations.flatMap
        (outcomesAt (appliesTo config options document) vocabulary document))).bind fun records =>
          (threshold config options.minSeverity).map fun limit =>
            resultOf document.path (report limit config.severityOverrides records) := by
  rw [analyzeFile, reaches.inForce]
  simp only [reaches.kept, examine, reaches.extended, runStations_outcomes]
  rfl

/-- A call whose detectors answer reports what the stations emit. -/
theorem outcome_eq
    (reaches : Reaches analyzer.config options document config vocabulary compile)
    (answer : AllAnswer (appliesTo config options document) vocabulary document
      analyzer.stations) :
    (analyzer.analyzeFile options document compile).2.outcome =
      (threshold config options.minSeverity).map fun limit =>
        resultOf document.path (report limit config.severityOverrides
          (analyzer.stations.flatMap
            (recordsAt (appliesTo config options document) vocabulary document))) := by
  rw [reaches.outcome_eq_gather,
    gather_of_answers ((forall_answers_iff _ _ _ _).mpr answer), flatMap_recordsOf]
  rfl

/-- A call with a detector that applies and does not answer has no result, for that reason. -/
theorem outcome_of_not_answers
    (reaches : Reaches analyzer.config options document config vocabulary compile)
    (silent : ¬ AllAnswer (appliesTo config options document) vocabulary document
      analyzer.stations) :
    ∃ fault : AnalysisError, fault.IsUnanswered ∧
      gather (analyzer.stations.flatMap
        (outcomesAt (appliesTo config options document) vocabulary document)) = .error fault ∧
      (analyzer.analyzeFile options document compile).2.outcome = .error fault := by
  rw [← forall_answers_iff] at silent
  push Not at silent
  obtain ⟨outcome, member, silent⟩ := silent
  obtain ⟨fault, unanswered, gathered⟩ := gather_of_not_answers member silent
  refine ⟨fault, unanswered, gathered, ?_⟩
  rw [reaches.outcome_eq_gather, gathered]
  rfl

/-- A call that comes to the detectors notes the patterns it cannot read, and then the errors. -/
theorem events_eq
    (reaches : Reaches analyzer.config options document config vocabulary compile) :
    (analyzer.analyzeFile options document compile).2.events =
      vocabulary.rejectedPatterns.map .secretPatternRejected ++
        analyzer.stations.flatMap
          (eventsAt (appliesTo config options document) vocabulary document) := by
  rw [analyzeFile, reaches.inForce]
  simp only [reaches.kept, examine, reaches.extended, runStations_events]
  rfl

end Reaches

/-! ## Calls that end early -/

/-- A call ends before the detectors, with this outcome and these notes: its configuration is invalid,
a pattern of files to leave out is malformed, the file is left out, or a pattern of secrets is refused
for another reason than its form. -/
inductive EndsEarly (base : Config) (options : AnalysisOptions) (document : Document)
    (compile : PatternReader := Vocabulary.readPattern) :
    Noted (Except AnalysisError Result) → Prop
  | config {issues : List Issue} (invalid : base.withOverride options.override = .error issues) :
      EndsEarly base options document compile (.plain (.error (.config issues)))
  | glob {config : Config} {fault : Exclude.GlobError}
      (inForce : base.withOverride options.override = .ok config)
      (malformed : Exclude.matchesAny config.exclude document.path = .error fault) :
      EndsEarly base options document compile (.plain (.error (.glob fault)))
  | leftOut {config : Config} (inForce : base.withOverride options.override = .ok config)
      (excluded : Exclude.matchesAny config.exclude document.path = .ok true) :
      EndsEarly base options document compile
        ⟨.ok (resultOf document.path []), [.fileExcluded document.path]⟩
  | pattern {config : Config} {fault : Regex.ParseError}
      (inForce : base.withOverride options.override = .ok config)
      (kept : Exclude.matchesAny config.exclude document.path = .ok false)
      (refused : Vocabulary.extend config.extensions compile = .error fault) :
      EndsEarly base options document compile (.plain (.error (.pattern fault)))

section Early

variable {base : Config} {options : AnalysisOptions} {document : Document}
  {compile : PatternReader}

/-- A call that ends early leaves the stations as they are. -/
theorem EndsEarly.analyzeFile_eq {noted : Noted (Except AnalysisError Result)}
    (ends : EndsEarly base options document compile noted) (stations : List Station) :
    (Analyzer.mk base stations).analyzeFile options document compile =
      (⟨base, stations⟩, noted) := by
  rw [analyzeFile]
  cases ends with
  | config invalid => rw [invalid]
  | glob inForce malformed => simp only [inForce, malformed]
  | leftOut inForce excluded => simp only [inForce, excluded]
  | pattern inForce kept refused => simp only [inForce, kept, examine, refused]

theorem endsEarly_or_reaches (base : Config) (options : AnalysisOptions) (document : Document)
    (compile : PatternReader) :
    (∃ noted, EndsEarly base options document compile noted) ∨
      ∃ config vocabulary, Reaches base options document config vocabulary compile := by
  cases inForce : base.withOverride options.override with
  | error issues => exact .inl ⟨_, .config inForce⟩
  | ok config =>
      cases excluded : Exclude.matchesAny config.exclude document.path with
      | error fault => exact .inl ⟨_, .glob inForce excluded⟩
      | ok answer =>
          cases answer with
          | true => exact .inl ⟨_, .leftOut inForce excluded⟩
          | false =>
              cases extended : Vocabulary.extend config.extensions compile with
              | error fault => exact .inl ⟨_, .pattern inForce excluded extended⟩
              | ok vocabulary => exact .inr ⟨config, vocabulary, inForce, excluded, extended⟩

/-- A call that ends before the detectors does not depend on them. -/
theorem analyzeFile_of_not_reaches
    (ends : ∀ config vocabulary, ¬ Reaches base options document config vocabulary compile) :
    ∃ noted, ∀ stations,
      (Analyzer.mk base stations).analyzeFile options document compile =
        (⟨base, stations⟩, noted) := by
  rcases endsEarly_or_reaches base options document compile with ⟨noted, early⟩ |
    ⟨config, vocabulary, reaches⟩
  · exact ⟨noted, early.analyzeFile_eq⟩
  · exact absurd reaches (ends config vocabulary)

end Early

end Analyzer
end Hazard
