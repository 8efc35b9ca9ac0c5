import Hazard.Proofs.Analysis.Listing

/-!
# Detectors do not disturb each other

Two calls that differ in their detectors alone are compared.  Detectors that end by errors add notes and
nothing else, wherever they stand.  Detectors that fail in another way, by a signal that no handler of
errors sees, can leave a call without a result, but they cannot change the result of one that has any.
The order of the detectors decides only between records that agree in severity and line.
-/

namespace Hazard
namespace Analyzer

/-! ## Detectors that fail -/

/-- The third list is the second one with the elements of the first one put in, in order and at any
places. -/
inductive Inserted {α : Type} : List α → List α → List α → Prop
  | nil : Inserted [] [] []
  | keep (a : α) {added base mixed : List α} (inserted : Inserted added base mixed) :
      Inserted added (a :: base) (a :: mixed)
  | insert (a : α) {added base mixed : List α} (inserted : Inserted added base mixed) :
      Inserted (a :: added) base (a :: mixed)

namespace Inserted

variable {α β : Type} {added base mixed : List α}

theorem perm (inserted : Inserted added base mixed) : mixed.Perm (base ++ added) := by
  induction inserted with
  | nil => exact .refl _
  | keep a _ ih => exact ih.cons a
  | insert a _ ih => exact (ih.cons a).trans List.perm_middle.symm

theorem subset (inserted : Inserted added base mixed) : added ⊆ mixed := fun _ member =>
  inserted.perm.mem_iff.mpr (List.mem_append_right base member)

/-- What adds nothing to a concatenation can be inserted into it. -/
theorem flatMap_eq (inserted : Inserted added base mixed) (f : α → List β)
    (silent : ∀ a ∈ added, f a = []) : mixed.flatMap f = base.flatMap f := by
  induction inserted with
  | nil => rfl
  | keep a _ ih => rw [List.flatMap_cons, List.flatMap_cons, ih silent]
  | insert a _ ih =>
      obtain ⟨here, there⟩ := List.forall_mem_cons.mp silent
      rw [List.flatMap_cons, here, List.nil_append, ih there]

/-- A search passes over what is inserted if it finds nothing there. -/
theorem findSome?_eq (inserted : Inserted added base mixed) (f : α → Option β)
    (silent : ∀ a ∈ added, f a = none) : mixed.findSome? f = base.findSome? f := by
  induction inserted with
  | nil => rfl
  | keep a _ ih => rw [List.findSome?_cons, List.findSome?_cons, ih silent]
  | insert a _ ih =>
      obtain ⟨here, there⟩ := List.forall_mem_cons.mp silent
      rw [List.findSome?_cons, here, ih there]

theorem any_eq (inserted : Inserted added base mixed) (p : α → Bool)
    (silent : ∀ a ∈ added, p a = false) : mixed.any p = base.any p := by
  induction inserted with
  | nil => rfl
  | keep a _ ih => rw [List.any_cons, List.any_cons, ih silent]
  | insert a _ ih =>
      obtain ⟨here, there⟩ := List.forall_mem_cons.mp silent
      rw [List.any_cons, here, Bool.false_or, ih there]

theorem keepAll (inserted : Inserted added base mixed) (items : List α) :
    Inserted added (items ++ base) (items ++ mixed) := by
  induction items with
  | nil => exact inserted
  | cons a _ ih => exact .keep a ih

theorem insertAll (inserted : Inserted added base mixed) (items : List α) :
    Inserted (items ++ added) base (items ++ mixed) := by
  induction items with
  | nil => exact inserted
  | cons a _ ih => exact .insert a ih

theorem flatMap (inserted : Inserted added base mixed) (f : α → List β) :
    Inserted (added.flatMap f) (base.flatMap f) (mixed.flatMap f) := by
  induction inserted with
  | nil => exact .nil
  | keep a _ ih => exact ih.keepAll (f a)
  | insert a _ ih => exact ih.insertAll (f a)

end Inserted

/-- Errors among the outcomes change nothing. -/
theorem gather_of_inserted {errors base mixed : List (Except Failure (List Record))}
    (inserted : Inserted errors base mixed)
    (fails : ∀ outcome ∈ errors, ∃ failure, outcome = .error failure)
    (answer : ∀ outcome ∈ errors, Answers outcome) : gather mixed = gather base := by
  have silent (outcome : Except Failure (List Record)) (member : outcome ∈ errors) :
      recordsOf outcome = [] := by
    obtain ⟨failure, rfl⟩ := fails outcome member
    rfl
  have calm (outcome : Except Failure (List Record)) (member : outcome ∈ errors) :=
    (answers_iff outcome).mp (answer outcome member)
  rw [gather, gather, inserted.findSome?_eq _ fun outcome member => (calm outcome member).1,
    inserted.any_eq _ fun outcome member => (calm outcome member).2,
    inserted.flatMap_eq _ silent]

/-- The notes on stations that all fail and answer. -/
theorem flatMap_eventsAt_of_failing (applies : Detector → Bool) (vocabulary : Vocabulary)
    (document : Document) (stations : List Station)
    (failing : ∀ station ∈ stations,
      ∃ failure, (station.run vocabulary document).2 = .error failure)
    (answer : AllAnswer applies vocabulary document stations) :
    stations.flatMap (eventsAt applies vocabulary document) =
      (stations.filter fun station => applies station.detector).map fun station =>
        .detectorFailed station.detector.id document.path := by
  induction stations with
  | nil => rfl
  | cons station rest ih =>
      obtain ⟨⟨failure, failed⟩, others⟩ := List.forall_mem_cons.mp failing
      obtain ⟨here, there⟩ := List.forall_mem_cons.mp answer
      rw [List.flatMap_cons, ih others there, eventsAt, failed, List.filter_cons]
      cases applied : applies station.detector with
      | false => rfl
      | true =>
          have error : failure.isError = true := here applied failure failed
          simp [eventsOf, error]

/-! ## Detectors in another order -/

/-- What decides the place of a record in a listing. -/
def listingKey (record : Record) : Severity × Nat := (record.severity, record.startLine)

/-- The two calls fail alike, or their results differ at most in the order of records that have the
same key. -/
inductive SameListing : Except AnalysisError Result → Except AnalysisError Result → Prop
  | failed (fault : AnalysisError) : SameListing (.error fault) (.error fault)
  | interrupted (name name' : String) :
      SameListing (.error (.interrupted name)) (.error (.interrupted name'))
  | listed {a b : Result} (file : a.file = b.file) (language : a.language = b.language)
      (records : a.records.Perm b.records)
      (keys : a.records.map listingKey = b.records.map listingKey) :
      SameListing (.ok a) (.ok b)

theorem SameListing.refl (outcome : Except AnalysisError Result) : SameListing outcome outcome := by
  cases outcome with
  | error fault => exact .failed fault
  | ok result => exact .listed rfl rfl (.refl _) rfl

/-- The order of outcomes decides only between signals to leave, and about the order of records. -/
theorem gather_perm {a b : List (Except Failure (List Record))} (perm : a.Perm b) :
    (∃ records records', gather a = .ok records ∧ gather b = .ok records' ∧
        records.Perm records') ∨
      (gather a = .error .stalled ∧ gather b = .error .stalled) ∨
      ∃ name name', gather a = .error (.interrupted name) ∧
        gather b = .error (.interrupted name') := by
  have lost : a.any isLost = b.any isLost := by
    rw [Bool.eq_iff_iff, List.any_eq_true, List.any_eq_true]
    simp only [perm.mem_iff]
  have signals : (a.findSome? interruptOf?).isSome = (b.findSome? interruptOf?).isSome := by
    rw [Bool.eq_iff_iff, List.findSome?_isSome_iff, List.findSome?_isSome_iff]
    simp only [perm.mem_iff]
  cases interrupted : a.findSome? interruptOf? with
  | some name =>
      rw [interrupted] at signals
      obtain ⟨name', interrupted'⟩ := Option.isSome_iff_exists.mp signals.symm
      exact .inr (.inr ⟨name, name', gather_of_interrupted interrupted,
        gather_of_interrupted interrupted'⟩)
  | none =>
      rw [interrupted] at signals
      have calm : b.findSome? interruptOf? = none :=
        Option.isNone_iff_eq_none.mp (Option.isSome_eq_false_iff.mp signals.symm)
      rw [gather_of_calm interrupted, gather_of_calm calm, ← lost]
      by_cases stalled : a.any isLost = true
      · exact .inr (.inl ⟨if_pos stalled, if_pos stalled⟩)
      · exact .inl ⟨_, _, if_neg stalled, if_neg stalled, perm.flatMap_right _⟩

theorem report_perm (limit : Severity) (overrides : List (Kind × Severity)) {a b : List Record}
    (perm : a.Perm b) : (report limit overrides a).Perm (report limit overrides b) :=
  (List.mergeSort_perm _ _).trans
    (((perm.filter _).map _).trans (List.mergeSort_perm _ _).symm)

/-- The keys of a report depend on the records alone, not on their order. -/
theorem report_keys (limit : Severity) (overrides : List (Kind × Severity)) {a b : List Record}
    (perm : a.Perm b) :
    (report limit overrides a).map listingKey = (report limit overrides b).map listingKey := by
  -- The order of records is an order on keys, and there it is antisymmetric.
  let before (x y : Severity × Nat) : Prop := y.1.rank < x.1.rank ∨ x.1.rank = y.1.rank ∧ x.2 ≤ y.2
  have sorted (records : List Record) :
      ((report limit overrides records).map listingKey).Pairwise before := by
    rw [List.pairwise_map]
    exact (List.pairwise_mergeSort precedes_trans precedes_total _).imp
      fun {a b} precedes => (precedes_iff a b).mp precedes
  refine List.Perm.eq_of_pairwise ?_ (sorted a) (sorted b)
    ((report_perm limit overrides perm).map listingKey)
  rintro ⟨severity, line⟩ ⟨severity', line'⟩ _ _ forward backward
  have ranks : severity.rank = severity'.rank := by
    simp only [before] at forward backward
    omega
  have lines : line = line' := by
    simp only [before] at forward backward
    omega
  rw [Severity.rank_injective ranks, lines]

/-! ## Two calls -/

section Calls

variable {config : Config} {options : AnalysisOptions} {document : Document}
  {compile : PatternReader}

/-- Detectors that end by errors, put in anywhere, do not change the outcome. -/
theorem outcome_of_inserted {failing base mixed : List Station} {settings : Config}
    {vocabulary : Vocabulary} (inserted : Inserted failing base mixed)
    (reaches : Reaches config options document settings vocabulary compile)
    (fails : ∀ station ∈ failing,
      ∃ failure, (station.run vocabulary document).2 = .error failure)
    (answer : AllAnswer (appliesTo settings options document) vocabulary document failing) :
    ((Analyzer.mk config mixed).analyzeFile options document compile).2.outcome =
      ((Analyzer.mk config base).analyzeFile options document compile).2.outcome := by
  have errors : ∀ outcome ∈ failing.flatMap
      (outcomesAt (appliesTo settings options document) vocabulary document),
      ∃ failure, outcome = .error failure := by
    intro outcome member
    obtain ⟨station, listed, member⟩ := List.mem_flatMap.mp member
    rw [outcomesAt] at member
    split at member
    · rw [List.mem_singleton.mp member]
      exact fails station listed
    · exact absurd member List.not_mem_nil
  rw [Reaches.outcome_eq_gather reaches, Reaches.outcome_eq_gather reaches,
    gather_of_inserted (inserted.flatMap _) errors ((forall_answers_iff _ _ _ _).mpr answer)]

/-- Detectors that fail, put in anywhere, are noted if they apply, and nothing else is. -/
theorem events_of_inserted {failing base mixed : List Station} {settings : Config}
    {vocabulary : Vocabulary} (inserted : Inserted failing base mixed)
    (reaches : Reaches config options document settings vocabulary compile)
    (fails : ∀ station ∈ failing,
      ∃ failure, (station.run vocabulary document).2 = .error failure)
    (answer : AllAnswer (appliesTo settings options document) vocabulary document failing) :
    ((Analyzer.mk config mixed).analyzeFile options document compile).2.events.Perm
      (((Analyzer.mk config base).analyzeFile options document compile).2.events ++
        (failing.filter fun station =>
          appliesTo settings options document station.detector).map fun station =>
            .detectorFailed station.detector.id document.path) := by
  have notes := flatMap_eventsAt_of_failing (appliesTo settings options document) vocabulary
    document failing fails answer
  rw [Reaches.events_eq reaches, Reaches.events_eq reaches, ← notes, List.append_assoc,
    ← List.flatMap_append]
  exact (inserted.perm.flatMap_right _).append_left _

/-- The order of the detectors decides only between records that have the same key, and between
signals to leave. -/
theorem sameListing_of_perm {base shuffled : List Station} (perm : base.Perm shuffled) :
    SameListing ((Analyzer.mk config base).analyzeFile options document compile).2.outcome
      ((Analyzer.mk config shuffled).analyzeFile options document compile).2.outcome := by
  by_cases reached :
      ∃ settings vocabulary, Reaches config options document settings vocabulary compile
  · obtain ⟨settings, vocabulary, reaches⟩ := reached
    have outcomes := perm.flatMap_right
      (outcomesAt (appliesTo settings options document) vocabulary document)
    rw [Reaches.outcome_eq_gather reaches, Reaches.outcome_eq_gather reaches]
    rcases gather_perm outcomes with ⟨records, records', gathered, gathered', same⟩ |
      ⟨gathered, gathered'⟩ | ⟨name, name', gathered, gathered'⟩
    · rw [gathered, gathered', Except.bind, Except.bind]
      cases threshold settings options.minSeverity with
      | error fault => exact .failed fault
      | ok limit =>
          exact .listed (by simp) (by simp) (by simpa using report_perm limit _ same)
            (by simpa using report_keys limit _ same)
    · rw [gathered, gathered']
      exact .failed .stalled
    · rw [gathered, gathered']
      exact .interrupted name name'
  · simp only [not_exists] at reached
    obtain ⟨noted, same⟩ := analyzeFile_of_not_reaches reached
    rw [same, same]
    exact .refl _

end Calls

/-- What becomes of a call when detectors that fail are put in among its own. -/
structure Isolates (config : Config) (options : AnalysisOptions) (document : Document)
    (compile : PatternReader) (failing base mixed : List Station) : Prop where
  /-- A call that does not come to the detectors is the same. -/
  early : (∀ settings vocabulary, ¬ Reaches config options document settings vocabulary compile) →
    ((Analyzer.mk config mixed).analyzeFile options document compile).2 =
      ((Analyzer.mk config base).analyzeFile options document compile).2
  /-- If those of them that apply end by errors, then the outcome is the same. -/
  outcome : ∀ settings vocabulary, Reaches config options document settings vocabulary compile →
    AllAnswer (appliesTo settings options document) vocabulary document failing →
      ((Analyzer.mk config mixed).analyzeFile options document compile).2.outcome =
        ((Analyzer.mk config base).analyzeFile options document compile).2.outcome
  /-- If the call is answered, their errors are noted if they apply, and nothing else is added. -/
  events : ∀ settings vocabulary, Reaches config options document settings vocabulary compile →
    AllAnswer (appliesTo settings options document) vocabulary document mixed →
      ((Analyzer.mk config mixed).analyzeFile options document compile).2.events.Perm
        (((Analyzer.mk config base).analyzeFile options document compile).2.events ++
          (failing.filter fun station =>
            appliesTo settings options document station.detector).map fun station =>
              .detectorFailed station.detector.id document.path)
  /-- However they fail, a call that has a result has the same one without them. -/
  result : ∀ result,
    ((Analyzer.mk config mixed).analyzeFile options document compile).2.outcome = .ok result →
      ((Analyzer.mk config base).analyzeFile options document compile).2.outcome = .ok result
  /-- If one that applies fails by no error, then the call has no result, for that reason. -/
  unanswered : ∀ settings vocabulary,
    Reaches config options document settings vocabulary compile →
      ¬ AllAnswer (appliesTo settings options document) vocabulary document failing →
        ∃ fault : AnalysisError, fault.IsUnanswered ∧
          ((Analyzer.mk config mixed).analyzeFile options document compile).2.outcome =
            .error fault

/-- A call has no result if a detector that was put in applies and does not answer. -/
theorem outcome_of_inserted_unanswered {config : Config} {options : AnalysisOptions}
    {document : Document} {compile : PatternReader} {failing base mixed : List Station}
    {settings : Config} {vocabulary : Vocabulary} (inserted : Inserted failing base mixed)
    (reaches : Reaches config options document settings vocabulary compile)
    (silent : ¬ AllAnswer (appliesTo settings options document) vocabulary document failing) :
    ∃ fault : AnalysisError, fault.IsUnanswered ∧
      ((Analyzer.mk config mixed).analyzeFile options document compile).2.outcome =
        .error fault := by
  have silent' : ¬ AllAnswer (appliesTo settings options document) vocabulary document mixed :=
    fun answer => silent fun station member => answer station (inserted.subset member)
  have reaches' : Reaches (Analyzer.mk config mixed).config options document settings vocabulary
      compile := reaches
  obtain ⟨fault, unanswered, -, failed⟩ := reaches'.outcome_of_not_answers silent'
  exact ⟨fault, unanswered, failed⟩

end Analyzer
end Hazard
