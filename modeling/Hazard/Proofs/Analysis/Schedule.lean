import Hazard.Proofs.Analysis.Bookkeeping

/-!
# The schedules of a call

A call on several documents starts their analyses together, and each of them lets its detectors visit
the document, all at the same time.  The visits open and leave their blocks in any order.  A call returns
when every analysis has a result, and so after all visits; but it raises as soon as one analysis does, and
then visits of the others may still be under way.  These are waited for, or dropped if they have not begun,
before the error leaves the program, and only then the workspaces are as they were.
-/

namespace Hazard
namespace Analyzer

open Workspace

/-! ## Visits -/

/-- The visit of a detector to a document. -/
structure Visit where
  /-- The place of the document in the call. -/
  task : Nat
  /-- The place of the detector among the stations. -/
  place : Nat
  /-- The document. -/
  document : Document

/-- A visit whose block is open. -/
structure Stay where
  /-- The visit. -/
  visit : Visit
  /-- The block. -/
  block : Block

/-- The places of the stations that a call on a document comes to. -/
def placesFor (analyzer : Analyzer) (options : AnalysisOptions) (document : Document) : List Nat :=
  match analyzer.config.withOverride options.override with
  | .error _ => []
  | .ok config =>
    match Exclude.matchesAny config.exclude document.path,
        Vocabulary.extend config.extensions with
    | .ok false, .ok _ =>
      analyzer.stations.findIdxs fun station => appliesTo config options document station.detector
    | _, _ => []

/-- The visits of an analysis. -/
def visitsOf (analyzer : Analyzer) (options : AnalysisOptions) (document : Document) (task : Nat) :
    List Visit :=
  (analyzer.placesFor options document).map fun place => ⟨task, place, document⟩

/-- All visits of a call. -/
def visits (analyzer : Analyzer) (options : AnalysisOptions) (documents : List Document) :
    List Visit :=
  documents.zipIdx.flatMap fun entry => analyzer.visitsOf options entry.1 entry.2

/-! ## Moments -/

/-- A moment of a call. -/
structure Moment where
  /-- The stations, with their workspaces as they are. -/
  stations : List Station
  /-- The visits that have not begun. -/
  waiting : List Visit
  /-- The visits whose blocks are open. -/
  inside : List Stay

namespace Moment

/-- The visits that are not over. -/
def remaining (moment : Moment) : List Visit := moment.waiting ++ moment.inside.map Stay.visit

/-- The blocks that are open at a place. -/
def insideAt (moment : Moment) (place : Nat) : List Block :=
  (moment.inside.filter fun stay => stay.visit.place == place).map Stay.block

/-- How many files each detector has open. -/
def openCounts (moment : Moment) : List (String × Nat) :=
  moment.stations.map fun station => (station.detector.id, station.workspace.size)

/-- One step of one visit.  It opens its document, or is over at once if there is no grammar for it, or
leaves its block, normally or by a failure. -/
inductive Step : Moment → Moment → Prop
  | opens {stations : List Station} {before after : List Visit} {visit : Visit}
      {inside : List Stay} {station : Station} {source : Source}
      (found : stations[visit.place]? = some station)
      (read : Source.ofDocument? visit.document = some source) :
      Step ⟨stations, before ++ visit :: after, inside⟩
        ⟨stations.set visit.place
            { station with workspace := (station.workspace.opened source).2 },
          before ++ after, ⟨visit, .opening visit.task station.workspace source⟩ :: inside⟩
  | refused {stations : List Station} {before after : List Visit} {visit : Visit}
      {inside : List Stay} (unread : Source.ofDocument? visit.document = none) :
      Step ⟨stations, before ++ visit :: after, inside⟩ ⟨stations, before ++ after, inside⟩
  | leaves (exit : Exit) {stations : List Station} {waiting : List Visit}
      {before after : List Stay} {stay : Stay} {station : Station}
      (found : stations[stay.visit.place]? = some station) :
      Step ⟨stations, waiting, before ++ stay :: after⟩
        ⟨stations.set stay.visit.place
            { station with workspace := station.workspace.closed stay.block.key },
          waiting, before ++ after⟩

/-- One step after the end of a call: a visit goes on, or is dropped before it has begun. -/
inductive LateStep : Moment → Moment → Prop
  | step {moment next : Moment} (step : Step moment next) : LateStep moment next
  | dropped {stations : List Station} {before after : List Visit} {visit : Visit}
      {inside : List Stay} :
      LateStep ⟨stations, before ++ visit :: after, inside⟩ ⟨stations, before ++ after, inside⟩

/-- The steps of a call. -/
def Runs : Moment → Moment → Prop := Relation.ReflTransGen Step

/-- No visit is under way any more. -/
structure WindsUp (moment final : Moment) : Prop where
  /-- The visits go on or are dropped. -/
  steps : Relation.ReflTransGen LateStep moment final
  /-- In the end no block is open. -/
  finished : final.inside = []

/-- Each station hosts the blocks that are open at its place, since the start of the call. -/
structure Hosted (start : List Station) (moment : Moment) : Prop where
  /-- No station is added or lost. -/
  length : moment.stations.length = start.length
  /-- Visits are made at the places of stations. -/
  placed : ∀ visit ∈ moment.remaining, visit.place < start.length
  /-- What was opened at a place since the start and not left is inside. -/
  hosts : ∀ (place : Nat) (before after : Station), start[place]? = some before →
    moment.stations[place]? = some after → before.Hosts (moment.insideAt place) after

theorem hosted_start {stations : List Station} {waiting : List Visit}
    (placed : ∀ visit ∈ waiting, visit.place < stations.length) :
    Hosted stations ⟨stations, waiting, []⟩ := by
  refine ⟨rfl, ?_, fun place before after found found' => ?_⟩
  · simpa [remaining] using placed
  · obtain rfl : before = after := Option.some.inj (found.symm.trans found')
    exact .refl before

/-- What holds at every other place holds if one station changes. -/
theorem hosts_set {start stations : List Station} {place : Nat} {changed : Station}
    {inside : Nat → List Block}
    (here : ∀ before, start[place]? = some before → before.Hosts (inside place) changed)
    (there : ∀ (other : Nat) (before after : Station), other ≠ place →
      start[other]? = some before → stations[other]? = some after →
        before.Hosts (inside other) after)
    (other : Nat) (before after : Station) (found : start[other]? = some before)
    (found' : (stations.set place changed)[other]? = some after) :
    before.Hosts (inside other) after := by
  by_cases same : other = place
  · subst same
    rw [List.getElem?_set_self'] at found'
    obtain ⟨_, _, rfl⟩ := Option.map_eq_some_iff.mp found'
    exact here before found
  · rw [List.getElem?_set_ne (Ne.symm same)] at found'
    exact there other before after same found found'

/-- A step makes no new visits. -/
theorem Step.remaining_subset {moment next : Moment} (step : Step moment next) :
    next.remaining ⊆ moment.remaining := by
  cases step with
  | @opens _ before after visit inside =>
      refine List.Perm.subset ?_
      change ((before ++ after) ++ visit :: inside.map Stay.visit).Perm
        ((before ++ visit :: after) ++ inside.map Stay.visit)
      refine List.perm_middle.trans ?_
      rw [← List.cons_append]
      exact List.perm_middle.symm.append_right _
  | @refused _ before after visit inside =>
      exact (((List.sublist_cons_self visit after).append_left before).append_right _).subset
  | @leaves _ _ waiting before after stay =>
      exact ((((List.sublist_cons_self stay after).append_left before).map
        Stay.visit).append_left waiting).subset

theorem Hosted.step {start : List Station} {moment next : Moment} (hosted : Hosted start moment)
    (step : Step moment next) : Hosted start next := by
  have placed : ∀ visit ∈ next.remaining, visit.place < start.length :=
    fun visit member => hosted.placed visit (step.remaining_subset member)
  cases step with
  | @opens stations before after visit inside station source found read =>
      refine ⟨(List.length_set ..).trans hosted.length, placed, fun place first last => ?_⟩
      refine hosts_set ?_ ?_ place first last
      · intro earlier known
        have opened := (hosted.hosts _ _ _ known found).opens visit.task read
        simpa [insideAt] using opened
      · intro other earlier later apart known now
        simpa [insideAt, Ne.symm apart] using hosted.hosts other earlier later known now
  | refused unread => exact ⟨hosted.length, placed, hosted.hosts⟩
  | @leaves exit stations waiting before after stay station found =>
      refine ⟨(List.length_set ..).trans hosted.length, placed, fun place first last => ?_⟩
      refine hosts_set ?_ ?_ place first last
      · intro earlier known
        have inside := hosted.hosts _ _ _ known found
        simp only [insideAt, List.filter_append, List.filter_cons, beq_self_eq_true, if_true,
          List.map_append, List.map_cons] at inside ⊢
        exact inside.leaves exit
      · intro other earlier later apart known now
        simpa [insideAt, Ne.symm apart] using hosted.hosts other earlier later known now

theorem Hosted.runs {start : List Station} {moment next : Moment} (hosted : Hosted start moment)
    (runs : Runs moment next) : Hosted start next := by
  induction runs with
  | refl => exact hosted
  | tail _ step ih => exact ih.step step

theorem Hosted.lateStep {start : List Station} {moment next : Moment}
    (hosted : Hosted start moment) (step : LateStep moment next) : Hosted start next := by
  cases step with
  | step step => exact hosted.step step
  | dropped =>
      refine ⟨hosted.length, fun visit member => hosted.placed visit ?_, hosted.hosts⟩
      simp only [remaining, List.mem_append, List.mem_cons] at member ⊢
      tauto

theorem Hosted.windsUp {start : List Station} {moment final : Moment}
    (hosted : Hosted start moment) (windsUp : WindsUp moment final) : Hosted start final := by
  obtain ⟨steps, -⟩ := windsUp
  induction steps with
  | refl => exact hosted
  | tail _ step ih => exact ih.lateStep step

/-- A call whose visits are all over is wound up. -/
theorem Runs.windsUp {moment final : Moment} (runs : moment.Runs final)
    (finished : final.remaining = []) : moment.WindsUp final := by
  refine ⟨?_, List.map_eq_nil_iff.mp (List.append_eq_nil_iff.mp finished).2⟩
  clear finished
  induction runs with
  | refl => exact .refl
  | tail _ step ih => exact ih.tail (.step step)

/-- At any moment, all visits can come to their ends. -/
theorem Hosted.exists_over {start : List Station} {moment : Moment} (hosted : Hosted start moment) :
    ∃ final, moment.Runs final ∧ final.remaining = [] := by
  -- A visit takes at most two steps, one to open its block and one to leave it.
  induction steps : 2 * moment.waiting.length + moment.inside.length
      using Nat.strong_induction_on generalizing moment with
  | _ count ih =>
      have onward {next : Moment} (step : Step moment next)
          (less : 2 * next.waiting.length + next.inside.length < count) :
          ∃ final, moment.Runs final ∧ final.remaining = [] := by
        obtain ⟨final, runs, finished⟩ := ih _ less (hosted.step step) rfl
        exact ⟨final, .head step runs, finished⟩
      have station (visit : Visit) (member : visit ∈ moment.remaining) :
          ∃ station, moment.stations[visit.place]? = some station := by
        have bound := hosted.placed visit member
        rw [← hosted.length] at bound
        exact ⟨_, List.getElem?_eq_getElem bound⟩
      obtain ⟨stations, waiting, inside⟩ := moment
      cases inside with
      | cons stay inside =>
          obtain ⟨host, found⟩ := station stay.visit (by simp [remaining])
          have step : Step ⟨stations, waiting, [] ++ stay :: inside⟩ _ := .leaves .normal found
          exact onward step (by simp at steps ⊢; omega)
      | nil =>
          cases waiting with
          | nil => exact ⟨_, .refl, rfl⟩
          | cons visit waiting =>
              obtain ⟨host, found⟩ := station visit (by simp [remaining])
              cases read : Source.ofDocument? visit.document with
              | none =>
                  have step : Step ⟨stations, [] ++ visit :: waiting, []⟩ _ := .refused read
                  exact onward step (by simp at steps ⊢; omega)
              | some source =>
                  have step : Step ⟨stations, [] ++ visit :: waiting, []⟩ _ := .opens found read
                  exact onward step (by simp at steps ⊢; omega)

end Moment

/-! ## What a call says of its documents -/

/-- What opening a document comes to. -/
def opening (document : Document) : Except Failure Source :=
  match Source.ofDocument? document with
  | some source => .ok source
  | none => .error (.noGrammar document.path)

theorem run_outcome (station : Station) (vocabulary : Vocabulary) (document : Document) :
    (station.run vocabulary document).2 = station.detector.examine vocabulary (opening document) := by
  unfold Station.run opening
  cases Source.ofDocument? document <;> rfl

theorem runStations_eq_examine (applies : Detector → Bool) (vocabulary : Vocabulary)
    (document : Document) (stations : List Station) :
    (runStations applies vocabulary document stations).2 =
      ((stations.map Station.detector).filter applies).map fun detector =>
        (detector, detector.examine vocabulary (opening document)) := by
  induction stations with
  | nil => rfl
  | cons station rest ih =>
      have outcome := run_outcome station vocabulary document
      rcases ran : station.run vocabulary document with ⟨after, found⟩
      rw [ran] at outcome
      by_cases applied : applies station.detector <;>
        simp [runStations, applied, ran, ih, ← outcome]

/-- What comes of a document depends on the configuration and the detectors, not on what they have
open. -/
theorem analyzeFile_congr {first second : Analyzer} (config : first.config = second.config)
    (detectors : first.stations.map Station.detector = second.stations.map Station.detector)
    (options : AnalysisOptions) (document : Document) :
    (first.analyzeFile options document).2 = (second.analyzeFile options document).2 := by
  rw [analyzeFile, analyzeFile, config]
  cases second.config.withOverride options.override with
  | error issues => rfl
  | ok merged =>
      cases tested : Exclude.matchesAny merged.exclude document.path with
      | error fault => simp only [tested]
      | ok answer =>
          cases answer with
          | true => simp only [tested]
          | false =>
              simp only [tested, examine]
              cases Vocabulary.extend merged.extensions with
              | error fault => rfl
              | ok vocabulary => simp only [runStations_eq_examine, detectors]

theorem Revisits.detectors_eq {before after : Analyzer} (revisits : before.Revisits after) :
    after.stations.map Station.detector = before.stations.map Station.detector := by
  obtain ⟨visit, hosts, stations⟩ := revisits
  rw [stations, List.map_map]
  exact List.map_congr_left fun station _ => (hosts station).detector

/-- A call on several documents says of each what a call on that one alone says. -/
theorem analyzeFiles_outcome (analyzer : Analyzer) (options : AnalysisOptions)
    (documents : List Document) :
    (analyzer.analyzeFiles options documents).2.outcome =
      documents.mapM fun document => (analyzer.analyzeFile options document).2.outcome := by
  suffices same : ∀ next : Analyzer, next.config = analyzer.config →
      next.stations.map Station.detector = analyzer.stations.map Station.detector →
        (next.analyzeFiles options documents).2.outcome =
          documents.mapM fun document => (analyzer.analyzeFile options document).2.outcome from
    same analyzer rfl rfl
  induction documents with
  | nil => exact fun _ _ _ => rfl
  | cons document rest ih =>
      intro next config detectors
      have later := ih (next.analyzeFile options document).1
        ((analyzeFile_config next options document).trans config)
        ((next.revisits_analyzeFile options document).detectors_eq.trans detectors)
      rw [analyzeFiles, List.mapM_cons, ← analyzeFile_congr config detectors options document,
        ← later]

/-! ## The end of a call -/

/-- How a call can end at a moment. -/
inductive Ends (analyzer : Analyzer) (options : AnalysisOptions) (documents : List Document)
    (moment : Moment) : Except AnalysisError (List Result) → Prop
  /-- All visits are over, and every analysis has a result. -/
  | returns {results : List Result} (finished : moment.remaining = [])
      (each : (documents.mapM fun document => (analyzer.analyzeFile options document).2.outcome) =
        .ok results) : Ends analyzer options documents moment (.ok results)
  /-- The visits of one analysis are over, and it raises an error. -/
  | raises {task : Nat} {document : Document} {fault : AnalysisError}
      (listed : documents[task]? = some document)
      (fails : (analyzer.analyzeFile options document).2.outcome = .error fault)
      (answered : ¬ fault.IsUnanswered)
      (finished : ∀ visit ∈ moment.remaining, visit.task ≠ task) :
      Ends analyzer options documents moment (.error fault)
  /-- A visit is over, and it came to a signal to leave. -/
  | interrupted {task place : Nat} {document : Document} {config : Config}
      {vocabulary : Vocabulary} {station : Station} {name : String}
      (listed : documents[task]? = some document)
      (reaches : Reaches analyzer.config options document config vocabulary)
      (found : analyzer.stations[place]? = some station)
      (applied : appliesTo config options document station.detector = true)
      (left : (station.run vocabulary document).2 = .error (.interrupt name))
      (finished : ∀ visit ∈ moment.remaining, visit.task = task → visit.place ≠ place) :
      Ends analyzer options documents moment (.error (.interrupted name))

/-- What is true at a moment of a call. -/
structure Accounts (start : Analyzer) (options : AnalysisOptions) (documents : List Document)
    (moment : Moment) : Prop where
  /-- A detector has open what it had open before the call, and what its visits have open. -/
  counts : moment.openCounts = start.stations.mapIdx fun place station =>
    (station.detector.id, station.workspace.size + (moment.insideAt place).length)
  /-- When the call returns, the detectors have open what they had open before. -/
  returned : ∀ results, Ends start options documents moment (.ok results) →
    moment.openCounts = start.openCounts ∧
      (start.analyzeFiles options documents).2.outcome = .ok results
  /-- So they have when a call on one document raises an error. -/
  alone : documents.length ≤ 1 → ∀ fault, ¬ fault.IsUnanswered →
    Ends start options documents moment (.error fault) → moment.openCounts = start.openCounts
  /-- An error is that of one document, but of several signals to leave any can be the first. -/
  raised : ∀ fault, Ends start options documents moment (.error fault) →
    ∃ document ∈ documents, ∃ cause,
      (start.analyzeFile options document).2.outcome = .error cause ∧
        (cause = fault ∨ ∃ name name', cause = .interrupted name ∧ fault = .interrupted name')
  /-- The visits can come to their ends. -/
  finishes : ∃ final, moment.Runs final ∧ final.remaining = []
  /-- Once no visit is under way, the detectors have open what they had open before. -/
  woundUp : ∀ final, moment.WindsUp final →
    final.openCounts = start.openCounts ∧ (Analyzer.mk start.config final.stations).InUse

/-! ## The visits of a call -/

theorem EndsEarly.placesFor_eq {analyzer : Analyzer} {options : AnalysisOptions}
    {document : Document} {noted : Noted (Except AnalysisError Result)}
    (ends : EndsEarly analyzer.config options document Vocabulary.readPattern noted) :
    analyzer.placesFor options document = [] := by
  rw [placesFor]
  cases ends with
  | config invalid => simp only [invalid]
  | glob inForce malformed => simp only [inForce, malformed]
  | leftOut inForce excluded => simp only [inForce, excluded]
  | pattern inForce kept refused => simp only [inForce, kept, refused]

theorem Reaches.placesFor_eq {analyzer : Analyzer} {options : AnalysisOptions}
    {document : Document} {config : Config} {vocabulary : Vocabulary}
    (reaches : Reaches analyzer.config options document config vocabulary) :
    analyzer.placesFor options document =
      analyzer.stations.findIdxs fun station =>
        appliesTo config options document station.detector := by
  simp only [placesFor, reaches.inForce, reaches.kept, reaches.extended]

theorem lt_of_mem_placesFor {analyzer : Analyzer} {options : AnalysisOptions} {document : Document}
    {place : Nat} (member : place ∈ analyzer.placesFor options document) :
    place < analyzer.stations.length := by
  rcases endsEarly_or_reaches analyzer.config options document Vocabulary.readPattern with
    ⟨noted, early⟩ | ⟨config, vocabulary, reaches⟩
  · rw [early.placesFor_eq] at member
    exact absurd member List.not_mem_nil
  · rw [reaches.placesFor_eq] at member
    obtain ⟨bound, -⟩ := List.mem_findIdxs_iff_exists_getElem_pos.mp member
    exact bound

theorem placed_of_mem_visits {analyzer : Analyzer} {options : AnalysisOptions}
    {documents : List Document} {visit : Visit}
    (member : visit ∈ analyzer.visits options documents) :
    visit.place < analyzer.stations.length ∧ visit.task < documents.length := by
  obtain ⟨entry, listed, member⟩ := List.mem_flatMap.mp member
  obtain ⟨place, found, rfl⟩ := List.mem_map.mp member
  refine ⟨lt_of_mem_placesFor found, ?_⟩
  have here := List.mem_zipIdx_iff_getElem?.mp listed
  exact (List.getElem?_eq_some_iff.mp here).1

namespace Moment

variable {start : Analyzer} {moment : Moment}

theorem Runs.remaining_subset {next : Moment} (runs : moment.Runs next) :
    next.remaining ⊆ moment.remaining := by
  induction runs with
  | refl => exact List.Subset.refl _
  | tail _ step ih => exact List.Subset.trans step.remaining_subset ih

theorem Hosted.openCounts_eq (hosted : Hosted start.stations moment) (inUse : start.InUse) :
    moment.openCounts = start.stations.mapIdx fun place station =>
      (station.detector.id, station.workspace.size + (moment.insideAt place).length) := by
  apply List.ext_getElem?
  intro place
  rw [openCounts, List.getElem?_map, List.getElem?_mapIdx]
  cases found : start.stations[place]? with
  | none =>
      rw [List.getElem?_eq_none_iff, ← hosted.length, ← List.getElem?_eq_none_iff] at found
      rw [found]
      rfl
  | some before =>
      have bound := (List.getElem?_eq_some_iff.mp found).1
      rw [← hosted.length] at bound
      have found' := List.getElem?_eq_getElem bound
      have hosts := hosted.hosts place before _ found found'
      obtain ⟨blocks, reached⟩ := inUse before (List.mem_of_getElem? found)
      rw [found', Option.map_some, Option.map_some, hosts.detector, hosts.size_eq reached]

/-- Where no block of the call is open, the counts are those of its start. -/
theorem Hosted.openCounts_eq_start (hosted : Hosted start.stations moment) (inUse : start.InUse)
    (finished : moment.inside = []) : moment.openCounts = start.openCounts := by
  rw [hosted.openCounts_eq inUse, Analyzer.openCounts]
  apply List.ext_getElem?
  intro place
  simp [insideAt, finished]

theorem Hosted.inUse (hosted : Hosted start.stations moment) (inUse : start.InUse)
    (config : Config) : (Analyzer.mk config moment.stations).InUse := by
  intro station member
  obtain ⟨place, found⟩ := List.getElem?_of_mem member
  have bound := (List.getElem?_eq_some_iff.mp found).1
  rw [hosted.length] at bound
  have found' := List.getElem?_eq_getElem bound
  obtain ⟨blocks, reached⟩ := inUse _ (List.mem_of_getElem? found')
  exact ⟨_, reached.trans ((hosted.hosts place _ station found' found).runs blocks)⟩

end Moment

/-- A call that raises has the error of one of its documents. -/
theorem Ends.exists_cause {start : Analyzer} {options : AnalysisOptions}
    {documents : List Document} {moment : Moment} {fault : AnalysisError}
    (ends : Ends start options documents moment (.error fault)) :
    ∃ document ∈ documents, ∃ cause,
      (start.analyzeFile options document).2.outcome = .error cause ∧
        (cause = fault ∨
          ∃ name name', cause = .interrupted name ∧ fault = .interrupted name') := by
  cases ends with
  | raises listed fails => exact ⟨_, List.mem_of_getElem? listed, _, fails, .inl rfl⟩
  | @interrupted _ _ document config vocabulary station name listed reaches found applied left =>
      refine ⟨document, List.mem_of_getElem? listed, ?_⟩
      have listed' : .error (.interrupt name) ∈ start.stations.flatMap
          (outcomesAt (appliesTo config options document) vocabulary document) := by
        refine List.mem_flatMap.mpr ⟨station, List.mem_of_getElem? found, ?_⟩
        rw [outcomesAt, if_pos applied, left]
        exact List.mem_singleton_self _
      obtain ⟨name', first⟩ : ∃ name', (start.stations.flatMap
          (outcomesAt (appliesTo config options document) vocabulary document)).findSome?
            interruptOf? = some name' :=
        Option.isSome_iff_exists.mp (List.findSome?_isSome_iff.mpr ⟨_, listed', rfl⟩)
      refine ⟨.interrupted name', ?_, .inr ⟨name', name, rfl, rfl⟩⟩
      rw [reaches.outcome_eq_gather, gather_of_interrupted first]
      rfl

theorem accounts_of_runs {start : Analyzer} (inUse : start.InUse) (options : AnalysisOptions)
    (documents : List Document) {moment : Moment}
    (during : Moment.Runs ⟨start.stations, start.visits options documents, []⟩ moment) :
    Accounts start options documents moment := by
  have hosted : moment.Hosted start.stations :=
    (Moment.hosted_start fun _ member => (placed_of_mem_visits member).1).runs during
  refine ⟨hosted.openCounts_eq inUse, ?_, ?_, fun _ => Ends.exists_cause, hosted.exists_over, ?_⟩
  · rintro results (⟨finished, each⟩)
    refine ⟨hosted.openCounts_eq_start inUse ?_, (analyzeFiles_outcome ..).trans each⟩
    exact List.map_eq_nil_iff.mp (List.append_eq_nil_iff.mp finished).2
  · intro single fault answered ends
    cases ends with
    | interrupted => exact absurd (.inr ⟨_, rfl⟩) answered
    | @raises task document _ listed _ _ finished =>
        -- Every visit is one to the only document, whose visits are over.
        refine hosted.openCounts_eq_start inUse (List.eq_nil_iff_forall_not_mem.mpr ?_)
        intro stay member
        have remains : stay.visit ∈ moment.remaining :=
          List.mem_append_right _ (List.mem_map_of_mem member)
        have visited : stay.visit ∈ start.visits options documents := by
          simpa [Moment.remaining] using during.remaining_subset remains
        have place := (placed_of_mem_visits visited).2
        have bound := (List.getElem?_eq_some_iff.mp listed).1
        exact finished _ remains (by omega)
  · intro final windsUp
    have later := hosted.windsUp windsUp
    exact ⟨later.openCounts_eq_start inUse windsUp.finished, later.inUse inUse start.config⟩

/-- A source with the name of a script. -/
def scriptSource (text : List Char) : Source := ⟨"src/a.js", .javascript, text, Source.emptyTree⟩

theorem ofDocument?_script (text : List Char) :
    Source.ofDocument? ⟨"src/a.js", text, none⟩ = some (scriptSource text) := by
  have known : Grammar.ofPath? "src/a.js" = some .javascript := by decide +kernel
  rw [Source.ofDocument?, known]
  rfl

/-- Of two clients that opened one path, the first left by an error. -/
def abandoned : Floor := ⟨⟨2, [(1, scriptSource ['b'])]⟩, [⟨1, 1, scriptSource ['b']⟩]⟩

theorem runs_abandoned : Floor.vacant.Runs abandoned := by
  have first := Floor.Step.opens 0 (ofDocument?_script ['a']) .vacant
  have second := Floor.Step.opens 1 (ofDocument?_script ['b'])
    ⟨⟨1, [(0, scriptSource ['a'])]⟩, [⟨0, 0, scriptSource ['a']⟩]⟩
  have raised := Floor.Step.leaves (.raised (.other "gone"))
    ⟨2, [(1, scriptSource ['b']), (0, scriptSource ['a'])]⟩
    [⟨1, 1, scriptSource ['b']⟩] ⟨0, 0, scriptSource ['a']⟩ []
  exact ((Relation.ReflTransGen.single first).tail second).tail raised

/-- A detector in whose workspace another client has a source open. -/
def sharedAnalyzer : Analyzer :=
  ⟨.standard, [⟨steadyDetector "sound" (.ok []), abandoned.workspace⟩]⟩

theorem sharedAnalyzer_inUse : sharedAnalyzer.InUse := by
  intro station member
  rw [List.mem_singleton.mp member]
  exact ⟨abandoned.blocks, runs_abandoned⟩

/-- Some notes, which no detector looks at, and a script. -/
def notesAndScript : List Document := [⟨"notes.md", [], none⟩, ⟨"src/a.js", [], none⟩]

/-- The visit to the script. -/
def scriptVisit : Visit := ⟨1, 0, ⟨"src/a.js", [], none⟩⟩

/-- The script is open. -/
def scriptOpen : Moment :=
  ⟨[⟨steadyDetector "sound" (.ok []), (abandoned.workspace.opened (scriptSource [])).2⟩], [],
    [⟨scriptVisit, .opening 1 abandoned.workspace (scriptSource [])⟩]⟩

theorem visits_notesAndScript :
    sharedAnalyzer.visits { minSeverity := some "loud" } notesAndScript = [scriptVisit] := by
  have notes : sharedAnalyzer.placesFor { minSeverity := some "loud" } ⟨"notes.md", [], none⟩ =
      [] := by decide +kernel
  have script : sharedAnalyzer.placesFor { minSeverity := some "loud" } ⟨"src/a.js", [], none⟩ =
      [0] := by decide +kernel
  simp [visits, visitsOf, notesAndScript, notes, script, scriptVisit]

theorem runs_scriptOpen : Moment.Runs ⟨sharedAnalyzer.stations, [scriptVisit], []⟩ scriptOpen := by
  have found : sharedAnalyzer.stations[scriptVisit.place]? =
      some ⟨steadyDetector "sound" (.ok []), abandoned.workspace⟩ := rfl
  have step : Moment.Step ⟨sharedAnalyzer.stations, [] ++ scriptVisit :: [], []⟩ _ :=
    .opens found (ofDocument?_script [])
  exact .single step

end Analyzer
end Hazard
