import Hazard.Proofs.Detect.Extension
import Hazard.Proofs.Syntax.Ancestry
import Mathlib.Data.Set.Card

/-!
# Awaits that belong to a function

An async function is reported for the awaits in its body that no `try` protects.  An await belongs to
the nearest function above it, and the walk of a body enters no function below the body.  The body
itself it does enter: where the body is a function, the awaits of that function are counted for the
outer one as well.  Otherwise the count is that of the function's own awaits.
-/

namespace Hazard
namespace ErrorHandling

/-- The node is the block that a `try` protects. -/
def IsTryBlock (site : Site) : Prop :=
  ∃ statement : Site, statement.kind = "try_statement" ∧ statement.child? "body" = some site

/-- An await in the body that belongs to the owner and that no `try` in the body protects. -/
structure Exposed (owner body await : Site) : Prop where
  /-- It lies in the body. -/
  inBody : body.Reaches await
  /-- It is an await. -/
  kind : await.kind = "await_expression"
  /-- The nearest function around it is the owner. -/
  owned : await.enclosingFunction = some owner
  /-- No block of a `try` in the body lies around it. -/
  unprotected : ∀ node : Site, body.Reaches node → node.Reaches await → ¬ IsTryBlock node

/-- How many awaits a function is reported for. -/
def awaitCount (function : Site) : Nat :=
  if function.isFunction && function.isAsync then
    ((function.child? "body").map fun body => (unprotectedAwaits body).length).getD 0
  else 0

/-- The functions that are reported, each with the number of awaits that its record tells. -/
def reported (source : Source) : List (Site × Nat) :=
  (source.walk.filter (0 < awaitCount ·)).map fun function => (function, awaitCount function)

/-- The function is reported once for the awaits that are its own, if there are any. -/
def ReportsOwn (source : Source) (function body : Site) : Prop :=
  ∀ count, (function, count) ∈ reported source ↔
    0 < count ∧ {await | Exposed function body await}.ncard = count

/-- The function whose awaits are counted for a function with the body. -/
def countedFor (function body : Site) : Site := if body.isFunction then body else function

/-! ## One body -/

section

variable {source : Source} {function body await : Site}

theorem owner?_body (isFunction : function.isFunction = true)
    (held : function.child? "body" = some body) :
    body.owner? = some (countedFor function body) := by
  rw [countedFor]
  split
  · rename_i nested
    exact Site.owner?_of_function nested
  · rename_i plain
    rw [Site.owner?_of_plain (Bool.eq_false_iff.mpr plain),
      Site.enclosingFunction_of_isParent (Site.isParent_of_child? held),
      Site.owner?_of_function isFunction]

theorem isFunction_of_kind {site : Site} {kind : String} (same : site.kind = kind)
    (other : kind ∉ Tree.functionKinds) : site.isFunction = false := by
  subst same
  rw [Site.isFunction, Tree.isFunction, Bool.and_eq_false_iff]
  right
  rw [← Bool.not_eq_true, List.contains_iff_mem]
  exact other

theorem mem_protectedBlocks_iff {nodes : List Site} {block : Site} :
    block ∈ protectedBlocks nodes ↔
      ∃ statement ∈ nodes, statement.kind = "try_statement" ∧
        statement.child? "body" = some block := by
  simp only [protectedBlocks, List.mem_filterMap, Option.ite_none_right_eq_some, beq_iff_eq]

/-- An await of the walk is protected if a block of a `try` lies on its way up to the body. -/
theorem any_isWithin_iff (distinct : source.tree.Distinct) (listed : function ∈ source.walk)
    (isFunction : function.isFunction = true) (held : function.child? "body" = some body)
    (member : await ∈ ownNodes body) :
    (protectedBlocks (ownNodes body)).any await.isWithin = true ↔
      ∃ node : Site, body.Reaches node ∧ node.Reaches await ∧ IsTryBlock node := by
  have bodyListed := Source.mem_walk_of_isParent listed (Site.isParent_of_child? held)
  have path := Site.mem_walkUnless_iff.mp member
  have reaches := (Site.mem_walkUnless_isFunction_iff.mp member).1
  have awaitListed := Source.mem_walk_of_reaches bodyListed reaches
  rw [List.any_eq_true]
  constructor
  · rintro ⟨block, chosen, within⟩
    obtain ⟨statement, own, kind, blockHeld⟩ := mem_protectedBlocks_iff.mp chosen
    have down := (Site.mem_walkUnless_isFunction_iff.mp own).1
    have blockReached : body.Reaches block := .tail down (Site.isParent_of_child? blockHeld)
    have blockListed := Source.mem_walk_of_reaches bodyListed blockReached
    exact ⟨block, blockReached, (Source.isWithin_iff distinct awaitListed blockListed).mp within,
      statement, kind, blockHeld⟩
  · rintro ⟨block, down, up, statement, kind, blockHeld⟩
    have isParent := Site.isParent_of_child? blockHeld
    have blockListed := Source.mem_walk_of_reaches bodyListed down
    refine ⟨block, mem_protectedBlocks_iff.mpr ⟨statement, ?_, kind, blockHeld⟩,
      (Source.isWithin_iff distinct awaitListed blockListed).mpr up⟩
    rcases (Site.reaches_iff_of_isParent isParent).mp down with rfl | above
    · -- The body stands under the function, which is no `try`.
      rw [isParent.unique (Site.isParent_of_child? held)] at kind
      rw [isFunction_of_kind kind (by decide)] at isFunction
      contradiction
    · exact Site.mem_walkUnless_iff.mpr
        (Site.enters_of_between path above (.head isParent up))

theorem mem_unprotectedAwaits_iff (distinct : source.tree.Distinct)
    (listed : function ∈ source.walk) (isFunction : function.isFunction = true)
    (held : function.child? "body" = some body) :
    await ∈ unprotectedAwaits body ↔ Exposed (countedFor function body) body await := by
  have owner := owner?_body isFunction held
  rw [unprotectedAwaits, List.mem_filter, Bool.and_eq_true, Bool.not_eq_true', beq_iff_eq]
  constructor
  · rintro ⟨member, kind, free⟩
    obtain ⟨reaches, same⟩ := Site.mem_walkUnless_isFunction_iff.mp member
    rw [Site.owner?_of_plain (isFunction_of_kind kind (by decide)), owner] at same
    refine ⟨reaches, kind, same, fun node down up block => ?_⟩
    have inside := (any_isWithin_iff distinct listed isFunction held member).mpr
      ⟨node, down, up, block⟩
    rw [free] at inside
    contradiction
  · rintro ⟨reaches, kind, same, free⟩
    have member : await ∈ ownNodes body := by
      refine Site.mem_walkUnless_isFunction_iff.mpr ⟨reaches, ?_⟩
      rw [Site.owner?_of_plain (isFunction_of_kind kind (by decide)), same, owner]
    refine ⟨member, kind, Bool.eq_false_iff.mpr fun inside => ?_⟩
    obtain ⟨node, down, up, block⟩ :=
      (any_isWithin_iff distinct listed isFunction held member).mp inside
    exact free node down up block

theorem nodup_unprotectedAwaits (distinct : source.tree.Distinct) (listed : body ∈ source.walk) :
    (unprotectedAwaits body).Nodup := by
  have own : (ownNodes body).Sublist body.walk :=
    Site.walkTreeUnless_sublist _ body.above body.tree
  exact ((Source.nodup_walk_of_mem distinct listed).sublist own).filter _

theorem ncard_exposed (distinct : source.tree.Distinct) (listed : function ∈ source.walk)
    (isFunction : function.isFunction = true) (held : function.child? "body" = some body) :
    {await | Exposed (countedFor function body) body await}.ncard =
      (unprotectedAwaits body).length := by
  classical
  have bodyListed := Source.mem_walk_of_isParent listed (Site.isParent_of_child? held)
  have same : {await | Exposed (countedFor function body) body await} =
      ((unprotectedAwaits body).toFinset : Set Site) := by
    ext await
    rw [List.coe_toFinset]
    exact (mem_unprotectedAwaits_iff distinct listed isFunction held).symm
  rw [same, Set.ncard_coe_finset,
    List.toFinset_card_of_nodup (nodup_unprotectedAwaits distinct bodyListed)]

/-- Nothing in a body that is a function belongs to the function around it. -/
theorem not_exposed_of_nested (nested : body.isFunction = true)
    (held : function.child? "body" = some body) : ¬ Exposed function body await := by
  rintro ⟨reaches, kind, owned, -⟩
  have plain := isFunction_of_kind kind (by decide)
  obtain ⟨owner, owner_eq, below⟩ := Site.exists_owner? nested reaches
  rw [Site.owner?_of_plain plain, owned] at owner_eq
  obtain rfl := Option.some.inj owner_eq
  have deeper := Site.depth_of_isParent (Site.isParent_of_child? held)
  have notDeeper := below.depth_le
  omega

theorem exposed_eq_empty (nested : body.isFunction = true)
    (held : function.child? "body" = some body) : {await | Exposed function body await} = ∅ :=
  Set.eq_empty_of_forall_notMem fun _ => not_exposed_of_nested nested held

end

/-! ## All functions -/

section

variable {source : Source} {function body : Site} {count : Nat}

theorem mem_reported_iff :
    (function, count) ∈ reported source ↔
      function ∈ source.walk ∧ 0 < count ∧ awaitCount function = count := by
  simp only [reported, List.mem_map, List.mem_filter, decide_eq_true_eq, Prod.mk.injEq]
  constructor
  · rintro ⟨_, ⟨listed, positive⟩, rfl, rfl⟩
    exact ⟨listed, positive, rfl⟩
  · rintro ⟨listed, positive, rfl⟩
    exact ⟨function, ⟨listed, positive⟩, rfl, rfl⟩

theorem nodup_reported (distinct : source.tree.Distinct) :
    ((reported source).map Prod.fst).Nodup := by
  have functions : (reported source).map Prod.fst = source.walk.filter (0 < awaitCount ·) := by
    rw [reported, List.map_map]
    exact List.map_id _
  rw [functions]
  exact (Source.nodup_walk distinct).filter _

theorem awaitCount_of_async (isFunction : function.isFunction = true)
    (isAsync : function.isAsync = true) (held : function.child? "body" = some body) :
    awaitCount function = (unprotectedAwaits body).length := by
  rw [awaitCount, isFunction, isAsync, held]
  rfl

/-- The report is about the function's own awaits unless its body is a function that has some. -/
theorem reportsOwn_iff (distinct : source.tree.Distinct) (listed : function ∈ source.walk)
    (isFunction : function.isFunction = true) (isAsync : function.isAsync = true)
    (held : function.child? "body" = some body) :
    ReportsOwn source function body ↔
      (body.isFunction = true → ∀ await, ¬ Exposed body body await) := by
  have counted := awaitCount_of_async isFunction isAsync held
  have size := ncard_exposed distinct listed isFunction held
  have members (await : Site) : await ∈ unprotectedAwaits body ↔
      Exposed (countedFor function body) body await :=
    mem_unprotectedAwaits_iff distinct listed isFunction held
  rw [ReportsOwn]
  simp only [mem_reported_iff, listed, true_and, counted]
  cases nested : body.isFunction with
  | false =>
      have same : countedFor function body = function := by simp [countedFor, nested]
      rw [same] at size
      simp [size]
  | true =>
      have same : countedFor function body = body := if_pos nested
      rw [same] at members
      simp only [exposed_eq_empty nested held, Set.ncard_empty, ← members, forall_const,
        ← List.eq_nil_iff_forall_not_mem]
      constructor
      · intro agree
        by_contra some
        have positive := List.length_pos_iff.mpr some
        exact positive.ne ((agree _).mp ⟨positive, rfl⟩).2
      · rintro nothing count
        rw [nothing]
        rfl

theorem boundary?_eq (source : Source) (site : Site) :
    boundary? source site =
      if 0 < awaitCount site then some (boundaryDraft source site (awaitCount site)) else none := by
  rw [boundary?, awaitCount]
  by_cases async : (site.isFunction && site.isAsync) = true
  · rw [if_pos async, if_pos async]
    cases site.child? "body" with
    | none => rfl
    | some body => cases awaits_eq : unprotectedAwaits body <;> simp [awaits_eq]
  · rw [if_neg async, if_neg async]
    rfl

theorem filterMap_boundary? (source : Source) :
    source.walk.filterMap (boundary? source) =
      (reported source).map fun report => boundaryDraft source report.1 report.2 := by
  rw [reported, List.map_map, ← List.filterMap_eq_map, List.filterMap_filter]
  refine List.filterMap_congr fun site _ => ?_
  simp [boundary?_eq]

theorem ofKind_check {vocabulary : Vocabulary} {drafts : List Draft}
    (checked : check vocabulary source = .ok drafts) :
    ofKind .missingErrorBoundary drafts =
      (reported source).map fun report => boundaryDraft source report.1 report.2 := by
  obtain rfl := eq_findings_of_check checked
  rw [findings]
  have clauses (make : Site → Option Draft) (sites : List Site)
      (others : ∀ site draft, make site = some draft → draft.kind ≠ .missingErrorBoundary) :
      ofKind .missingErrorBoundary (sites.filterMap make) = [] := by
    refine ofKind_eq_nil_of_ne fun draft mem => ?_
    obtain ⟨site, -, made⟩ := List.mem_filterMap.mp mem
    exact others site draft made
  have messages : ofKind .missingErrorBoundary (messages source vocabulary) = [] := by
    refine ofKind_eq_nil_of_ne fun draft mem => ?_
    obtain ⟨literal, -, rfl⟩ := List.mem_map.mp mem
    exact (by decide : Kind.genericErrorMessage ≠ .missingErrorBoundary)
  have boundaries : ofKind .missingErrorBoundary
      ((reported source).map fun report => boundaryDraft source report.1 report.2) =
        (reported source).map fun report => boundaryDraft source report.1 report.2 := by
    refine ofKind_eq_self fun draft mem => ?_
    obtain ⟨report, -, rfl⟩ := List.mem_map.mp mem
    rfl
  rw [ofKind_append, ofKind_append, ofKind_append, ofKind_append, messages, filterMap_boundary?,
    boundaries, clauses, clauses, clauses]
  · exact List.append_nil _
  · grind [uncaught?, bareTryDraft, finallyOnlyDraft]
  · grind [swallowed?, swallowedDraft]
  · grind [emptyCatch?, emptyCatchDraft]

/-- The record tells that so many awaits of the function are not protected. -/
structure IsBoundaryRecord (source : Source) (record : Record) (report : Site × Nat) : Prop where
  file : record.file = source.path
  startLine : record.location.startLine = source.startLine report.1
  endLine : record.location.endLine =
    min (source.endLine report.1) (source.startLine report.1 + 10)
  explanation : record.explanation = "This async function has " ++ toString report.2 ++
    " await expression(s) without error handling. " ++
    "Unhandled rejections can crash your application or cause silent failures."

theorem forall₂_isBoundaryRecord (stamps : Nat → Stamp) (vocabulary : Vocabulary)
    (source : Source) :
    ∃ records, (Detector.errorHandling stamps).examine vocabulary (.ok source) = .ok records ∧
      List.Forall₂ (IsBoundaryRecord source)
        (records.filter (·.kind == .missingErrorBoundary)) (reported source) := by
  obtain ⟨records, examined⟩ : ∃ records,
      (Detector.errorHandling stamps).examine vocabulary (.ok source) = .ok records :=
    ⟨_, Detector.errorHandling_examine stamps vocabulary source⟩
  refine ⟨records, examined, ?_⟩
  obtain ⟨drafts, checked, marked⟩ := Detector.forall₂_of_examine .missingErrorBoundary examined
  rw [ofKind_check checked, List.forall₂_map_right_iff] at marked
  refine marked.imp ?_
  rintro record report ⟨stamp, rfl⟩
  exact ⟨rfl, rfl, rfl, rfl⟩

/-- Each function that is reported has one record, which tells how many awaits of the function
counted for it are exposed in its body.  These are the function's own awaits exactly if the body is
no function with exposed awaits. -/
theorem boundaries_reportOwn_iff (distinct : source.tree.Distinct) (stamps : Nat → Stamp)
    (vocabulary : Vocabulary) :
    (∃ records, (Detector.errorHandling stamps).examine vocabulary (.ok source) = .ok records ∧
      List.Forall₂ (IsBoundaryRecord source)
        (records.filter (·.kind == .missingErrorBoundary)) (reported source)) ∧
    ((reported source).map Prod.fst).Nodup ∧
    ∀ function ∈ source.walk, function.isFunction = true → function.isAsync = true →
      ∀ body, function.child? "body" = some body →
        (∀ count, (function, count) ∈ reported source ↔
          0 < count ∧ {await | Exposed (countedFor function body) body await}.ncard = count) ∧
        (ReportsOwn source function body ↔
          (body.isFunction = true → ∀ await, ¬ Exposed body body await)) := by
  refine ⟨forall₂_isBoundaryRecord stamps vocabulary source, nodup_reported distinct, ?_⟩
  intro function listed isFunction isAsync body held
  refine ⟨fun count => ?_, reportsOwn_iff distinct listed isFunction isAsync held⟩
  rw [mem_reported_iff, ncard_exposed distinct listed isFunction held,
    awaitCount_of_async isFunction isAsync held, and_iff_right listed]

end

/-- A function that awaits in the block of a `try` and in its catch clause. -/
def guardedOnce : Source where
  path := "src/a.ts"
  grammar := .typescript
  text := "async () => \x7b try \x7b await a; \x7d catch \x7b await b; \x7d \x7d;".toList
  tree :=
    .node ⟨0, "program", "", true, ⟨0, 52⟩⟩
      [.node ⟨1, "expression_statement", "", true, ⟨0, 52⟩⟩
        [.node ⟨2, "arrow_function", "", true, ⟨0, 51⟩⟩
          [.node ⟨3, "async", "", false, ⟨0, 5⟩⟩ [],
            .node ⟨4, "formal_parameters", "parameters", true, ⟨6, 8⟩⟩
              [.node ⟨5, "(", "", false, ⟨6, 7⟩⟩ [],
                .node ⟨6, ")", "", false, ⟨7, 8⟩⟩ []],
            .node ⟨7, "=>", "", false, ⟨9, 11⟩⟩ [],
            .node ⟨8, "statement_block", "body", true, ⟨12, 51⟩⟩
              [.node ⟨9, "\x7b", "", false, ⟨12, 13⟩⟩ [],
                .node ⟨10, "try_statement", "", true, ⟨14, 49⟩⟩
                  [.node ⟨11, "try", "", false, ⟨14, 17⟩⟩ [],
                    .node ⟨12, "statement_block", "body", true, ⟨18, 30⟩⟩
                      [.node ⟨13, "\x7b", "", false, ⟨18, 19⟩⟩ [],
                        .node ⟨14, "expression_statement", "", true, ⟨20, 28⟩⟩
                          [.node ⟨15, "await_expression", "", true, ⟨20, 27⟩⟩
                            [.node ⟨16, "await", "", false, ⟨20, 25⟩⟩ [],
                              .node ⟨17, "identifier", "", true, ⟨26, 27⟩⟩ []],
                            .node ⟨18, ";", "", false, ⟨27, 28⟩⟩ []],
                        .node ⟨19, "\x7d", "", false, ⟨29, 30⟩⟩ []],
                    .node ⟨20, "catch_clause", "handler", true, ⟨31, 49⟩⟩
                      [.node ⟨21, "catch", "", false, ⟨31, 36⟩⟩ [],
                        .node ⟨22, "statement_block", "body", true, ⟨37, 49⟩⟩
                          [.node ⟨23, "\x7b", "", false, ⟨37, 38⟩⟩ [],
                            .node ⟨24, "expression_statement", "", true, ⟨39, 47⟩⟩
                              [.node ⟨25, "await_expression", "", true, ⟨39, 46⟩⟩
                                [.node ⟨26, "await", "", false, ⟨39, 44⟩⟩ [],
                                  .node ⟨27, "identifier", "", true, ⟨45, 46⟩⟩ []],
                                .node ⟨28, ";", "", false, ⟨46, 47⟩⟩ []],
                            .node ⟨29, "\x7d", "", false, ⟨48, 49⟩⟩ []]]],
                .node ⟨30, "\x7d", "", false, ⟨50, 51⟩⟩ []]],
          .node ⟨31, ";", "", false, ⟨51, 52⟩⟩ []]]

/-- Of the two awaits, the one in the catch clause is exposed, and the function is reported for it. -/
theorem boundaries_reportOwn_guardedOnce :
    guardedOnce.tree.Distinct ∧ ∃ function body, function ∈ guardedOnce.walk ∧
      function.isAsync = true ∧ function.child? "body" = some body ∧
        (function, 1) ∈ reported guardedOnce ∧
          {await | Exposed function body await}.ncard = 1 := by
  have distinct : guardedOnce.tree.Distinct := by decide +kernel
  obtain ⟨function, listed, isFunction, isAsync, one, plain⟩ :
      ∃ function ∈ guardedOnce.walk, function.isFunction = true ∧ function.isAsync = true ∧
        awaitCount function = 1 ∧ (function.child? "body").map Site.isFunction = some false := by
    decide +kernel
  obtain ⟨body, held, plain⟩ := Option.map_eq_some_iff.mp plain
  have report := (boundaries_reportOwn_iff distinct Detector.fixedStamps Detector.oneName).2.2
    function listed isFunction isAsync body held
  have told : (function, 1) ∈ reported guardedOnce := mem_reported_iff.mpr ⟨listed, by decide, one⟩
  have own : ReportsOwn guardedOnce function body := report.2.mpr fun nested => by
    rw [plain] at nested
    contradiction
  exact ⟨distinct, function, body, listed, isAsync, held, told, ((own 1).mp told).2⟩

/-- A function whose body is another function. -/
def nestedArrow : Source where
  path := "src/a.ts"
  grammar := .typescript
  text := "async () => async () => await a();".toList
  tree :=
    .node ⟨0, "program", "", true, ⟨0, 34⟩⟩
      [.node ⟨1, "expression_statement", "", true, ⟨0, 34⟩⟩
        [.node ⟨2, "arrow_function", "", true, ⟨0, 33⟩⟩
          [.node ⟨3, "async", "", false, ⟨0, 5⟩⟩ [],
            .node ⟨4, "formal_parameters", "parameters", true, ⟨6, 8⟩⟩
              [.node ⟨5, "(", "", false, ⟨6, 7⟩⟩ [],
                .node ⟨6, ")", "", false, ⟨7, 8⟩⟩ []],
            .node ⟨7, "=>", "", false, ⟨9, 11⟩⟩ [],
            .node ⟨8, "arrow_function", "body", true, ⟨12, 33⟩⟩
              [.node ⟨9, "async", "", false, ⟨12, 17⟩⟩ [],
                .node ⟨10, "formal_parameters", "parameters", true, ⟨18, 20⟩⟩
                  [.node ⟨11, "(", "", false, ⟨18, 19⟩⟩ [],
                    .node ⟨12, ")", "", false, ⟨19, 20⟩⟩ []],
                .node ⟨13, "=>", "", false, ⟨21, 23⟩⟩ [],
                .node ⟨14, "await_expression", "body", true, ⟨24, 33⟩⟩
                  [.node ⟨15, "await", "", false, ⟨24, 29⟩⟩ [],
                    .node ⟨16, "call_expression", "", true, ⟨30, 33⟩⟩
                      [.node ⟨17, "identifier", "function", true, ⟨30, 31⟩⟩ [],
                        .node ⟨18, "arguments", "arguments", true, ⟨31, 33⟩⟩
                          [.node ⟨19, "(", "", false, ⟨31, 32⟩⟩ [],
                            .node ⟨20, ")", "", false, ⟨32, 33⟩⟩ []]]]]],
          .node ⟨21, ";", "", false, ⟨33, 34⟩⟩ []]]

/-- The outer function is reported for an await, and has none of its own. -/
theorem not_reportsOwn_nestedArrow :
    nestedArrow.tree.Distinct ∧ ∃ function body, function ∈ nestedArrow.walk ∧
      function.isFunction = true ∧ function.isAsync = true ∧
        function.child? "body" = some body ∧ (function, 1) ∈ reported nestedArrow ∧
          (∀ await, ¬ Exposed function body await) ∧ ¬ ReportsOwn nestedArrow function body := by
  have distinct : nestedArrow.tree.Distinct := by decide +kernel
  obtain ⟨function, listed, isFunction, isAsync, one, nested⟩ :
      ∃ function ∈ nestedArrow.walk, function.isFunction = true ∧ function.isAsync = true ∧
        awaitCount function = 1 ∧ (function.child? "body").map Site.isFunction = some true := by
    decide +kernel
  obtain ⟨body, held, nested⟩ := Option.map_eq_some_iff.mp nested
  have told : (function, 1) ∈ reported nestedArrow := mem_reported_iff.mpr ⟨listed, by decide, one⟩
  refine ⟨distinct, function, body, listed, isFunction, isAsync, held, told,
    fun _ => not_exposed_of_nested nested held, fun own => ?_⟩
  have size := ((own 1).mp told).2
  rw [exposed_eq_empty nested held, Set.ncard_empty] at size
  contradiction

end ErrorHandling
end Hazard
