import Hazard.Proofs.Detect.Extension
import Hazard.Proofs.Syntax.Ancestry
import Mathlib.Algebra.GroupWithZero.Nat
import Mathlib.Algebra.Order.BigOperators.Group.Finset

/-!
# Complexity of nested functions

The complexity of a function is one more than what its children contribute, where a tree contributes
one for its root, if that branches, and what the root's children contribute.  Functions that stand
apart inside a function contribute separately, so a function is at least as complex as each function
inside it and is reported whenever one of them is.
-/

namespace Hazard
namespace Body

/-- The root is of a kind that branches, or an operator that may leave out its right side. -/
def Branches (tree : Tree) : Prop :=
  tree.kind ∈ branchKinds ∨ tree.kind = "binary_expression" ∧
    ∃ operator, tree.child? "operator" = some operator ∧
      (operator.kind = "&&" ∨ operator.kind = "||")

theorem isBranch_iff (site : Site) : isBranch site = true ↔ Branches site.tree := by
  simp only [isBranch, Branches, Bool.or_eq_true, Bool.and_eq_true, List.contains_iff_mem,
    beq_iff_eq, Site.kind, Site.child?, Option.any_map, Option.any_eq_true, branchOperators,
    List.mem_cons, List.not_mem_nil, or_false, Site.under]

instance (tree : Tree) : Decidable (Branches tree) := decidable_of_iff _ (isBranch_iff (.root tree))

/-- What a tree contributes to the complexity of a function around it. -/
def contribution : Tree → Nat
  | .node label children =>
    (if Branches (.node label children) then 1 else 0) + (children.map contribution).sum

/-- The nodes stand apart: none of them lies below another. -/
def Apart (sites : Finset Site) : Prop :=
  (sites : Set Site).Pairwise fun first second => ¬ first.Reaches second

/-! ## Counting branches -/

theorem contribution_eq (tree : Tree) :
    contribution tree =
      (if Branches tree then 1 else 0) + (tree.children.map contribution).sum := by
  cases tree with
  | node label children =>
      rw [contribution]
      rfl

theorem countP_walk (site : Site) : site.walk.countP isBranch = contribution site.tree := by
  obtain ⟨tree, above⟩ := site
  induction tree using Tree.induction generalizing above with
  | node label children ih =>
      have counted : (children.map fun tree =>
          (Site.under ⟨.node label children, above⟩ tree).walk.countP isBranch) =
            children.map contribution :=
        List.map_congr_left fun tree member => ih tree member _
      rw [Site.walk_eq, List.countP_cons, List.countP_flatMap, contribution, Nat.add_comm,
        Site.children, List.map_map]
      simp only [isBranch_iff]
      exact congrArg _ (congrArg List.sum counted)

theorem complexity_eq (function : Site) :
    complexity function = 1 + (function.tree.children.map contribution).sum := by
  rw [complexity, ← List.countP_eq_length_filter, Site.below_eq, List.countP_flatMap, Nat.add_comm,
    Site.children, List.map_map]
  refine congrArg (1 + List.sum ·) (List.map_congr_left fun tree _ => ?_)
  exact countP_walk (function.under tree)

theorem complexity_sub_one_le (function : Site) :
    complexity function - 1 ≤ contribution function.tree := by
  rw [complexity_eq, contribution_eq]
  omega

/-! ## Nodes apart -/

theorem Apart.subset {sites fewer : Finset Site} (apart : Apart sites) (included : fewer ⊆ sites) :
    Apart fewer :=
  Set.Pairwise.mono (Finset.coe_subset.mpr included) apart

/-- Nodes below several trees are charged to the first tree that they are in. -/
theorem sum_le_of_covered {tops : List Site} {sites : Finset Site}
    (bound : ∀ top ∈ tops, ∀ part : Finset Site, Apart part → (∀ site ∈ part, top.Reaches site) →
      ∑ site ∈ part, (complexity site - 1) ≤ contribution top.tree)
    (apart : Apart sites) (covered : ∀ site ∈ sites, ∃ top ∈ tops, top.Reaches site) :
    ∑ site ∈ sites, (complexity site - 1) ≤ (tops.map (contribution ·.tree)).sum := by
  classical
  induction tops generalizing sites with
  | nil =>
      have none : sites = ∅ := by
        refine Finset.eq_empty_of_forall_notMem fun site member => ?_
        obtain ⟨top, listed, -⟩ := covered site member
        exact List.not_mem_nil listed
      rw [none, Finset.sum_empty]
      exact Nat.zero_le _
  | cons top tops ih =>
      rw [List.forall_mem_cons] at bound
      rw [List.map_cons, List.sum_cons, ← Finset.sum_filter_add_sum_filter_not sites (top.Reaches ·)]
      refine Nat.add_le_add ?_ ?_
      · exact bound.1 _ (apart.subset (Finset.filter_subset _ _)) fun site member =>
          (Finset.mem_filter.mp member).2
      · refine ih bound.2 (apart.subset (Finset.filter_subset _ _)) fun site member => ?_
        obtain ⟨member, missed⟩ := Finset.mem_filter.mp member
        obtain ⟨other, listed, reaches⟩ := covered site member
        rcases List.mem_cons.mp listed with rfl | listed
        · exact absurd reaches missed
        · exact ⟨other, listed, reaches⟩

theorem sum_le_contribution (top : Site) {sites : Finset Site} (apart : Apart sites)
    (reached : ∀ site ∈ sites, top.Reaches site) :
    ∑ site ∈ sites, (complexity site - 1) ≤ contribution top.tree := by
  obtain ⟨tree, above⟩ := top
  induction tree using Tree.induction generalizing above sites with
  | node label children ih =>
      by_cases included : (⟨.node label children, above⟩ : Site) ∈ sites
      · -- Everything is below the top, so nothing else stands apart from it.
        have alone : sites = {⟨.node label children, above⟩} := by
          refine Finset.eq_singleton_iff_unique_mem.mpr ⟨included, fun site member => ?_⟩
          by_contra differs
          exact apart included member (Ne.symm differs) (reached site member)
        rw [alone, Finset.sum_singleton]
        exact complexity_sub_one_le _
      · have covered : ∀ site ∈ sites, ∃ child ∈ Site.children ⟨.node label children, above⟩,
            child.Reaches site := by
          intro site member
          rcases (reached site member).cases_head with same | ⟨child, isParent, reaches⟩
          · exact absurd (same ▸ member) included
          · exact ⟨child, isParent, reaches⟩
        have charged := sum_le_of_covered (fun child listed part apart reached => by
          obtain ⟨tree, held, rfl⟩ := List.mem_map.mp listed
          exact ih tree held apart _ reached) apart covered
        rw [contribution]
        rw [Site.children, List.map_map] at charged
        exact charged.trans (Nat.le_add_left _ _)

/-- What functions inside a function have in branches, the function has as well. -/
theorem sum_le_complexity {outer : Site} {inner : Finset Site} (apart : Apart inner)
    (inside : ∀ site ∈ inner, Relation.TransGen Site.IsParent outer site) :
    ∑ site ∈ inner, (complexity site - 1) ≤ complexity outer - 1 := by
  have covered : ∀ site ∈ inner, ∃ child ∈ outer.children, child.Reaches site := fun site member =>
    Relation.TransGen.head'_iff.mp (inside site member)
  have charged := sum_le_of_covered (fun child _ _ => sum_le_contribution child) apart covered
  rw [Site.children, List.map_map] at charged
  rw [complexity_eq, Nat.add_sub_cancel_left]
  exact charged

theorem complexity_le {outer inner : Site} (inside : Relation.TransGen Site.IsParent outer inner) :
    complexity inner ≤ complexity outer := by
  have bound : ∑ site ∈ {inner}, (complexity site - 1) ≤ complexity outer - 1 :=
    sum_le_complexity (by simp [Apart]) (by simpa using inside)
  rw [Finset.sum_singleton] at bound
  have positive := complexity_eq outer
  omega

/-! ## Reports -/

/-- The functions that are looked at and found too complex, in pre-order. -/
def tooComplex (source : Source) : List Site :=
  (source.ofKinds inspectedKinds).filter (complexityLimit < complexity ·)

/-- The record tells that the function is too complex. -/
structure ReportsComplexity (source : Source) (record : Record) (function : Site) : Prop where
  file : record.file = source.path
  startLine : record.location.startLine = source.startLine function
  endLine : record.location.endLine = source.endLine function
  severity : record.severity = if 20 < complexity function then .critical else .warning
  description : record.description = "Function" ++ String.ofList (source.functionTag function) ++
    " has cyclomatic complexity of " ++ toString (complexity function)

theorem mem_tooComplex_iff {source : Source} {function : Site} :
    function ∈ tooComplex source ↔
      function ∈ source.ofKinds inspectedKinds ∧ 10 < complexity function := by
  rw [tooComplex, List.mem_filter, decide_eq_true_eq]
  rfl

theorem ReportsComplexity.rank_le {source : Source} {record record' : Record} {inner outer : Site}
    (reports : ReportsComplexity source record inner)
    (reports' : ReportsComplexity source record' outer)
    (simpler : complexity inner ≤ complexity outer) :
    record.severity.rank ≤ record'.severity.rank := by
  rw [reports.severity, reports'.severity]
  split
  · rw [if_pos (by omega)]
  · split <;> decide

theorem ofKind_check (source : Source) :
    ofKind .overlyComplexFunction (check source) =
      (tooComplex source).map (complexityDraft source) := by
  have complex : ofKind .overlyComplexFunction ((tooComplex source).map (complexityDraft source)) =
      (tooComplex source).map (complexityDraft source) := by
    refine ofKind_eq_self fun draft member => ?_
    obtain ⟨function, -, rfl⟩ := List.mem_map.mp member
    rfl
  have unfinished : ofKind .overlyComplexFunction
      ((source.ofKinds inspectedKinds).flatMap (placeholders source)) = [] := by
    refine ofKind_eq_nil_of_ne fun draft member => ?_
    grind [placeholders, notImplementedDraft, reminderDraft, emptyDraft]
  rw [check, ofKind_append, unfinished, List.append_nil]
  exact complex

theorem ofKind_codeQuality {source : Source} {drafts : List Draft}
    (checked : Detector.qualityCheck source = .ok drafts) :
    ofKind .overlyComplexFunction drafts = (tooComplex source).map (complexityDraft source) := by
  obtain ⟨numbers, kind, rfl⟩ := Detector.exists_numbers_of_codeQuality checked
  have magic : ofKind .overlyComplexFunction numbers = [] := ofKind_eq_nil (by decide) kind
  have remarks : ofKind .overlyComplexFunction (Remark.check source) = [] := by
    refine ofKind_eq_nil_of_ne fun draft member => ?_
    rcases List.mem_append.mp member with member | member
    · grind [Remark.reminders, Remark.reminder?, Remark.reminderDraft, mem_filterMap_mapIdx]
    · grind [Remark.commentedCode, Remark.runDrafts, Remark.runDraft, Remark.blockDraft]
  rw [ofKind_append, ofKind_append, magic, remarks, ofKind_check]
  rfl

theorem forall₂_reportsComplexity {stamps : Nat → Stamp} {vocabulary : Vocabulary}
    {source : Source} {records : List Record}
    (examined : (Detector.codeQuality stamps).examine vocabulary (.ok source) = .ok records) :
    List.Forall₂ (ReportsComplexity source) (records.filter (·.kind == .overlyComplexFunction))
      (tooComplex source) := by
  obtain ⟨drafts, checked, marked⟩ := Detector.forall₂_of_examine .overlyComplexFunction examined
  rw [ofKind_codeQuality checked, List.forall₂_map_right_iff] at marked
  refine marked.imp ?_
  rintro record function ⟨stamp, rfl⟩
  exact ⟨rfl, rfl, rfl, rfl, rfl⟩

/-- Complexity adds up over the children and is no less than what functions apart inside the
function add up to.  The reports are about the functions above the limit, in pre-order; with a
function, every inspected function around it is reported, and no less severely. -/
theorem complexity_nests (stamps : Nat → Stamp) (vocabulary : Vocabulary) (source : Source) :
    (∀ function : Site,
      complexity function = 1 + (function.tree.children.map contribution).sum) ∧
    (∀ outer inner : Site, Relation.TransGen Site.IsParent outer inner →
      complexity inner ≤ complexity outer) ∧
    (∀ (outer : Site) (inner : Finset Site), Apart inner →
      (∀ site ∈ inner, Relation.TransGen Site.IsParent outer site) →
        ∑ site ∈ inner, (complexity site - 1) ≤ complexity outer - 1) ∧
    ∀ records, (Detector.codeQuality stamps).examine vocabulary (.ok source) = .ok records →
      List.Forall₂ (ReportsComplexity source)
        (records.filter (·.kind == .overlyComplexFunction)) (tooComplex source) ∧
      (∀ function, function ∈ tooComplex source ↔
        function ∈ source.ofKinds inspectedKinds ∧ 10 < complexity function) ∧
      ∀ inner ∈ tooComplex source, ∀ outer ∈ source.ofKinds inspectedKinds,
        Relation.TransGen Site.IsParent outer inner →
          outer ∈ tooComplex source ∧
            ∀ record record', ReportsComplexity source record inner →
              ReportsComplexity source record' outer →
                record.severity.rank ≤ record'.severity.rank := by
  refine ⟨complexity_eq, fun _ _ => complexity_le, fun _ _ => sum_le_complexity, ?_⟩
  intro records examined
  refine ⟨forall₂_reportsComplexity examined, fun _ => mem_tooComplex_iff, ?_⟩
  intro inner reported outer inspected inside
  have simpler := complexity_le inside
  have limit := (mem_tooComplex_iff.mp reported).2
  refine ⟨mem_tooComplex_iff.mpr ⟨inspected, by omega⟩, fun record record' reports reports' => ?_⟩
  exact reports.rank_le reports' simpler

/-- The tree of `a && a && … && a` with so many operators, without blanks, from byte 12 on. -/
def conjunction (id : Nat) (field : String) : Nat → Tree
  | 0 => .node ⟨id, "identifier", field, true, ⟨12, 13⟩⟩ []
  | count + 1 =>
    .node ⟨id, "binary_expression", field, true, ⟨12, 16 + 3 * count⟩⟩
      [conjunction (id + 1) "left" count,
        .node ⟨id + 3 * count + 2, "&&", "operator", false, ⟨13 + 3 * count, 15 + 3 * count⟩⟩ [],
        .node ⟨id + 3 * count + 3, "identifier", "right", true, ⟨15 + 3 * count, 16 + 3 * count⟩⟩ []]

/-- A function of complexity eleven inside another one. -/
def nestedConjunction : Source where
  path := "src/a.js"
  grammar := .javascript
  text := "() => () => a&&a&&a&&a&&a&&a&&a&&a&&a&&a&&a;".toList
  tree :=
    .node ⟨0, "program", "", true, ⟨0, 44⟩⟩
      [.node ⟨1, "expression_statement", "", true, ⟨0, 44⟩⟩
        [.node ⟨2, "arrow_function", "", true, ⟨0, 43⟩⟩
          [.node ⟨3, "formal_parameters", "parameters", true, ⟨0, 2⟩⟩
              [.node ⟨4, "(", "", false, ⟨0, 1⟩⟩ [],
                .node ⟨5, ")", "", false, ⟨1, 2⟩⟩ []],
            .node ⟨6, "=>", "", false, ⟨3, 5⟩⟩ [],
            .node ⟨7, "arrow_function", "body", true, ⟨6, 43⟩⟩
              [.node ⟨8, "formal_parameters", "parameters", true, ⟨6, 8⟩⟩
                  [.node ⟨9, "(", "", false, ⟨6, 7⟩⟩ [],
                    .node ⟨10, ")", "", false, ⟨7, 8⟩⟩ []],
                .node ⟨11, "=>", "", false, ⟨9, 11⟩⟩ [],
                conjunction 12 "body" 10]],
          .node ⟨43, ";", "", false, ⟨43, 44⟩⟩ []]]

/-- Both functions are reported, the outer one because the inner one is. -/
theorem complexity_nests_conjunction :
    ∃ outer inner records,
      (Detector.codeQuality Detector.fixedStamps).examine Detector.oneName
        (.ok nestedConjunction) = .ok records ∧
      Relation.TransGen Site.IsParent outer inner ∧ complexity inner = 11 ∧
        inner ∈ tooComplex nestedConjunction ∧ outer ∈ tooComplex nestedConjunction ∧
          List.Forall₂ (ReportsComplexity nestedConjunction)
            (records.filter (·.kind == .overlyComplexFunction)) (tooComplex nestedConjunction) := by
  have noNumber : MagicNumber.check nestedConjunction = .ok [] := by decide +kernel
  obtain ⟨records, examined⟩ : ∃ records, (Detector.codeQuality Detector.fixedStamps).examine
      Detector.oneName (.ok nestedConjunction) = .ok records := by
    rw [Detector.codeQuality_examine, noNumber]
    exact ⟨_, rfl⟩
  obtain ⟨outer, inspected, inner, below, kind, eleven⟩ :
      ∃ outer ∈ nestedConjunction.ofKinds inspectedKinds, ∃ inner ∈ outer.below,
        inspectedKinds.contains inner.kind = true ∧ complexity inner = 11 := by
    decide +kernel
  have inside := Site.mem_below_iff.mp below
  have listed := Source.mem_walk_of_reaches (List.mem_of_mem_filter inspected)
    inside.to_reflTransGen
  obtain ⟨reports, limit, outward⟩ := (complexity_nests _ _ _).2.2.2 _ examined
  have reported : inner ∈ tooComplex nestedConjunction :=
    (limit inner).mpr ⟨List.mem_filter.mpr ⟨listed, kind⟩, by omega⟩
  exact ⟨outer, inner, records, examined, inside, eleven, reported,
    (outward inner reported outer inspected inside).1, reports⟩

end Body
end Hazard
