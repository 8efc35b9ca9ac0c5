import Hazard.Proofs.Detect.Extension
import Hazard.Proofs.Regex.WholeWord
import Hazard.Proofs.Syntax.Ancestry

/-!
# Queries that are added up

Sums of which one is a part of the other form a chain.  Each chain has one topmost sum: the one that
is no part of a sum itself.  A chain is reported, once, if the text of its topmost sum has a word of
the query language that stands alone and if a name or a member of an object lies below that sum.
-/

namespace Hazard
namespace Injection

open Regex

/-- The first sum has the second as a part. -/
def Holds (outer inner : Site) : Prop :=
  isSum outer = true ∧ isSum inner = true ∧ Site.IsParent outer inner

/-- The sums belong to one chain: steps between a sum and a part lead from one to the other. -/
def SameChain : Site → Site → Prop := Relation.EqvGen Holds

/-- The first node belongs to the chain of the second, and all of the chain lies at or below it. -/
def IsTop (top site : Site) : Prop :=
  SameChain site top ∧ ∀ other, SameChain site other → top.Reaches other

/-- The node is not part of a sum as a sum. -/
def Outermost (site : Site) : Prop := ∀ outer, ¬ Holds outer site

/-- The words that tell a query. -/
def queryWords : List String :=
  ["SELECT", "INSERT", "UPDATE", "DELETE", "FROM", "WHERE", "JOIN", "AND", "OR"]

/-- The sums that are reported, in pre-order. -/
def reportedSums (source : Source) : List Site :=
  (source.ofKinds ["binary_expression"]).filter fun sum =>
    isOutermostSum sum && queryWord.occursIn (source.textOf sum) && hasVariablePart sum

/-- What a record about a sum says. -/
def sumDescription : String :=
  "SQL query built with string concatenation - potential SQL injection"

/-- The records about sums. -/
def sumRecords (records : List Record) : List Record :=
  records.filter fun record =>
    record.kind == .sqlConcatenation && record.description == sumDescription

/-- The record is about all of the lines of the sum. -/
structure ReportsSum (source : Source) (record : Record) (sum : Site) : Prop where
  file : record.file = source.path
  startLine : record.location.startLine = source.startLine sum
  endLine : record.location.endLine = source.endLine sum
  snippet : record.codeSnippet = String.ofList (Text.truncate 150 (source.textOf sum))

/-! ## Chains -/

theorem Holds.reaches {outer inner : Site} (path : Relation.ReflTransGen Holds outer inner) :
    outer.Reaches inner :=
  Relation.ReflTransGen.mono (fun _ _ holds => holds.2.2) _ _ path

/-- Climbing from part to sum ends at a node that is part of no sum. -/
theorem exists_outermost (site : Site) :
    ∃ top, Outermost top ∧ Relation.ReflTransGen Holds top site := by
  induction depth : site.above.length using Nat.strong_induction_on generalizing site with
  | h depth ih =>
      by_cases outermost : Outermost site
      · exact ⟨site, outermost, .refl⟩
      · obtain ⟨outer, holds⟩ := not_forall_not.mp outermost
        have deeper := Site.depth_of_isParent holds.2.2
        obtain ⟨top, outermost, path⟩ := ih outer.above.length (by omega) outer rfl
        exact ⟨top, outermost, path.tail holds⟩

/-- What is part of no sum leads to all of a chain or to none of it. -/
theorem leads_iff_of_sameChain {top first second : Site} (outermost : Outermost top)
    (same : SameChain first second) :
    Relation.ReflTransGen Holds top first ↔ Relation.ReflTransGen Holds top second := by
  induction same with
  | rel first second holds =>
      constructor
      · intro path
        exact path.tail holds
      · intro path
        cases path with
        | refl => exact absurd holds (outermost first)
        | tail before last => rwa [holds.2.2.unique last.2.2]
  | refl => rfl
  | symm _ _ _ ih => exact ih.symm
  | trans _ _ _ _ _ ih ih' => exact ih.trans ih'

theorem isTop_of_outermost {top site : Site} (outermost : Outermost top)
    (path : Relation.ReflTransGen Holds top site) : IsTop top site :=
  ⟨.symm _ _ (Relation.EqvGen.reflTransGen_le_eqvGen _ _ _ path), fun _ same =>
    Holds.reaches ((leads_iff_of_sameChain outermost same).mp path)⟩

theorem IsTop.unique {top top' site : Site} (isTop : IsTop top site) (isTop' : IsTop top' site) :
    top = top' :=
  (isTop.2 top' isTop'.1).antisymm (isTop'.2 top isTop.1)

theorem isTop_self_iff {site : Site} : IsTop site site ↔ Outermost site := by
  constructor
  · intro isTop outer holds
    have below := (isTop.2 outer (.symm _ _ (.rel _ _ holds))).depth_le
    have deeper := Site.depth_of_isParent holds.2.2
    omega
  · intro outermost
    exact isTop_of_outermost outermost .refl

theorem isSum_of_leads {top site : Site} (path : Relation.ReflTransGen Holds top site)
    (sum : isSum site = true) : isSum top = true := by
  rcases path.cases_head with rfl | ⟨_, holds, -⟩
  · exact sum
  · exact holds.1

variable {source : Source}

/-- A chain has one topmost sum. -/
theorem existsUnique_isTop {sum : Site} (listed : sum ∈ source.walk) (isSum_sum : isSum sum = true) :
    ∃! top, top ∈ source.walk ∧ isSum top = true ∧ IsTop top sum := by
  obtain ⟨top, outermost, path⟩ := exists_outermost sum
  have isTop := isTop_of_outermost outermost path
  have above := (Source.mem_walk_iff.mp listed).root_reaches (Holds.reaches path)
  refine ⟨top, ⟨Source.mem_walk_iff.mpr above, isSum_of_leads path isSum_sum, isTop⟩, ?_⟩
  rintro other ⟨-, -, isTop'⟩
  exact isTop'.unique isTop

/-! ## Reports -/

theorem isOutermostSum_iff {sum : Site} (listed : sum ∈ source.walk) :
    isOutermostSum sum = true ↔ isSum sum = true ∧ IsTop sum sum := by
  rw [isTop_self_iff, isOutermostSum, Bool.and_eq_true, Bool.not_eq_true']
  refine and_congr_right fun isSum_sum => ?_
  rw [← Bool.not_eq_true, Option.any_eq_true]
  simp only [Source.parent?_eq_some_iff listed]
  constructor
  · rintro free outer ⟨isSum_outer, -, isParent⟩
    exact free ⟨outer, isParent, isSum_outer⟩
  · rintro outermost ⟨outer, isParent, isSum_outer⟩
    exact outermost outer ⟨isSum_outer, isSum_sum, isParent⟩

theorem hasVariablePart_iff {sum : Site} :
    hasVariablePart sum = true ↔ ∃ part, Relation.TransGen Site.IsParent sum part ∧
      (part.kind = "identifier" ∨ part.kind = "member_expression") := by
  rw [hasVariablePart, Bool.not_eq_true', List.isEmpty_eq_false_iff_exists_mem]
  simp [Site.descendants, Site.mem_below_iff]

theorem occursIn_queryWord_iff {text : List Char} :
    queryWord.occursIn text = true ↔ StandsAlone queryWords text :=
  occursIn_standing_iff (by decide +kernel) (by decide)

theorem mem_reportedSums_iff {sum : Site} :
    sum ∈ reportedSums source ↔ sum ∈ source.walk ∧ isSum sum = true ∧ IsTop sum sum ∧
      StandsAlone queryWords (source.textOf sum) ∧
        ∃ part, Relation.TransGen Site.IsParent sum part ∧
          (part.kind = "identifier" ∨ part.kind = "member_expression") := by
  rw [reportedSums, Source.ofKinds, List.filter_filter, List.mem_filter]
  refine and_congr_right fun listed => ?_
  simp only [Bool.and_eq_true, isOutermostSum_iff listed, occursIn_queryWord_iff,
    hasVariablePart_iff, and_assoc]
  refine and_congr_right fun isSum_sum => and_congr_right fun _ => and_congr_right fun _ => ?_
  obtain ⟨kind, -⟩ := Bool.and_eq_true_iff.mp isSum_sum
  rw [beq_iff_eq.mp kind]
  exact and_iff_left (by decide)

theorem reportedSums_sublist (source : Source) : (reportedSums source).Sublist source.walk :=
  List.filter_sublist.trans List.filter_sublist

/-- No two sums that are reported belong to one chain. -/
theorem pairwise_reportedSums (distinct : source.tree.Distinct) :
    (reportedSums source).Pairwise fun first second => ¬ SameChain first second := by
  have nodup := (Source.nodup_walk distinct).sublist (reportedSums_sublist source)
  refine nodup.imp_of_mem fun {first second} member member' differs same => differs ?_
  obtain ⟨-, -, isTop, -⟩ := mem_reportedSums_iff.mp member
  obtain ⟨-, -, isTop', -⟩ := mem_reportedSums_iff.mp member'
  exact (isTop.2 second same).antisymm (isTop'.2 first (.symm _ _ same))

/-- The finding is about a sum. -/
def tellsSum (draft : Draft) : Bool :=
  draft.kind == .sqlConcatenation && draft.description == sumDescription

theorem filter_tellsSum_eq_nil {drafts : List Draft} (others : ∀ draft ∈ drafts,
    draft.kind ≠ .sqlConcatenation ∨ draft.description ≠ sumDescription) :
    drafts.filter tellsSum = [] := by
  rw [List.filter_eq_nil_iff]
  intro draft member both
  simp only [tellsSum, Bool.and_eq_true, beq_iff_eq] at both
  exact (others draft member).elim (· both.1) (· both.2)

/-- Of the findings of the detector, those of the scan for sums are about sums. -/
theorem filter_tellsSum (vocabulary : Vocabulary) (source : Source) :
    (Secret.check vocabulary source ++ check source).filter tellsSum =
      (reportedSums source).map (sumDraft source) := by
  have secrets : (Secret.check vocabulary source).filter tellsSum = [] := by
    refine filter_tellsSum_eq_nil fun draft member => .inl ?_
    rw [Secret.kind_of_mem_check member]
    decide
  have templates : (templates source).filter tellsSum = [] := by
    refine filter_tellsSum_eq_nil fun draft member => .inr ?_
    obtain ⟨template, -, rfl⟩ := List.mem_map.mp member
    have differs : "SQL query with string interpolation - potential SQL injection" ≠
        sumDescription := by decide
    exact differs
  have evaluations : (evaluations source).filter tellsSum = [] := by
    refine filter_tellsSum_eq_nil fun draft member => .inl ?_
    grind [Injection.evaluations, evaluation?, evaluationDraft, constructorDraft, timerDraft]
  have randoms : (randomNumbers source).filter tellsSum = [] := by
    refine filter_tellsSum_eq_nil fun draft member => .inl ?_
    grind [randomNumbers, random?, randomDraft]
  have own : (sums source).filter tellsSum = sums source := by
    rw [List.filter_eq_self]
    intro draft member
    obtain ⟨sum, -, rfl⟩ := List.mem_map.mp member
    rfl
  rw [check, List.filter_append, List.filter_append, List.filter_append, List.filter_append,
    secrets, templates, evaluations, randoms, own, List.nil_append, List.nil_append,
    List.append_nil, List.append_nil]
  rfl

theorem forall₂_reportsSum (stamps : Nat → Stamp) (vocabulary : Vocabulary) (source : Source) :
    ∃ records, (Detector.security stamps).examine vocabulary (.ok source) = .ok records ∧
      List.Forall₂ (ReportsSum source) (sumRecords records) (reportedSums source) := by
  refine ⟨_, Detector.security_examine stamps vocabulary source, ?_⟩
  have marked := Detector.forall₂_marked "security" source.path stamps
    (Secret.check vocabulary source ++ check source)
  have sums : List.Forall₂ _ (sumRecords _) (List.filter tellsSum _) :=
    Detector.forall₂_filter marked fun _ _ => rfl
  rw [filter_tellsSum, List.forall₂_map_right_iff] at sums
  refine sums.imp ?_
  rintro record sum ⟨stamp, rfl⟩
  exact ⟨rfl, rfl, rfl, rfl⟩

/-- Each chain of sums has one topmost sum.  The records about sums are those of the topmost sums, in
pre-order, whose text has a word of the query language that stands alone and below which there is a
name or a member, so no two of them are about one chain. -/
theorem sums_reportedPerChain (stamps : Nat → Stamp) (vocabulary : Vocabulary) (source : Source) :
    (∀ sum ∈ source.walk, isSum sum = true →
      ∃! top, top ∈ source.walk ∧ isSum top = true ∧ IsTop top sum) ∧
    (∀ sum, sum ∈ reportedSums source ↔ sum ∈ source.walk ∧ isSum sum = true ∧ IsTop sum sum ∧
      StandsAlone queryWords (source.textOf sum) ∧
        ∃ part, Relation.TransGen Site.IsParent sum part ∧
          (part.kind = "identifier" ∨ part.kind = "member_expression")) ∧
    (reportedSums source).Sublist source.walk ∧
    (source.tree.Distinct →
      (reportedSums source).Pairwise fun first second => ¬ SameChain first second) ∧
    ∃ records, (Detector.security stamps).examine vocabulary (.ok source) = .ok records ∧
      List.Forall₂ (ReportsSum source) (sumRecords records) (reportedSums source) :=
  ⟨fun _ => existsUnique_isTop, fun _ => mem_reportedSums_iff, reportedSums_sublist source,
    pairwise_reportedSums, forall₂_reportsSum stamps vocabulary source⟩

/-- A sum of three, with a sum of two as an argument of a call in it. -/
def twoChains : Source where
  path := "src/a.js"
  grammar := .javascript
  text := "\"SELECT \" + a + f(\"FROM \" + b);".toList
  tree :=
    .node ⟨0, "program", "", true, ⟨0, 31⟩⟩
      [.node ⟨1, "expression_statement", "", true, ⟨0, 31⟩⟩
        [.node ⟨2, "binary_expression", "", true, ⟨0, 30⟩⟩
          [.node ⟨3, "binary_expression", "left", true, ⟨0, 13⟩⟩
              [.node ⟨4, "string", "left", true, ⟨0, 9⟩⟩
                  [.node ⟨5, "\"", "", false, ⟨0, 1⟩⟩ [],
                    .node ⟨6, "string_fragment", "", true, ⟨1, 8⟩⟩ [],
                    .node ⟨7, "\"", "", false, ⟨8, 9⟩⟩ []],
                .node ⟨8, "+", "operator", false, ⟨10, 11⟩⟩ [],
                .node ⟨9, "identifier", "right", true, ⟨12, 13⟩⟩ []],
            .node ⟨10, "+", "operator", false, ⟨14, 15⟩⟩ [],
            .node ⟨11, "call_expression", "right", true, ⟨16, 30⟩⟩
              [.node ⟨12, "identifier", "function", true, ⟨16, 17⟩⟩ [],
                .node ⟨13, "arguments", "arguments", true, ⟨17, 30⟩⟩
                  [.node ⟨14, "(", "", false, ⟨17, 18⟩⟩ [],
                    .node ⟨15, "binary_expression", "", true, ⟨18, 29⟩⟩
                      [.node ⟨16, "string", "left", true, ⟨18, 25⟩⟩
                          [.node ⟨17, "\"", "", false, ⟨18, 19⟩⟩ [],
                            .node ⟨18, "string_fragment", "", true, ⟨19, 24⟩⟩ [],
                            .node ⟨19, "\"", "", false, ⟨24, 25⟩⟩ []],
                        .node ⟨20, "+", "operator", false, ⟨26, 27⟩⟩ [],
                        .node ⟨21, "identifier", "right", true, ⟨28, 29⟩⟩ []],
                    .node ⟨22, ")", "", false, ⟨29, 30⟩⟩ []]]],
          .node ⟨23, ";", "", false, ⟨30, 31⟩⟩ []]]

/-- The whole sum and the one in the call are reported, the first two summands are not. -/
theorem sums_reportedPerChain_twoChains :
    twoChains.tree.Distinct ∧ (reportedSums twoChains).map Site.span = [⟨0, 30⟩, ⟨18, 29⟩] ∧
      ((reportedSums twoChains).Pairwise fun first second => ¬ SameChain first second) ∧
        ∃ sum ∈ twoChains.walk, isSum sum = true ∧ sum ∉ reportedSums twoChains ∧
          ∃! top, top ∈ twoChains.walk ∧ isSum top = true ∧ IsTop top sum := by
  have distinct : twoChains.tree.Distinct := by decide +kernel
  have spans : (reportedSums twoChains).map Site.span = [⟨0, 30⟩, ⟨18, 29⟩] := by decide +kernel
  obtain ⟨sum, listed, isSum_sum, span⟩ :
      ∃ sum ∈ twoChains.walk, isSum sum = true ∧ sum.span = ⟨0, 13⟩ := by
    decide +kernel
  obtain ⟨tops, -, -, apart, -⟩ :=
    sums_reportedPerChain Detector.fixedStamps Detector.oneName twoChains
  refine ⟨distinct, spans, apart distinct, sum, listed, isSum_sum, fun member => ?_,
    tops sum listed isSum_sum⟩
  have shown : sum.span ∈ (reportedSums twoChains).map Site.span := List.mem_map_of_mem member
  rw [spans, span] at shown
  exact absurd shown (by decide)

end Injection
end Hazard
