import Hazard.Proofs.Detect.Extension
import Hazard.Proofs.Syntax.Ancestry

/-!
# What is said about catch clauses

One pass looks for catch clauses without statements, another for caught errors that nobody looks at.
Together they give each clause one verdict at most, which is told by the statements of the block, by the
name of the error and by the names below the block.  Comments are no statements and hold no names, so
they may come and go at any depth without a change of the verdict.  Only the comments with slashes are
known, though: a comment as in markup counts as a statement.
-/

namespace Hazard
namespace ErrorHandling

/-- What is said about a catch clause. -/
inductive Verdict where
  /-- Its block has no statements. -/
  | empty
  /-- Nobody looks at the error of this name. -/
  | swallowed (name : List Char)
deriving DecidableEq, Repr

/-- The verdict about a catch clause. -/
def verdict? (source : Source) (clause : Site) : Option Verdict :=
  match clause.child? "body" with
  | none => none
  | some body =>
    if isEmptyBlock body then some .empty
    else match caughtName? source clause with
      | none => none
      | some name =>
        if name.isEmpty || mentions source body name then none else some (.swallowed name)

/-- All catch clauses, in pre-order. -/
def catchClauses (source : Source) : List Site := source.ofKinds ["catch_clause"]

/-- The catch clauses without statements. -/
def emptyClauses (source : Source) : List Site :=
  (catchClauses source).filter fun clause => verdict? source clause == some .empty

/-- The catch clauses that do not look at their errors, each with the name of its error. -/
def swallowingClauses (source : Source) : List (Site × List Char) :=
  (catchClauses source).filterMap fun clause =>
    match verdict? source clause with
    | some (.swallowed name) => some (clause, name)
    | _ => none

/-- What the records about empty blocks of catch clauses say. -/
def emptyDescription : String := "Empty catch block silently swallows errors"

/-- The records about empty blocks of catch clauses. -/
def emptyRecords (records : List Record) : List Record :=
  records.filter fun record =>
    record.kind == .emptyCatchBlock && record.description == emptyDescription

/-- The record is about the clause. -/
structure IsClauseRecord (source : Source) (record : Record) (clause : Site) : Prop where
  file : record.file = source.path
  startLine : record.location.startLine = source.startLine clause
  endLine : record.location.endLine = source.endLine clause
  codeSnippet : record.codeSnippet = String.ofList (source.textOf clause)

/-- The record is about the clause and tells the name of its error. -/
def IsSwallowRecord (source : Source) (record : Record) (report : Site × List Char) : Prop :=
  IsClauseRecord source record report.1 ∧
    record.description = "Caught error \"" ++ String.ofList report.2 ++ "\" is never used"

/-- A child of the block that is a statement. -/
def IsStatement (body child : Site) : Prop :=
  body.IsParent child ∧ child.named = true ∧ child.kind ≠ "comment"

/-- The kinds of comments: with slashes, and as in markup. -/
def commentKinds : List String := ["comment", "html_comment"]

/-- A child of the block that is no comment of either kind. -/
def IsContent (body child : Site) : Prop :=
  body.IsParent child ∧ child.named = true ∧ child.kind ∉ commentKinds

/-- The parameter of the clause is a plain name with this text. -/
def Catches (source : Source) (clause : Site) (name : List Char) : Prop :=
  ∃ parameter, clause.child? "parameter" = some parameter ∧
    parameter.kind = "identifier" ∧ source.textOf parameter = name

/-- Kinds of nodes that are names. -/
def nameKinds : List String := ["identifier", "shorthand_property_identifier"]

/-- Somewhere below the block the name stands. -/
def Mentions (source : Source) (body : Site) (name : List Char) : Prop :=
  ∃ node, Relation.TransGen Site.IsParent body node ∧ node.kind ∈ nameKinds ∧
    source.textOf node = name

/-! ## Verdicts -/

section

variable {source : Source} {clause body : Site} {name : List Char}

theorem isEmptyBlock_iff : isEmptyBlock body = true ↔ ∀ child, ¬ IsStatement body child := by
  rw [isEmptyBlock, List.isEmpty_iff, List.eq_nil_iff_forall_not_mem]
  refine forall_congr' fun child => not_congr ?_
  rw [Site.statements, Tree.statements, Tree.namedChildren, List.filter_filter, IsStatement,
    Site.isParent_iff]
  simp only [List.mem_map, List.mem_filter, Bool.and_eq_true, bne_iff_ne]
  constructor
  · rintro ⟨tree, ⟨member, other, named⟩, rfl⟩
    exact ⟨⟨tree, member, rfl⟩, named, other⟩
  · rintro ⟨⟨tree, member, rfl⟩, named, other⟩
    exact ⟨tree, ⟨member, other, named⟩, rfl⟩

theorem mentions_iff : mentions source body name = true ↔ Mentions source body name := by
  rw [mentions, List.any_eq_true, Mentions]
  refine exists_congr fun node => ?_
  rw [Site.descendants, List.mem_filter, Site.mem_below_iff, List.contains_iff_mem, beq_iff_eq,
    and_assoc]
  rfl

theorem catches_iff : Catches source clause name ↔ caughtName? source clause = some name := by
  rw [Catches, caughtName?]
  cases clause.child? "parameter" with
  | none => simp
  | some parameter => simp

/-- Without comments as in markup, statements are what is no comment. -/
theorem isStatement_iff_isContent (plain : ∀ child, body.IsParent child → child.kind ≠ "html_comment")
    (child : Site) : IsStatement body child ↔ IsContent body child := by
  refine and_congr_right fun isParent => and_congr_right fun _ => ?_
  have other := plain child isParent
  simp [commentKinds, other]

theorem verdict?_eq_empty_iff (held : clause.child? "body" = some body) :
    verdict? source clause = some .empty ↔ ∀ child, ¬ IsStatement body child := by
  rw [← isEmptyBlock_iff, verdict?, held]
  dsimp only
  split
  · rename_i empty
    exact iff_of_true rfl empty
  · rename_i statements
    refine iff_of_false ?_ statements
    split
    · simp
    · split <;> simp

theorem verdict?_eq_swallowed_iff (held : clause.child? "body" = some body) :
    verdict? source clause = some (.swallowed name) ↔
      (∃ child, IsStatement body child) ∧ Catches source clause name ∧ name ≠ [] ∧
        ¬ Mentions source body name := by
  have statements : (∃ child, IsStatement body child) ↔ isEmptyBlock body = false := by
    rw [← Bool.not_eq_true, isEmptyBlock_iff, not_forall_not]
  rw [statements, catches_iff, ← mentions_iff, verdict?, held]
  dsimp only
  cases isEmptyBlock body with
  | true => simp
  | false =>
      cases caughtName? source clause with
      | none => simp
      | some caught =>
          simp only [Bool.false_eq_true, if_false, true_and, Bool.not_eq_true, Option.some.injEq]
          constructor
          · intro same
            split at same
            · contradiction
            · rename_i plain
              obtain rfl := Verdict.swallowed.inj (Option.some.inj same)
              simpa using plain
          · rintro ⟨rfl, nonempty, unused⟩
            simp [nonempty, unused]

end

/-! ## Records -/

section

variable {source : Source}

theorem emptyCatch?_eq (source : Source) (clause : Site) :
    emptyCatch? source clause =
      if verdict? source clause == some .empty then some (emptyCatchDraft source clause)
      else none := by
  rw [emptyCatch?]
  cases held : clause.child? "body" with
  | none => simp [verdict?, held]
  | some body =>
      simp only [beq_iff_eq, verdict?_eq_empty_iff held, ← isEmptyBlock_iff]

theorem swallowed?_eq (source : Source) (clause : Site) :
    swallowed? source clause = match verdict? source clause with
      | some (.swallowed name) => some (swallowedDraft source clause name)
      | _ => none := by
  rw [swallowed?, verdict?]
  cases clause.child? "body" with
  | none => rfl
  | some body =>
      dsimp only
      cases caughtName? source clause with
      | none => cases isEmptyBlock body <;> rfl
      | some name =>
          dsimp only
          cases isEmptyBlock body with
          | true => simp
          | false =>
              simp only [Bool.or_false, Bool.false_eq_true, if_false]
              split <;> rfl

theorem filterMap_emptyCatch? (source : Source) :
    (catchClauses source).filterMap (emptyCatch? source) =
      (emptyClauses source).map (emptyCatchDraft source) := by
  rw [emptyClauses, ← List.filterMap_eq_map, List.filterMap_filter]
  refine List.filterMap_congr fun clause _ => ?_
  rw [emptyCatch?_eq]
  rfl

theorem filterMap_swallowed? (source : Source) :
    (catchClauses source).filterMap (swallowed? source) =
      (swallowingClauses source).map fun report => swallowedDraft source report.1 report.2 := by
  rw [swallowingClauses, List.map_filterMap]
  refine List.filterMap_congr fun clause _ => ?_
  rw [swallowed?_eq]
  cases verdict? source clause with
  | none => rfl
  | some verdict => cases verdict <;> rfl

/-- The finding is about an empty block of a catch clause. -/
def tellsEmpty (draft : Draft) : Bool :=
  draft.kind == .emptyCatchBlock && draft.description == emptyDescription

theorem filter_filterMap_eq_nil {keep : Draft → Bool} {make : Site → Option Draft}
    (sites : List Site) (others : ∀ site draft, make site = some draft → keep draft = false) :
    (sites.filterMap make).filter keep = [] := by
  rw [List.filter_eq_nil_iff]
  intro draft member
  obtain ⟨site, -, made⟩ := List.mem_filterMap.mp member
  simp [others site draft made]

/-- The findings of two kinds that do not come from the passes over catch clauses say something else. -/
theorem filter_check {vocabulary : Vocabulary} {drafts : List Draft} {keep : Draft → Bool}
    (checked : check vocabulary source = .ok drafts)
    (uncaught : ∀ site draft, uncaught? source site = some draft → keep draft = false)
    (boundary : ∀ draft, draft.kind = .missingErrorBoundary → keep draft = false)
    (message : ∀ draft, draft.kind = .genericErrorMessage → keep draft = false) :
    drafts.filter keep =
      ((emptyClauses source).map (emptyCatchDraft source)).filter keep ++
        ((swallowingClauses source).map fun report =>
          swallowedDraft source report.1 report.2).filter keep := by
  obtain rfl := eq_findings_of_check checked
  have messages_eq : (messages source vocabulary).filter keep = [] := by
    rw [List.filter_eq_nil_iff]
    intro draft member
    obtain ⟨literal, -, rfl⟩ := List.mem_map.mp member
    simp [message (messageDraft source literal) rfl]
  have boundaries_eq : (source.walk.filterMap (boundary? source)).filter keep = [] := by
    refine filter_filterMap_eq_nil _ fun site draft made => boundary draft ?_
    grind [boundary?, boundaryDraft]
  change ((catchClauses source).filterMap (emptyCatch? source) ++
    (catchClauses source).filterMap (swallowed? source) ++ _ ++ _ ++ _).filter keep = _
  rw [List.filter_append, List.filter_append, List.filter_append, List.filter_append, messages_eq,
    boundaries_eq, filter_filterMap_eq_nil _ uncaught, filterMap_emptyCatch?, filterMap_swallowed?,
    List.append_nil, List.append_nil, List.append_nil]

theorem filter_tellsEmpty {vocabulary : Vocabulary} {drafts : List Draft}
    (checked : check vocabulary source = .ok drafts) :
    drafts.filter tellsEmpty = (emptyClauses source).map (emptyCatchDraft source) := by
  have bareTry : "try block without catch or finally - syntax error" ≠ emptyDescription := by decide
  rw [filter_check checked]
  · rw [List.filter_eq_self.mpr, List.filter_eq_nil_iff.mpr, List.append_nil]
    · intro draft member
      obtain ⟨report, -, rfl⟩ := List.mem_map.mp member
      exact Bool.false_ne_true
    · intro draft member
      obtain ⟨clause, -, rfl⟩ := List.mem_map.mp member
      rfl
  · grind [uncaught?, bareTryDraft, finallyOnlyDraft, tellsEmpty]
  · intro draft kind
    rw [tellsEmpty, kind]
    rfl
  · intro draft kind
    rw [tellsEmpty, kind]
    rfl

theorem ofKind_swallowedError {vocabulary : Vocabulary} {drafts : List Draft}
    (checked : check vocabulary source = .ok drafts) :
    ofKind .swallowedError drafts =
      (swallowingClauses source).map fun report => swallowedDraft source report.1 report.2 := by
  rw [ofKind, filter_check checked]
  · rw [List.filter_eq_nil_iff.mpr, List.filter_eq_self.mpr, List.nil_append]
    · intro draft member
      obtain ⟨report, -, rfl⟩ := List.mem_map.mp member
      rfl
    · intro draft member
      obtain ⟨clause, -, rfl⟩ := List.mem_map.mp member
      exact Bool.false_ne_true
  · grind [uncaught?, bareTryDraft, finallyOnlyDraft]
  · intro draft kind
    rw [kind]
    rfl
  · intro draft kind
    rw [kind]
    rfl

/-- The two passes report the clauses with their verdicts, each once and in pre-order. -/
theorem forall₂_clauseRecords (stamps : Nat → Stamp) (vocabulary : Vocabulary) (source : Source) :
    ∃ records, (Detector.errorHandling stamps).examine vocabulary (.ok source) = .ok records ∧
      List.Forall₂ (IsClauseRecord source) (emptyRecords records) (emptyClauses source) ∧
      List.Forall₂ (IsSwallowRecord source) (records.filter (·.kind == .swallowedError))
        (swallowingClauses source) := by
  obtain ⟨records, examined⟩ : ∃ records,
      (Detector.errorHandling stamps).examine vocabulary (.ok source) = .ok records :=
    ⟨_, Detector.errorHandling_examine stamps vocabulary source⟩
  obtain ⟨drafts, checked, rfl⟩ := Detector.exists_draft_of_examine examined
  have marked := Detector.forall₂_marked "error_handling" source.path stamps drafts
  refine ⟨_, examined, ?_, ?_⟩
  · have empties : List.Forall₂ _ (emptyRecords _) (drafts.filter tellsEmpty) :=
      Detector.forall₂_filter marked fun _ _ => rfl
    rw [filter_tellsEmpty checked, List.forall₂_map_right_iff] at empties
    refine empties.imp ?_
    rintro record clause ⟨stamp, rfl⟩
    exact ⟨rfl, rfl, rfl, rfl⟩
  · have swallows := Detector.forall₂_stampAll "error_handling" source.path stamps .swallowedError
      drafts
    rw [ofKind_swallowedError checked, List.forall₂_map_right_iff] at swallows
    refine swallows.imp ?_
    rintro record report ⟨stamp, rfl⟩
    exact ⟨⟨rfl, rfl, rfl, rfl⟩, rfl⟩

end

/-! ## Comments -/

/-- A comment, with nothing below it. -/
def IsComment (tree : Tree) : Prop := tree.kind = "comment" ∧ tree.children = []

/-- Two nodes, each of its own file, are the same but for their places.  The text of a node changes with
the comments in it, so only the texts of names are compared. -/
structure SameNode (source other : Source) (label label' : Label) : Prop where
  /-- The kinds are the same. -/
  kind : label.kind = label'.kind
  /-- The grammar names both or neither. -/
  named : label.named = label'.named
  /-- Names have the same text. -/
  text : label.kind ∈ nameKinds → source.slice label.span = other.slice label'.span

/-- Trees side by side, each of its own file, are the same but for comments at any depth. -/
inductive SameButComments (source other : Source) : List Tree → List Tree → Prop
  | nil : SameButComments source other [] []
  | deleted {comment : Tree} {trees trees' : List Tree} (isComment : IsComment comment)
      (rest : SameButComments source other trees trees') :
      SameButComments source other (comment :: trees) trees'
  | inserted {comment : Tree} {trees trees' : List Tree} (isComment : IsComment comment)
      (rest : SameButComments source other trees trees') :
      SameButComments source other trees (comment :: trees')
  | node {label label' : Label} {children children' trees trees' : List Tree}
      (same : SameNode source other label label')
      (below : SameButComments source other children children')
      (beside : SameButComments source other trees trees') :
      SameButComments source other (.node label children :: trees) (.node label' children' :: trees')

/-- Two catch clauses, each of its own file, are the same but for comments in their blocks. -/
structure SameClause (source other : Source) (clause clause' : Site) : Prop where
  /-- Both have the same parameter, or none. -/
  parameter : Option.Rel (fun site site' => SameNode source other site.tree.label site'.tree.label)
    (clause.child? "parameter") (clause'.child? "parameter")
  /-- Both have blocks that are the same but for comments, or none. -/
  body : Option.Rel
    (fun body body' => SameButComments source other body.tree.children body'.tree.children)
    (clause.child? "body") (clause'.child? "body")

/-- The name stands in one of the trees. -/
def StandsIn (source : Source) (above trees : List Tree) (name : List Char) : Prop :=
  ∃ site ∈ Site.walkForest above trees, site.kind ∈ nameKinds ∧ source.textOf site = name

section

variable {source other : Source} {trees trees' : List Tree} {clause clause' : Site}

theorem not_standsIn_nil (source : Source) (above : List Tree) (name : List Char) :
    ¬ StandsIn source above [] name := by
  rintro ⟨site, member, -⟩
  exact absurd member List.not_mem_nil

theorem standsIn_cons (source : Source) (above : List Tree) (label : Label)
    (children trees : List Tree) (name : List Char) :
    StandsIn source above (.node label children :: trees) name ↔
      (label.kind ∈ nameKinds ∧ source.slice label.span = name) ∨
        StandsIn source (.node label children :: above) children name ∨
          StandsIn source above trees name := by
  simp only [StandsIn, Site.walkForest, Site.walkTree, List.cons_append, List.mem_cons,
    List.mem_append, or_and_right, exists_or, exists_eq_left]
  rfl

theorem standsIn_comment {comment : Tree} (isComment : IsComment comment) (source : Source)
    (above trees : List Tree) (name : List Char) :
    StandsIn source above (comment :: trees) name ↔ StandsIn source above trees name := by
  obtain ⟨label, children⟩ := comment
  obtain ⟨kind, rfl⟩ : label.kind = "comment" ∧ children = [] := isComment
  have other : label.kind ∉ nameKinds := by
    rw [kind]
    decide
  rw [standsIn_cons, or_iff_right fun named => other named.1,
    or_iff_right (not_standsIn_nil source _ name)]

/-- Names stand in trees whether there are comments or not. -/
theorem SameButComments.standsIn_iff (same : SameButComments source other trees trees')
    (above above' : List Tree) (name : List Char) :
    StandsIn source above trees name ↔ StandsIn other above' trees' name := by
  induction same generalizing above above' with
  | nil => exact iff_of_false (not_standsIn_nil source above name) (not_standsIn_nil other above' name)
  | deleted isComment _ ih => rw [standsIn_comment isComment, ih above above']
  | inserted isComment _ ih => rw [standsIn_comment isComment, ih above above']
  | node same _ _ below beside =>
      rw [standsIn_cons, standsIn_cons, below _ _, beside above above', ← same.kind]
      refine or_congr_left (and_congr_right fun named => ?_)
      rw [same.text named]

/-- Statements stand side by side whether there are comments or not. -/
theorem SameButComments.statement_iff (same : SameButComments source other trees trees') :
    (∃ tree ∈ trees, tree.named = true ∧ tree.kind ≠ "comment") ↔
      ∃ tree ∈ trees', tree.named = true ∧ tree.kind ≠ "comment" := by
  induction same with
  | nil => exact Iff.rfl
  | deleted isComment _ ih =>
      rw [List.exists_mem_cons_iff, or_iff_right fun statement => statement.2 isComment.1, ih]
  | inserted isComment _ ih =>
      rw [List.exists_mem_cons_iff, or_iff_right fun statement => statement.2 isComment.1, ih]
  | @node label label' children children' _ _ same _ _ _ beside =>
      have first : ((Tree.node label children).named = true ∧
            (Tree.node label children).kind ≠ "comment") ↔
          (Tree.node label' children').named = true ∧
            (Tree.node label' children').kind ≠ "comment" := by
        rw [Tree.named, Tree.named, Tree.kind, Tree.kind, Tree.label, Tree.label, same.named,
          same.kind]
      rw [List.exists_mem_cons_iff, List.exists_mem_cons_iff, first, beside]

theorem exists_isStatement_iff {body : Site} : (∃ child, IsStatement body child) ↔
    ∃ tree ∈ body.tree.children, tree.named = true ∧ tree.kind ≠ "comment" := by
  simp only [IsStatement, Site.isParent_iff]
  constructor
  · rintro ⟨_, ⟨tree, member, rfl⟩, statement⟩
    exact ⟨tree, member, statement⟩
  · rintro ⟨tree, member, statement⟩
    exact ⟨body.under tree, ⟨tree, member, rfl⟩, statement⟩

theorem mentions_iff_standsIn {body : Site} {name : List Char} : Mentions source body name ↔
    StandsIn source (body.tree :: body.above) body.tree.children name := by
  simp only [Mentions, StandsIn, ← Site.mem_below_iff]
  rfl

theorem SameClause.caughtName?_eq (same : SameClause source other clause clause') :
    caughtName? source clause = caughtName? other clause' := by
  have parameters := same.parameter
  rw [caughtName?, caughtName?]
  generalize clause.child? "parameter" = first, clause'.child? "parameter" = second at parameters ⊢
  cases parameters with
  | none => rfl
  | @some parameter parameter' node =>
      have kinds : parameter.kind = parameter'.kind := node.kind
      dsimp only
      rw [← kinds]
      split
      · rename_i plain
        have text : source.textOf parameter = other.textOf parameter' := by
          refine node.text ?_
          rw [show parameter.tree.label.kind = "identifier" from beq_iff_eq.mp plain]
          decide
        rw [text]
      · rfl

/-- Comments in the block do not change the verdict about a clause. -/
theorem SameClause.verdict?_eq (same : SameClause source other clause clause') :
    verdict? source clause = verdict? other clause' := by
  have bodies := same.body
  rw [verdict?, verdict?, same.caughtName?_eq]
  generalize clause.child? "body" = first, clause'.child? "body" = second at bodies ⊢
  cases bodies with
  | none => rfl
  | @some body body' alike =>
      have empty : isEmptyBlock body = isEmptyBlock body' := by
        rw [Bool.eq_iff_iff, isEmptyBlock_iff, isEmptyBlock_iff, ← not_exists, ← not_exists,
          exists_isStatement_iff, exists_isStatement_iff, alike.statement_iff]
      have mentioned (name : List Char) : mentions source body name = mentions other body' name := by
        rw [Bool.eq_iff_iff, mentions_iff, mentions_iff, mentions_iff_standsIn,
          mentions_iff_standsIn]
        exact alike.standsIn_iff _ _ name
      dsimp only
      simp only [empty, mentioned]

end

/-- The records about catch clauses are those of their verdicts, of which a clause has one at most: that
its block is empty exactly if it has no statements, and that its error is swallowed exactly if the block
has statements, the error has a plain name that is not left out, and that name does not stand below the
block.  Statements are what is no comment unless the block has a comment as in markup.  Comments with
slashes in the block make no difference. -/
theorem catchClauses_classified (stamps : Nat → Stamp) (vocabulary : Vocabulary) (source : Source) :
    (∃ records, (Detector.errorHandling stamps).examine vocabulary (.ok source) = .ok records ∧
      List.Forall₂ (IsClauseRecord source) (emptyRecords records) (emptyClauses source) ∧
      List.Forall₂ (IsSwallowRecord source) (records.filter (·.kind == .swallowedError))
        (swallowingClauses source)) ∧
    (source.tree.Distinct → (catchClauses source).Nodup) ∧
    (∀ clause body, clause.child? "body" = some body →
      (verdict? source clause = some .empty ↔ ∀ child, ¬ IsStatement body child) ∧
      (∀ name, verdict? source clause = some (.swallowed name) ↔
        (∃ child, IsStatement body child) ∧ Catches source clause name ∧ name ≠ [] ∧
          ¬ Mentions source body name) ∧
      ((∀ child, body.IsParent child → child.kind ≠ "html_comment") →
        ∀ child, IsStatement body child ↔ IsContent body child)) ∧
    ∀ other clause clause', SameClause source other clause clause' →
      verdict? source clause = verdict? other clause' :=
  ⟨forall₂_clauseRecords stamps vocabulary source,
    fun distinct => (Source.nodup_walk distinct).filter _,
    fun _ _ held => ⟨verdict?_eq_empty_iff held, fun _ => verdict?_eq_swallowed_iff held,
      isStatement_iff_isContent⟩,
    fun _ _ _ same => same.verdict?_eq⟩

/-- A catch clause with an error `e` and the children of its block. -/
def clauseTree (stop : Nat) (block : List Tree) : Tree :=
  .node ⟨14, "catch_clause", "handler", true, ⟨13, stop⟩⟩
    [.node ⟨15, "catch", "", false, ⟨13, 18⟩⟩ [],
      .node ⟨16, "(", "", false, ⟨19, 20⟩⟩ [],
      .node ⟨17, "identifier", "parameter", true, ⟨20, 21⟩⟩ [],
      .node ⟨18, ")", "", false, ⟨21, 22⟩⟩ [],
      .node ⟨19, "statement_block", "body", true, ⟨23, stop⟩⟩ block]

/-- A `try` with that clause. -/
def tryTree (stop : Nat) (block : List Tree) : Tree :=
  .node ⟨1, "try_statement", "", true, ⟨0, stop⟩⟩
    [.node ⟨2, "try", "", false, ⟨0, 3⟩⟩ [],
      .node ⟨3, "statement_block", "body", true, ⟨4, 12⟩⟩
        [.node ⟨4, "\x7b", "", false, ⟨4, 5⟩⟩ [],
          .node ⟨5, "expression_statement", "", true, ⟨6, 10⟩⟩
            [.node ⟨6, "call_expression", "", true, ⟨6, 9⟩⟩
                [.node ⟨7, "identifier", "function", true, ⟨6, 7⟩⟩ [],
                  .node ⟨8, "arguments", "arguments", true, ⟨7, 9⟩⟩
                    [.node ⟨9, "(", "", false, ⟨7, 8⟩⟩ [], .node ⟨10, ")", "", false, ⟨8, 9⟩⟩ []]],
              .node ⟨11, ";", "", false, ⟨9, 10⟩⟩ []],
          .node ⟨12, "\x7d", "", false, ⟨11, 12⟩⟩ []],
      clauseTree stop block]

/-- A file that is one `try` with that clause. -/
def catching (text : String) (stop : Nat) (block : List Tree) : Source where
  path := "src/a.js"
  grammar := .javascript
  text := text.toList
  tree := .node ⟨0, "program", "", true, ⟨0, stop⟩⟩ [tryTree stop block]

/-- The clause of that file. -/
def clauseSite (text : String) (stop : Nat) (block : List Tree) : Site :=
  ⟨clauseTree stop block, [tryTree stop block, (catching text stop block).tree]⟩

/-- A block that calls `b`. -/
def callingBlock : List Tree :=
  [.node ⟨20, "\x7b", "", false, ⟨23, 24⟩⟩ [],
    .node ⟨21, "expression_statement", "", true, ⟨25, 29⟩⟩
      [.node ⟨22, "call_expression", "", true, ⟨25, 28⟩⟩
          [.node ⟨23, "identifier", "function", true, ⟨25, 26⟩⟩ [],
            .node ⟨24, "arguments", "arguments", true, ⟨26, 28⟩⟩
              [.node ⟨25, "(", "", false, ⟨26, 27⟩⟩ [], .node ⟨26, ")", "", false, ⟨27, 28⟩⟩ []]],
        .node ⟨27, ";", "", false, ⟨28, 29⟩⟩ []],
    .node ⟨28, "\x7d", "", false, ⟨30, 31⟩⟩ []]

/-- The same block with a comment before the call and one inside it. -/
def commentedBlock : List Tree :=
  [.node ⟨20, "\x7b", "", false, ⟨23, 24⟩⟩ [],
    .node ⟨21, "comment", "", true, ⟨25, 32⟩⟩ [],
    .node ⟨22, "expression_statement", "", true, ⟨33, 44⟩⟩
      [.node ⟨23, "call_expression", "", true, ⟨33, 43⟩⟩
          [.node ⟨24, "identifier", "function", true, ⟨33, 34⟩⟩ [],
            .node ⟨25, "arguments", "arguments", true, ⟨34, 43⟩⟩
              [.node ⟨26, "(", "", false, ⟨34, 35⟩⟩ [], .node ⟨27, "comment", "", true, ⟨35, 42⟩⟩ [],
                .node ⟨28, ")", "", false, ⟨42, 43⟩⟩ []]],
        .node ⟨29, ";", "", false, ⟨43, 44⟩⟩ []],
    .node ⟨30, "\x7d", "", false, ⟨45, 46⟩⟩ []]

/-- The file without comments. -/
def callingText : String := "try \x7b a(); \x7d catch (e) \x7b b(); \x7d"

/-- The file with comments. -/
def commentedText : String := "try \x7b a(); \x7d catch (e) \x7b /* e */ b(/* e */); \x7d"

/-- Comments that hold the name of the error do not use it. -/
theorem catchClauses_classified_commented :
    catchClauses (catching callingText 31 callingBlock) =
      [clauseSite callingText 31 callingBlock] ∧
    catchClauses (catching commentedText 46 commentedBlock) =
      [clauseSite commentedText 46 commentedBlock] ∧
    SameClause (catching callingText 31 callingBlock) (catching commentedText 46 commentedBlock)
      (clauseSite callingText 31 callingBlock) (clauseSite commentedText 46 commentedBlock) ∧
    verdict? (catching callingText 31 callingBlock) (clauseSite callingText 31 callingBlock) =
      some (.swallowed ['e']) ∧
    verdict? (catching commentedText 46 commentedBlock)
      (clauseSite commentedText 46 commentedBlock) = some (.swallowed ['e']) := by
  have same : SameClause (catching callingText 31 callingBlock)
      (catching commentedText 46 commentedBlock) (clauseSite callingText 31 callingBlock)
      (clauseSite commentedText 46 commentedBlock) := by
    refine ⟨.some ⟨rfl, rfl, by decide +kernel⟩, .some ?_⟩
    refine .node ⟨rfl, rfl, by decide +kernel⟩ .nil (.inserted ⟨rfl, rfl⟩ ?_)
    refine .node ⟨rfl, rfl, by decide +kernel⟩ ?_ (.node ⟨rfl, rfl, by decide +kernel⟩ .nil .nil)
    refine .node ⟨rfl, rfl, by decide +kernel⟩ ?_ (.node ⟨rfl, rfl, by decide +kernel⟩ .nil .nil)
    refine .node ⟨rfl, rfl, by decide +kernel⟩ .nil (.node ⟨rfl, rfl, by decide +kernel⟩ ?_ .nil)
    exact .node ⟨rfl, rfl, by decide +kernel⟩ .nil
      (.inserted ⟨rfl, rfl⟩ (.node ⟨rfl, rfl, by decide +kernel⟩ .nil .nil))
  have verdict : verdict? (catching callingText 31 callingBlock)
      (clauseSite callingText 31 callingBlock) = some (.swallowed ['e']) := by decide +kernel
  obtain ⟨-, -, -, unchanged⟩ := catchClauses_classified Detector.fixedStamps Detector.oneName
    (catching callingText 31 callingBlock)
  exact ⟨rfl, rfl, same, verdict, (unchanged _ _ _ same).symm.trans verdict⟩

/-- A block that holds a comment as in markup. -/
def markupBlock : List Tree :=
  [.node ⟨20, "\x7b", "", false, ⟨23, 24⟩⟩ [],
    .node ⟨21, "html_comment", "", true, ⟨25, 31⟩⟩ [],
    .node ⟨22, "\x7d", "", false, ⟨32, 33⟩⟩ []]

/-- The file with a comment as in markup. -/
def markupText : String := "try \x7b a(); \x7d catch (e) \x7b <!-- c\n\x7d"

/-- A catch clause whose name is left out, with a block that calls `b`. -/
def namelessClause : Tree :=
  .node ⟨1, "catch_clause", "", true, ⟨0, 17⟩⟩
    [.node ⟨2, "catch", "", false, ⟨0, 5⟩⟩ [],
      .node ⟨3, "(", "", false, ⟨6, 7⟩⟩ [],
      .node ⟨4, "identifier", "parameter", true, ⟨7, 7⟩⟩ [],
      .node ⟨5, ")", "", false, ⟨7, 8⟩⟩ [],
      .node ⟨6, "statement_block", "body", true, ⟨9, 17⟩⟩
        [.node ⟨7, "\x7b", "", false, ⟨9, 10⟩⟩ [],
          .node ⟨8, "expression_statement", "", true, ⟨11, 15⟩⟩
            [.node ⟨9, "identifier", "", true, ⟨11, 12⟩⟩ []],
          .node ⟨10, "\x7d", "", false, ⟨16, 17⟩⟩ []]]

/-- The file of that clause. -/
def nameless : Source where
  path := "src/a.js"
  grammar := .javascript
  text := "catch () \x7b b(); \x7d".toList
  tree := .node ⟨0, "program", "", true, ⟨0, 17⟩⟩ [namelessClause]

/-- A block with nothing but a comment as in markup is not empty, and its error is swallowed.  A name that
is left out is not swallowed, though it stands nowhere. -/
theorem catchClauses_misjudged :
    (∃ body, (clauseSite markupText 33 markupBlock).child? "body" = some body ∧
      (∀ child, ¬ IsContent body child) ∧
      verdict? (catching markupText 33 markupBlock) (clauseSite markupText 33 markupBlock) =
        some (.swallowed ['e'])) ∧
    ∃ clause body, clause ∈ catchClauses nameless ∧ clause.child? "body" = some body ∧
      (∃ child, IsStatement body child) ∧ Catches nameless clause [] ∧
        ¬ Mentions nameless body [] ∧ verdict? nameless clause = none := by
  constructor
  · refine ⟨_, rfl, ?_, by decide +kernel⟩
    rintro child ⟨isParent, named, other⟩
    obtain ⟨tree, member, rfl⟩ := Site.isParent_iff.mp isParent
    have comments : ∀ tree ∈ markupBlock, tree.named = true → tree.kind ∈ commentKinds := by
      decide +kernel
    exact other (comments tree member named)
  · refine ⟨nameless.root.under namelessClause, _, List.mem_singleton_self _, rfl, ?_, ?_, ?_,
      by decide +kernel⟩
    · exact ⟨_, Site.isParent_under (List.mem_cons_of_mem _ List.mem_cons_self), rfl, by decide⟩
    · exact ⟨_, rfl, rfl, by decide +kernel⟩
    · rw [← mentions_iff]
      decide +kernel

end ErrorHandling
end Hazard
