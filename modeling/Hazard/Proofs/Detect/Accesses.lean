import Hazard.Detect.Standard
import Hazard.Proofs.Regex.Progress

/-!
# Every part that is looked at is there

The checks look at parts of the tree, at first items and at what groups caught, and each such look fails
where there is nothing.  Every look stands behind a test that makes sure of it, or behind an expression
whose every fit passes the group.  So the looks find exactly the findings, and what can still fail is what
the program does not test for: a number that is too long to be shown, and a pattern that is too deep.
-/

namespace Hazard

/-! ## Errors -/

namespace ErrorHandling

variable (source : Source)

theorem lookForName_eq_ok (clause : Site) :
    lookForName source clause = .ok (caughtName? source clause) := by
  unfold lookForName caughtName?
  cases clause.child? "parameter" with
  | none => rfl
  | some parameter => by_cases plain : parameter.kind = "identifier" <;> simp [plain]

theorem lookForEmptyCatch_eq_ok (clause : Site) :
    lookForEmptyCatch source clause = .ok (emptyCatch? source clause) := by
  unfold lookForEmptyCatch emptyCatch? lookForEmpty isEmptyBlock
  cases clause.child? "body" with
  | none => rfl
  | some body => cases empty : body.statements.isEmpty <;> simp [empty]

theorem lookForSwallowed_eq_ok (clause : Site) :
    lookForSwallowed source clause = .ok (swallowed? source clause) := by
  unfold lookForSwallowed swallowed? lookForEmpty isEmptyBlock
  rw [lookForName_eq_ok]
  cases clause.child? "body" with
  | none => rfl
  | some body =>
      cases caughtName? source clause with
      | none => rfl
      | some name =>
          cases named : name.isEmpty <;> cases empty : body.statements.isEmpty <;>
            cases mentioned : mentions source body name <;> simp [named, empty, mentioned]

theorem hasChild_eq_isSome_find? (site : Site) (kind : String) :
    site.hasChild kind = (site.children.find? (·.kind == kind)).isSome := by
  rw [Site.children, List.find?_map, Option.isSome_map, Bool.eq_iff_iff, List.find?_isSome]
  exact List.any_eq_true

theorem lookForAttempt_eq_ok (site : Site) : lookForAttempt site = .ok (attempt? site) := by
  unfold lookForAttempt attempt?
  rw [hasChild_eq_isSome_find? site "try"]
  by_cases isTry : site.kind = "try_statement"
  · simp [isTry]
  · by_cases isError : site.kind = "ERROR"
    · cases start : site.children.find? (·.kind == "try") with
      | none => simp [isError]
      | some held => simp [isError, Access.firstSuch_eq_ok start]
    · simp [isTry, isError]

theorem lookForUncaught_eq_ok (site : Site) :
    lookForUncaught source site = .ok (uncaught? source site) := by
  unfold lookForUncaught uncaught?
  rw [lookForAttempt_eq_ok]
  cases attempt? site with
  | none => rfl
  | some found =>
      obtain ⟨start, hasCatch, hasFinally, block⟩ := found
      cases hasCatch with
      | true => simp
      | false =>
          cases hasFinally with
          | false => simp
          | true =>
              cases block with
              | none => rfl
              | some block => cases fails : canFail block <;> simp [fails]

theorem lookForBoundary_eq_ok (site : Site) :
    lookForBoundary source site = .ok (boundary? source site) := by
  unfold lookForBoundary boundary?
  cases isFunction : site.isFunction with
  | false => rfl
  | true =>
      cases isAsync : site.isAsync with
      | false => rfl
      | true =>
          cases site.child? "body" with
          | none => rfl
          | some body =>
              exact (apply_ite Except.ok ((unprotectedAwaits body).isEmpty = true) none _).symm

theorem lookForContext_eq_ok (site : Site) :
    lookForContext source site = .ok (inErrorContext source site) := by
  unfold lookForContext inErrorContext
  rw [Access.passes_eq_ok, Access.passes_eq_ok]
  cases (site.firstAncestor ["throw_statement"]).isSome with
  | true => rfl
  | false =>
      cases made : (site.firstAncestor ["new_expression"]).any
          (fun made => "Error".toList.isSuffixOf (source.callee made)) with
      | true => rfl
      | false => cases (site.firstAncestor ["catch_clause"]).isSome <;> rfl

theorem lookForMessage_eq_ok (vocabulary : Vocabulary) (literal : Site) :
    lookForMessage source vocabulary literal =
      .ok (if isGenericMessage vocabulary (Text.lower (source.stringValue literal)) &&
        inErrorContext source literal then some (messageDraft source literal) else none) := by
  unfold lookForMessage
  rw [lookForContext_eq_ok]
  cases isGenericMessage vocabulary (Text.lower (source.stringValue literal)) with
  | false => rfl
  | true => cases context : inErrorContext source literal <;> rfl

/-- The look at the handling of errors never fails. -/
theorem check_eq_ok (vocabulary : Vocabulary) :
    check vocabulary source = .ok (findings vocabulary source) := by
  unfold check findings messages
  dsimp only
  rw [Access.collect_eq_ok fun clause _ => lookForEmptyCatch_eq_ok source clause,
    Access.collect_eq_ok fun clause _ => lookForSwallowed_eq_ok source clause,
    Access.collect_eq_ok fun site _ => lookForUncaught_eq_ok source site,
    Access.collect_eq_ok fun site _ => lookForBoundary_eq_ok source site,
    Access.collect_eq_ok fun literal _ => lookForMessage_eq_ok source vocabulary literal,
    ← List.filterMap_eq_map, List.filterMap_filter]
  rfl

end ErrorHandling

/-! ## Credentials -/

namespace Secret

theorem lookForSensitive_eq_ok (found : List Char) :
    lookForSensitive found = .ok (sensitivePart? found) := by
  unfold lookForSensitive sensitivePart?
  cases searched : quotedValue.search found with
  | none => cases private_ : Text.contains found "PRIVATE KEY".toList <;> rfl
  | some quoted => simp [Regex.group?_of_search 1 rfl searched]

theorem lookAndMask_eq_ok (line found : List Char) :
    lookAndMask line found = .ok (maskSecret line found) := by
  unfold lookAndMask maskSecret
  rw [lookForSensitive_eq_ok]
  cases sensitivePart? found <;> rfl

theorem lookAtLine_eq_ok (patterns : List Regex) (line : List Char × Nat) :
    lookAtLine patterns line =
      .ok ((inLine? line.1 patterns).map (lineDraft line.1 patterns (line.2 + 1))) := by
  have looks : lookAndMask = fun line found => .ok (maskSecret line found) :=
    funext₂ lookAndMask_eq_ok
  unfold lookAtLine
  cases inLine? line.1 patterns with
  | none => rfl
  | some found =>
      simp only [looks, ← Access.pure_eq_ok, List.foldlM_pure, pure_bind]
      rfl

/-- The look for credentials never fails. -/
theorem look_eq_ok (vocabulary : Vocabulary) (source : Source) :
    look vocabulary source = .ok (check vocabulary source) := by
  unfold look check inLines
  rw [Access.collect_eq_ok fun line _ => lookAtLine_eq_ok _ line, List.mapIdx_eq_zipIdx_map,
    List.filterMap_map]
  cases isExempt source.path <;> rfl

end Secret

/-! ## Text that runs -/

namespace Injection

theorem lookForSum_eq_ok (site : Site) : lookForSum site = .ok (isSum site) := by
  unfold lookForSum isSum
  rw [Access.passes_eq_ok]
  by_cases binary : site.kind = "binary_expression" <;> simp [binary]

theorem lookForOutermost_eq_ok (site : Site) :
    lookForOutermost site = .ok (isOutermostSum site) := by
  unfold lookForOutermost isOutermostSum
  rw [lookForSum_eq_ok]
  cases isSum site with
  | false => rfl
  | true =>
      cases site.parent? with
      | none => rfl
      | some parent => simp [lookForSum_eq_ok]

variable (source : Source)

theorem lookForQuery_eq_ok (sum : Site) :
    lookForQuery source sum =
      .ok (if isOutermostSum sum && queryWord.occursIn (source.textOf sum) && hasVariablePart sum
        then some (sumDraft source sum) else none) := by
  unfold lookForQuery
  rw [lookForOutermost_eq_ok]
  cases isOutermostSum sum with
  | false => rfl
  | true =>
      cases queryWord.occursIn (source.textOf sum) with
      | false => rfl
      | true => cases hasVariablePart sum <;> rfl

theorem lookForText_eq_ok (call : Site) :
    lookForText call = .ok (call.arguments.head?.any (·.kind == "string")) := by
  unfold lookForText
  cases call.arguments <;> rfl

theorem lookForEvaluation_eq_ok (call : Site) :
    lookForEvaluation source call = .ok (evaluation? source call) := by
  unfold lookForEvaluation evaluation?
  rw [lookForText_eq_ok]
  dsimp only [Access.ok_bind, Access.pure_eq_ok]
  split_ifs <;> simp_all

theorem lookAround_eq_ok (call : Site) : lookAround call = .ok (surroundings call) := by
  unfold lookAround surroundings
  cases call.parent? with
  | none => rfl
  | some above => cases held : above.parent? <;> simp [held]

theorem lookForRandom_eq_ok (call : Site) :
    lookForRandom source call = .ok (random? source call) := by
  unfold lookForRandom random?
  rw [lookAround_eq_ok]
  cases isRandom : source.callee call == "Math.random".toList with
  | false =>
      rw [bne, isRandom]
      rfl
  | true =>
      rw [bne, isRandom]
      exact (apply_ite Except.ok
        (securityWord.occursIn (source.textOf? (surroundings call)) = true) _ none).symm

/-- The look for text that runs never fails. -/
theorem look_eq_ok : look source = .ok (check source) := by
  unfold look check sums evaluations randomNumbers
  rw [Access.collect_eq_ok fun sum _ => lookForQuery_eq_ok source sum,
    Access.collect_eq_ok fun call _ => lookForEvaluation_eq_ok source call,
    Access.collect_eq_ok fun call _ => lookForRandom_eq_ok source call,
    ← List.filterMap_eq_map, List.filterMap_filter]
  rfl

end Injection

/-- The look for credentials and text that runs never fails. -/
theorem Detector.securityCheck_eq_ok (vocabulary : Vocabulary) (source : Source) :
    securityCheck vocabulary source =
      .ok (Secret.check vocabulary source ++ Injection.check source) := by
  rw [securityCheck, Secret.look_eq_ok, Injection.look_eq_ok]
  rfl

/-! ## Numbers -/

namespace MagicNumber

variable (source : Source)

theorem lookForConstant_eq_ok (declarator : Site) :
    lookForConstant declarator = .ok (isConstant declarator) :=
  Access.passes_eq_ok _ _

theorem lookForMeaning_eq_ok (literal : Site) :
    lookForMeaning source literal = .ok (isExempt source literal) := by
  unfold lookForMeaning isExempt
  rw [Access.passes_eq_ok]
  cases literal.parent?.any fun parent => ["subscript_expression", "pair"].contains parent.kind with
  | true => rfl
  | false =>
      cases literal.firstAncestor ["variable_declarator"] with
      | none => rfl
      | some declarator =>
          simp only [Access.ok_bind, Access.present_some, lookForConstant_eq_ok, Option.any_some]
          cases isConstant declarator with
          | false => rfl
          | true => cases isTelling (source.textOf? (declarator.child? "name")) <;> rfl

/-- A look at a number fails only where the number is too long to be shown. -/
theorem lookAt_eq_examine (literal : Site) : lookAt source literal = examine source literal := by
  unfold lookAt examine unexplained?
  rw [lookForMeaning_eq_ok]
  cases Numeral.ofLiteral? (source.textOf literal) with
  | none => rfl
  | some value =>
      cases magic : value.isMagic with
      | false => simp [magic]
      | true =>
          cases exempt : isExempt source literal with
          | true => simp [magic]
          | false => cases shown : value.show? <;> simp [magic, shown]

end MagicNumber

/-! ## Bodies -/

namespace Body

theorem lookForBranch_eq_ok (site : Site) : lookForBranch site = .ok (isBranch site) := by
  unfold lookForBranch isBranch
  rw [Access.passes_eq_ok]
  cases branchKinds.contains site.kind with
  | true => rfl
  | false => by_cases binary : site.kind = "binary_expression" <;> simp [binary]

/-- The count goes up by one at each branch. -/
theorem foldl_isBranch (count : Nat) (sites : List Site) :
    sites.foldl (fun count site => if isBranch site then count + 1 else count) count =
      (sites.filter isBranch).length + count := by
  induction sites generalizing count with
  | nil => exact (Nat.zero_add count).symm
  | cons site rest ih =>
      rw [List.foldl_cons, ih]
      cases branch : isBranch site with
      | true =>
          rw [List.filter_cons_of_pos branch, List.length_cons, if_pos rfl, Nat.add_right_comm,
            Nat.add_assoc]
      | false => simp [branch]

theorem lookForComplexity_eq_ok (function : Site) :
    lookForComplexity function = .ok (complexity function) := by
  have looks (count : Nat) (site : Site) :
      (do if ← lookForBranch site then pure (count + 1) else pure count : Except Failure Nat) =
        pure (if isBranch site then count + 1 else count) := by
    rw [lookForBranch_eq_ok, apply_ite pure]
    rfl
  simp only [lookForComplexity, looks, List.foldlM_pure, foldl_isBranch]
  rfl

variable (source : Source)

theorem lookForComplex_eq_ok (function : Site) :
    lookForComplex source function =
      .ok (if complexityLimit < complexity function then some (complexityDraft source function)
        else none) := by
  unfold lookForComplex
  rw [lookForComplexity_eq_ok]
  by_cases complex : complexityLimit < complexity function <;> simp [complex]

theorem lookForIntent_eq_ok (function : Site) :
    lookForIntent function = .ok (isDeliberate function) := by
  unfold lookForIntent isDeliberate
  by_cases arrow : function.kind = "arrow_function"
  · cases function.parent? with
    | none => simp [arrow]
    | some parent =>
        by_cases pair : parent.kind = "pair"
        · simp [arrow, pair]
        · by_cases argument : parent.kind = "arguments" <;> simp [arrow, pair, argument]
  · simp [arrow]

theorem lookForPlaceholders_eq_ok (function : Site) :
    lookForPlaceholders source function = .ok (placeholders source function) := by
  unfold lookForPlaceholders placeholders
  rw [lookForIntent_eq_ok]
  cases function.child? "body" with
  | none => rfl
  | some body =>
      simp only [Option.isNone_some, Bool.false_eq_true, if_false, Access.present_some,
        Access.ok_bind, Access.pure_eq_ok]
      cases notImplemented.occursIn (source.textOf body) with
      | true => rfl
      | false =>
          cases isEmptyBlock body with
          | false => simp
          | true => cases isDeliberate function <;> simp

/-- The look at bodies never fails. -/
theorem look_eq_ok : look source = .ok (check source) := by
  unfold look check
  dsimp only
  rw [Access.collect_eq_ok fun function _ => lookForComplex_eq_ok source function,
    (funext (lookForPlaceholders_eq_ok source) :
      lookForPlaceholders source = fun function => pure (placeholders source function)), List.mapM_pure,
    List.flatMap, ← List.filterMap_eq_map (f := complexityDraft source), List.filterMap_filter]
  simp only [Function.comp_def, decide_eq_true_eq]
  rfl

end Body

/-! ## Remarks -/

namespace Remark

theorem lookForReminder_eq_ok (line : List Char × Nat) :
    lookForReminder line = .ok (reminder? (line.2 + 1) line.1) := by
  unfold lookForReminder reminder?
  cases searched : reminder.search line.1 with
  | none => rfl
  | some found =>
      have mark := Regex.group?_of_search 1 rfl searched
      have text := Regex.group?_of_search 2 rfl searched
      simp only [mark, text, Access.present_some, Access.ok_bind]
      cases isTelling (Text.strip (found.group 2)) <;> rfl

/-! ### The pass over the lines -/

section

variable {number : Nat} {line : List Char} {lines opened : List (List Char)}

/-- A run has a line, and its lines are among those that are numbered. -/
theorem bounds_of_mem_runsFrom {run : Run} (mem : run ∈ runsFrom number lines) :
    number ≤ run.start ∧ 1 ≤ run.lines.length ∧
      run.start + run.lines.length ≤ number + lines.length := by
  induction lines generalizing number run with
  | nil => exact absurd mem List.not_mem_nil
  | cons line rest ih =>
      have later {run : Run} (mem : run ∈ runsFrom (number + 1) rest) :
          number ≤ run.start ∧ 1 ≤ run.lines.length ∧
            run.start + run.lines.length ≤ number + (line :: rest).length := by
        have := ih mem
        simp only [List.length_cons]
        omega
      have alone : number ≤ (Run.mk number [line]).start ∧ 1 ≤ (Run.mk number [line]).lines.length ∧
          (Run.mk number [line]).start + (Run.mk number [line]).lines.length ≤
            number + (line :: rest).length := by
        simp only [List.length_cons, List.length_nil]
        omega
      rw [runsFrom] at mem
      split at mem
      · split at mem
        · rename_i next more runs_eq
          have next_bounds := ih (runs_eq ▸ List.mem_cons_self : next ∈ runsFrom (number + 1) rest)
          split at mem
          · rename_i follows
            have follows : next.start = number + 1 := by simpa using follows
            rcases List.mem_cons.mp mem with rfl | mem
            · simp only [List.length_cons]
              omega
            · exact later (runs_eq ▸ List.mem_cons_of_mem next mem)
          · rcases List.mem_cons.mp mem with rfl | mem
            · exact alone
            · exact later (runs_eq ▸ mem)
        · obtain rfl := List.mem_singleton.mp mem
          exact alone
      · exact later mem

/-- Lines that all look like code are one run. -/
theorem runsFrom_of_all (all : ∀ each ∈ line :: lines, isCommentedCode each = true) :
    runsFrom number (line :: lines) = [⟨number, line :: lines⟩] := by
  induction lines generalizing number line with
  | nil => rw [runsFrom, if_pos (all line List.mem_cons_self), runsFrom]
  | cons next rest ih =>
      obtain ⟨here, there⟩ := List.forall_mem_cons.mp all
      rw [runsFrom, if_pos here, ih there]
      exact if_pos (beq_self_eq_true (number + 1))

/-- A line that does not look like code keeps the runs before it from those after it. -/
theorem runsFrom_append (plain : isCommentedCode line = false) :
    runsFrom number (opened ++ line :: lines) =
      runsFrom number opened ++ runsFrom (number + opened.length + 1) lines := by
  induction opened generalizing number with
  | nil =>
      rw [List.nil_append, runsFrom.eq_2, plain]
      rfl
  | cons first rest ih =>
      have shift : number + 1 + rest.length + 1 = number + (first :: rest).length + 1 := by
        rw [List.length_cons]
        omega
      rw [List.cons_append, runsFrom, runsFrom, ih, shift]
      cases isCommentedCode first with
      | false => rfl
      | true =>
          rw [if_pos rfl, if_pos rfl]
          cases before : runsFrom (number + 1) rest with
          | cons run more =>
              simp only [List.cons_append]
              split <;> rfl
          | nil =>
              cases after : runsFrom (number + (first :: rest).length + 1) lines with
              | nil => rfl
              | cons run more =>
                  -- The next run is too far away to be joined.
                  have far : number + (first :: rest).length + 1 ≤ run.start :=
                    (bounds_of_mem_runsFrom (after ▸ List.mem_cons_self)).1
                  have apart : (run.start == number + 1) = false := by
                    rw [beq_eq_false_iff_ne]
                    rw [List.length_cons] at far
                    omega
                  simp [apart]

theorem runDrafts_append (plain : isCommentedCode line = false) :
    runDrafts number (opened ++ line :: lines) =
      runDrafts number opened ++ runDrafts (number + opened.length + 1) lines := by
  rw [runDrafts, runsFrom_append plain, List.filter_append, List.map_append]
  rfl

/-- The pass has the lines of the run that is open, of which the last has the number. -/
structure Pass.Holds (pass : Pass) (opened : List (List Char)) (number : Nat) : Prop where
  /-- All of them look like code. -/
  code : ∀ line ∈ opened, isCommentedCode line = true
  /-- They are kept without the blanks around them. -/
  kept : pass.run = opened.map Text.strip
  /-- The first of them has the number that is kept. -/
  first : opened ≠ [] → pass.start + opened.length = number + 1

namespace Pass

variable {pass : Pass}

theorem holds_begin : begin.Holds [] 0 :=
  ⟨List.forall_mem_nil _, rfl, fun some => absurd rfl some⟩

/-- Ending the open run reports it as the runs of its lines are reported. -/
theorem Holds.flush (holds : pass.Holds opened number) :
    (pass.flush number).drafts = pass.drafts ++ runDrafts (number + 1 - opened.length) opened := by
  have size : pass.run.length = opened.length := by rw [holds.kept, List.length_map]
  cases opened with
  | nil =>
      rw [Pass.flush, size]
      exact (List.append_nil _).symm
  | cons first rest =>
      have start := holds.first (List.cons_ne_nil first rest)
      have start_eq : number + 1 - (first :: rest).length = pass.start := by omega
      have stop_eq : pass.start + (first :: rest).length - 1 = number := by omega
      rw [runDrafts, runsFrom_of_all holds.code, start_eq, Pass.flush, size]
      dsimp only
      by_cases long : leastRun ≤ (first :: rest).length
      · rw [if_pos long, List.filter_cons, if_pos (decide_eq_true long), List.filter_nil,
          List.map_singleton, runDraft, Run.stop, stop_eq, holds.kept]
      · rw [if_neg long, List.filter_cons, if_neg fun short => long (of_decide_eq_true short),
          List.filter_nil, List.map_nil, List.append_nil]

theorem Holds.step_code (holds : pass.Holds opened number) (code : isCommentedCode line = true) :
    (pass.step (line, number)).Holds (opened ++ [line]) (number + 1) ∧
      (pass.step (line, number)).drafts = pass.drafts := by
  rw [Pass.step, if_pos code]
  refine ⟨⟨?_, ?_, fun _ => ?_⟩, rfl⟩
  · exact List.forall_mem_append.mpr ⟨holds.code, List.forall_mem_singleton.mpr code⟩
  · rw [List.map_append, holds.kept]
    rfl
  · rw [holds.kept, List.length_append]
    cases opened with
    | nil => rfl
    | cons first rest =>
        have start := holds.first (List.cons_ne_nil first rest)
        simp only [List.map_cons, List.isEmpty_cons, List.length_cons, List.length_nil] at start ⊢
        simp only [Bool.false_eq_true, if_false]
        omega

theorem step_plain (pass : Pass) (number : Nat) (plain : isCommentedCode line = false) :
    (pass.step (line, number)).Holds [] (number + 1) ∧
      (pass.step (line, number)).drafts = (pass.flush number).drafts := by
  rw [Pass.step, plain, if_neg Bool.false_ne_true]
  exact ⟨⟨List.forall_mem_nil _, rfl, fun some => absurd rfl some⟩, rfl⟩

/-- Passing the remaining lines adds the findings about the open run and these lines. -/
theorem Holds.foldl (holds : pass.Holds opened number) (lines : List (List Char)) :
    (((lines.zipIdx number).foldl step pass).flush (number + lines.length)).drafts =
      pass.drafts ++ runDrafts (number + 1 - opened.length) (opened ++ lines) := by
  -- The open run grows by the lines that look like code; the others end it.
  induction lines generalizing pass opened number with
  | nil => rw [List.append_nil, ← holds.flush]; rfl
  | cons line rest ih =>
      rw [List.zipIdx_cons, List.foldl_cons, List.length_cons, ← Nat.add_assoc,
        Nat.add_right_comm]
      cases code : isCommentedCode line with
      | true =>
          obtain ⟨holds', drafts⟩ := holds.step_code code
          rw [ih holds', drafts, List.append_assoc, List.length_append, List.length_singleton,
            Nat.add_sub_add_right]
          rfl
      | false =>
          obtain ⟨holds', drafts⟩ := step_plain pass number code
          have size : opened.length ≤ number + 1 := by
            cases opened with
            | nil => exact Nat.zero_le _
            | cons first others =>
                have start := holds.first (List.cons_ne_nil first others)
                omega
          rw [ih holds', drafts, holds.flush, runDrafts_append code, List.append_assoc,
            Nat.sub_add_cancel size]
          rfl

end Pass

/-- One pass over the lines finds what the longest runs are. -/
theorem passLines_eq_runDrafts (lines : List (List Char)) :
    passLines lines = runDrafts 1 lines := by
  have passed := Pass.holds_begin.foldl lines
  rw [Nat.zero_add] at passed
  exact passed

end

/-- The look at remarks never fails. -/
theorem look_eq_ok (source : Source) : look source = .ok (check source) := by
  unfold look check reminders commentedCode
  rw [Access.collect_eq_ok fun line _ => lookForReminder_eq_ok line, List.mapIdx_eq_zipIdx_map,
    List.filterMap_map, passLines_eq_runDrafts]
  rfl

end Remark

/-- What makes code hard to keep is found unless a number is too long to be shown. -/
theorem Detector.qualityCheck_eq (source : Source) :
    qualityCheck source =
      (MagicNumber.check source).map (· ++ Remark.check source ++ Body.check source) := by
  rw [qualityCheck, Remark.look_eq_ok, Body.look_eq_ok]
  cases MagicNumber.check source <;> rfl

/-! ## Names -/

namespace Naming

variable (source : Source) (vocabulary : Vocabulary)

theorem lookForCallback_eq_ok (function : Option Site) :
    lookForCallback source function = .ok (function.any (isIterationCallback source)) := by
  unfold lookForCallback
  simp only [Access.passes_eq_ok, Access.ok_bind]
  cases function with
  | none => rfl
  | some function =>
      rw [Option.any_some, Option.any_some, isIterationCallback]
      cases ["arrow_function", "function_expression", "function"].contains function.kind with
      | false => rfl
      | true =>
          cases list_eq : function.parent? with
          | none => simp [list_eq]
          | some list =>
              by_cases arguments : list.kind = "arguments"
              · cases call_eq : list.parent? with
                | none => simp [list_eq, call_eq]
                | some call =>
                    by_cases isCall : call.kind = "call_expression"
                    · cases callee_eq : call.child? "function" with
                      | none => simp [list_eq, call_eq, callee_eq]
                      | some callee =>
                          by_cases member : callee.kind = "member_expression" <;>
                            simp [list_eq, call_eq, callee_eq, arguments, isCall, member]
                    · simp [list_eq, call_eq, isCall]
              · simp [list_eq, arguments]

theorem lookForExcuse_eq_ok (binding : Binding) :
    lookForExcuse source vocabulary binding = .ok (isAcceptable source vocabulary binding) := by
  unfold lookForExcuse isAcceptable
  rw [lookForCallback_eq_ok]
  cases binding.inLoopHeader with
  | true => rfl
  | false =>
      cases vocabulary.loopNames.contains binding.name &&
          (binding.site.firstAncestor ["for_statement", "for_in_statement"]).isSome with
      | true => rfl
      | false =>
          cases vocabulary.coordinateNames.contains binding.name with
          | true => rfl
          | false =>
              cases caughtNames.contains (String.ofList (Text.lower binding.name)) &&
                  (binding.site.firstAncestor ["catch_clause"]).isSome with
              | true => rfl
              | false =>
                  cases binding.inArrayPattern && binding.name.length == 1 with
                  | true => rfl
                  | false => cases binding.isParameter <;> rfl

theorem lookForSuggestion_eq_ok (name : List Char) (initializer : Option Site) :
    lookForSuggestion source name initializer = .ok (suggestion source name initializer) := by
  unfold lookForSuggestion suggestion
  cases initializer with
  | none => rfl
  | some value =>
      by_cases isCall : value.kind = "call_expression"
      · simp [isCall]
      · by_cases isAwait : value.kind = "await_expression"
        · cases held : value.namedChildren with
          | nil => simp [isAwait, held]
          | cons inner others =>
              by_cases innerCall : inner.kind = "call_expression" <;>
                simp [isAwait, held, innerCall]
        · simp [isCall, isAwait]

theorem lookForGeneric_eq_ok (binding : Binding) :
    lookForGeneric source vocabulary binding =
      .ok (if isGeneric vocabulary binding.name && !isAcceptable source vocabulary binding then
        some (if binding.isParameter then parameterDraft source binding
          else variableDraft source binding) else none) := by
  unfold lookForGeneric
  rw [lookForExcuse_eq_ok, lookForSuggestion_eq_ok]
  cases isGeneric vocabulary binding.name with
  | false => rfl
  | true =>
      cases isAcceptable source vocabulary binding with
      | true => rfl
      | false => cases binding.isParameter <;> rfl

/-- Names are found unless a pattern is too deep. -/
theorem check_eq (room : Nat) :
    check room vocabulary source =
      (Binding.collectWithin room source).map (findings vocabulary source) := by
  unfold check
  cases Binding.collectWithin room source with
  | error failure => rfl
  | ok bindings =>
      have generic : Access.collect (lookForGeneric source vocabulary) bindings =
          .ok (genericNames source vocabulary bindings) := by
        rw [Access.collect_eq_ok fun binding _ => lookForGeneric_eq_ok source vocabulary binding,
          genericNames, ← List.filterMap_eq_map, List.filterMap_filter]
        rfl
      rw [Access.ok_bind, generic]
      rfl

end Naming

end Hazard
