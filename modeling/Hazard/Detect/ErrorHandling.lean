import Hazard.Detect.Basic

/-!
Code that loses or hides errors: empty catch blocks, caught errors that nobody looks at, missing catch
clauses, unprotected awaits and messages that tell nothing.
-/

namespace Hazard.ErrorHandling

/-- Messages shorter than this are searched for phrases; longer ones must equal one. -/
def shortMessage : Nat := 30

/-- The finding about an unprotected function covers at most this many lines after its first. -/
def boundarySpan : Nat := 10

/-- The block holds no statement. -/
def isEmptyBlock (block : Site) : Bool := block.statements.isEmpty

/-- The name of the caught error, if it is a plain one. -/
def caughtName? (source : Source) (clause : Site) : Option (List Char) :=
  match clause.child? "parameter" with
  | some parameter =>
    if parameter.kind == "identifier" then some (source.textOf parameter) else none
  | none => none

/-- The finding about a catch clause without statements. -/
def emptyCatchDraft (source : Source) (clause : Site) : Draft :=
  let name := match caughtName? source clause with
    | some (c :: rest) => String.ofList (c :: rest)
    | _ => "error"
  { kind := .emptyCatchBlock
    severity := .critical
    startLine := source.startLine clause
    endLine := source.endLine clause
    columns := none
    description := "Empty catch block silently swallows errors"
    explanation := "Empty catch blocks hide errors and make debugging extremely difficult. " ++
      "At minimum, log the error or add a comment explaining why it's intentionally ignored."
    codeSnippet := String.ofList (source.textOf clause)
    suggestion := some ("catch (" ++ name ++ ") \x7b\n  console.error('Operation failed:', " ++ name ++
      ");\n  throw " ++ name ++ "; // or handle appropriately\n\x7d")
    confidence := Draft.percent 95
    autoFixAvailable := true }

/-- The finding about one catch clause that has no statements. -/
def emptyCatch? (source : Source) (clause : Site) : Option Draft :=
  match clause.child? "body" with
  | some body => if isEmptyBlock body then some (emptyCatchDraft source clause) else none
  | none => none

/-- The caught error is mentioned somewhere in the block. -/
def mentions (source : Source) (block : Site) (name : List Char) : Bool :=
  (block.descendants ["identifier", "shorthand_property_identifier"]).any fun site =>
    source.textOf site == name

/-- The finding about a caught error that is never used. -/
def swallowedDraft (source : Source) (clause : Site) (name : List Char) : Draft :=
  { kind := .swallowedError
    severity := .warning
    startLine := source.startLine clause
    endLine := source.endLine clause
    columns := none
    description := "Caught error \"" ++ String.ofList name ++ "\" is never used"
    explanation := "The error is caught but never logged, rethrown, or otherwise handled. " ++
      "This can hide important error information."
    codeSnippet := String.ofList (source.textOf clause)
    suggestion := some ("Consider logging the error: console.error('Operation failed:', " ++
      String.ofList name ++ ");")
    confidence := Draft.percent 85
    autoFixAvailable := false }

/-- The finding about one catch clause that does not look at its error. -/
def swallowed? (source : Source) (clause : Site) : Option Draft :=
  match clause.child? "body", caughtName? source clause with
  | some body, some name =>
    if name.isEmpty || isEmptyBlock body || mentions source body name then none
    else some (swallowedDraft source clause name)
  | _, _ => none

/-- A `try`, as the tree or the recovery from a syntax error shows it: where it starts, whether it
has a catch and a finally clause, and its block. -/
structure Attempt where
  start : Site
  hasCatch : Bool
  hasFinally : Bool
  block : Option Site

/-- The node as a `try`. -/
def attempt? (site : Site) : Option Attempt :=
  if site.kind == "try_statement" then
    some ⟨site, (site.child? "handler").isSome, (site.child? "finalizer").isSome,
      site.child? "body"⟩
  else if site.kind == "ERROR" then
    (site.children.find? (·.kind == "try")).map fun start =>
      ⟨start, site.hasChild "catch_clause", site.hasChild "finally_clause", none⟩
  else none

/-- The finding about a `try` that has neither clause. -/
def bareTryDraft (source : Source) (site start : Site) : Draft :=
  { kind := .emptyCatchBlock
    severity := .critical
    startLine := source.startLine start
    endLine := source.endLine site
    columns := none
    description := "try block without catch or finally - syntax error"
    explanation := "A try block must have either a catch clause, a finally clause, or both. " ++
      "This code will fail to parse at runtime."
    codeSnippet := String.ofList
      (Text.truncate 200 (source.slice ⟨start.span.start, site.span.stop⟩))
    suggestion := some "Add a catch clause to handle errors, or a finally clause for cleanup"
    confidence := Draft.percent 100
    autoFixAvailable := false }

/-- The finding about a `try` with a finally clause only. -/
def finallyOnlyDraft (source : Source) (site : Site) : Draft :=
  { kind := .tryWithoutCatch
    severity := .info
    startLine := source.startLine site
    endLine := source.endLine site
    columns := none
    description := "try...finally without catch - errors will propagate"
    explanation := "This try block has a finally clause but no catch. Errors will propagate to " ++
      "the caller. This is valid for cleanup patterns, but consider if errors should be handled here."
    codeSnippet := String.ofList (Text.truncate 200 (source.textOf site))
    suggestion := some ("Add a catch clause if errors should be handled at this level, " ++
      "or document why propagation is intended")
    confidence := Draft.percent 60
    autoFixAvailable := false }

/-- Something in the block can fail. -/
def canFail (block : Site) : Bool :=
  !(block.descendants ["await_expression", "throw_statement", "call_expression"]).isEmpty

/-- The finding about a `try` without a catch clause. -/
def uncaught? (source : Source) (site : Site) : Option Draft :=
  match attempt? site with
  | none => none
  | some found =>
    if found.hasCatch then none
    else if !found.hasFinally then some (bareTryDraft source site found.start)
    else if found.block.any canFail then some (finallyOnlyDraft source site)
    else none

/-- The nodes of a function body that belong to no function inside it. -/
def ownNodes (body : Site) : List Site := body.walkUnless (·.isFunction)

/-- The blocks among the nodes that a `try` protects. -/
def protectedBlocks (nodes : List Site) : List Site :=
  nodes.filterMap fun site => if site.kind == "try_statement" then site.child? "body" else none

/-- The awaits of a function body that no `try` of the same function protects. -/
def unprotectedAwaits (body : Site) : List Site :=
  let nodes := ownNodes body
  let blocks := protectedBlocks nodes
  nodes.filter fun site => site.kind == "await_expression" && !blocks.any site.isWithin

/-- The finding about a function with unprotected awaits. -/
def boundaryDraft (source : Source) (function : Site) (count : Nat) : Draft :=
  let start := source.startLine function
  { kind := .missingErrorBoundary
    severity := .warning
    startLine := start
    endLine := min (source.endLine function) (start + boundarySpan)
    columns := none
    description := "Async function" ++ String.ofList (source.functionTag function) ++
      " has unhandled promise rejections"
    explanation := "This async function has " ++ toString count ++
      " await expression(s) without error handling. " ++
      "Unhandled rejections can crash your application or cause silent failures."
    codeSnippet := String.ofList (Text.truncate 300 (source.textOf function))
    suggestion := some "Wrap await calls in try-catch or add .catch() handler"
    confidence := Draft.percent 75
    autoFixAvailable := false }

/-- The finding about one function whose awaits are not protected. -/
def boundary? (source : Source) (site : Site) : Option Draft :=
  if site.isFunction && site.isAsync then
    match site.child? "body" with
    | none => none
    | some body =>
      let awaits := unprotectedAwaits body
      if awaits.isEmpty then none else some (boundaryDraft source site awaits.length)
  else none

/-- The message says nothing. -/
def isGenericMessage (vocabulary : Vocabulary) (text : List Char) : Bool :=
  vocabulary.errorMessages.any fun message =>
    text == message || (text.length < shortMessage && Text.contains text message)

/-- The node stands where errors are made or handled. -/
def inErrorContext (source : Source) (site : Site) : Bool :=
  (site.firstAncestor ["throw_statement"]).isSome ||
    (site.firstAncestor ["new_expression"]).any
      (fun made => "Error".toList.isSuffixOf (source.callee made)) ||
    (site.firstAncestor ["catch_clause"]).isSome ||
    (site.firstAncestor ["call_expression"]).any
      (fun call => source.callee call == "reject".toList)

/-- The finding about a message that says nothing. -/
def messageDraft (source : Source) (literal : Site) : Draft :=
  { kind := .genericErrorMessage
    severity := .info
    startLine := source.startLine literal
    endLine := source.endLine literal
    columns := some (source.startColumn literal, source.endColumn literal)
    description := "Generic error message provides no debugging context"
    explanation := "Error messages should describe what operation failed and why. " ++
      "Generic messages make debugging difficult."
    codeSnippet := String.ofList (source.textOf literal)
    suggestion := some "Include operation name, input values, and specific failure reason"
    confidence := Draft.percent 70
    autoFixAvailable := false }

/-- The findings about messages. -/
def messages (source : Source) (vocabulary : Vocabulary) : List Draft :=
  ((source.ofKinds ["string"]).filter fun literal =>
    isGenericMessage vocabulary (Text.lower (source.stringValue literal)) &&
      inErrorContext source literal).map (messageDraft source)

/-- All findings about the handling of errors. -/
def findings (vocabulary : Vocabulary) (source : Source) : List Draft :=
  let clauses := source.ofKinds ["catch_clause"]
  clauses.filterMap (emptyCatch? source) ++ clauses.filterMap (swallowed? source) ++
    source.walk.filterMap (uncaught? source) ++ source.walk.filterMap (boundary? source) ++
    messages source vocabulary

/-! The same with every look at a part of the tree, which fails where there is no such part. -/

/-- The block, which has to be there, holds no statement. -/
def lookForEmpty (block : Option Site) : Except Failure Bool := do
  let block ← Access.present block
  pure block.statements.isEmpty

/-- The name of the caught error, if it is a plain one. -/
def lookForName (source : Source) (clause : Site) : Except Failure (Option (List Char)) := do
  let parameter := clause.child? "parameter"
  if parameter.isNone then pure none
  else
    let parameter ← Access.present parameter
    if parameter.kind != "identifier" then pure none else pure (some (source.textOf parameter))

/-- Looks at a catch clause for statements. -/
def lookForEmptyCatch (source : Source) (clause : Site) : Except Failure (Option Draft) := do
  let body := clause.child? "body"
  if body.isNone then pure none
  else if ← lookForEmpty body then pure (some (emptyCatchDraft source clause))
  else pure none

/-- Looks at a catch clause for its error. -/
def lookForSwallowed (source : Source) (clause : Site) : Except Failure (Option Draft) := do
  let body := clause.child? "body"
  let name ← lookForName source clause
  if body.isNone || name.all List.isEmpty then pure none
  else if ← lookForEmpty body then pure none
  else
    let body ← Access.present body
    let name ← Access.present name
    if mentions source body name then pure none
    else pure (some (swallowedDraft source clause name))

/-- Looks at a node for a `try`; where the tree shows the recovery from an error, its start is among
the children. -/
def lookForAttempt (site : Site) : Except Failure (Option Attempt) := do
  if site.kind == "try_statement" then
    pure (some ⟨site, (site.child? "handler").isSome, (site.child? "finalizer").isSome,
      site.child? "body"⟩)
  else if site.kind == "ERROR" && site.hasChild "try" then
    let start ← Access.firstSuch (·.kind == "try") site.children
    pure (some ⟨start, site.hasChild "catch_clause", site.hasChild "finally_clause", none⟩)
  else pure none

/-- Looks at a node for a `try` without a catch clause. -/
def lookForUncaught (source : Source) (site : Site) : Except Failure (Option Draft) := do
  match ← lookForAttempt site with
  | none => pure none
  | some found =>
    if !found.hasCatch && !found.hasFinally then
      pure (some (bareTryDraft source site found.start))
    else if found.hasCatch || found.block.isNone then pure none
    else
      let block ← Access.present found.block
      if canFail block then pure (some (finallyOnlyDraft source site)) else pure none

/-- Looks at a node for awaits that are not protected. -/
def lookForBoundary (source : Source) (site : Site) : Except Failure (Option Draft) := do
  if !site.isFunction || !site.isAsync then pure none
  else
    let body := site.child? "body"
    if body.isNone then pure none
    else
      let body ← Access.present body
      let awaits := unprotectedAwaits body
      if awaits.isEmpty then pure none else pure (some (boundaryDraft source site awaits.length))

/-- Looks around a node for the making or handling of errors. -/
def lookForContext (source : Source) (site : Site) : Except Failure Bool := do
  if (site.firstAncestor ["throw_statement"]).isSome then pure true
  else if ← Access.passes (site.firstAncestor ["new_expression"]) fun made =>
      "Error".toList.isSuffixOf (source.callee made) then pure true
  else if (site.firstAncestor ["catch_clause"]).isSome then pure true
  else
    Access.passes (site.firstAncestor ["call_expression"]) fun call =>
      source.callee call == "reject".toList

/-- Looks at a literal for a message. -/
def lookForMessage (source : Source) (vocabulary : Vocabulary) (literal : Site) :
    Except Failure (Option Draft) := do
  if !isGenericMessage vocabulary (Text.lower (source.stringValue literal)) then pure none
  else if ← lookForContext source literal then pure (some (messageDraft source literal))
  else pure none

/-- Looks for all that is found about the handling of errors. -/
def check (vocabulary : Vocabulary) (source : Source) : Except Failure (List Draft) := do
  let clauses := source.ofKinds ["catch_clause"]
  let emptyCatches ← Access.collect (lookForEmptyCatch source) clauses
  let swallowed ← Access.collect (lookForSwallowed source) clauses
  let uncaught ← Access.collect (lookForUncaught source) source.walk
  let boundaries ← Access.collect (lookForBoundary source) source.walk
  let messages ← Access.collect (lookForMessage source vocabulary) (source.ofKinds ["string"])
  pure (emptyCatches ++ swallowed ++ uncaught ++ boundaries ++ messages)

end Hazard.ErrorHandling
