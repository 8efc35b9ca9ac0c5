import Hazard.Detect.Basic

/-!
Functions that branch too much, and functions that do nothing yet.
-/

namespace Hazard.Body

open Regex

/-- Kinds of functions that are looked at. -/
def inspectedKinds : List String :=
  ["function_declaration", "generator_function_declaration", "arrow_function", "method_definition"]

/-- Kinds of nodes that branch. -/
def branchKinds : List String :=
  ["if_statement", "ternary_expression", "for_statement", "for_in_statement", "while_statement",
    "do_statement", "switch_case", "catch_clause"]

/-- Operators that may leave out their right side. -/
def branchOperators : List String := ["&&", "||"]

/-- Above this a function is too complex. -/
def complexityLimit : Nat := 10

/-- Above this a function is far too complex. -/
def criticalComplexity : Nat := 20

/-- The node branches. -/
def isBranch (site : Site) : Bool :=
  branchKinds.contains site.kind ||
    (site.kind == "binary_expression" &&
      (site.child? "operator").any fun operator => branchOperators.contains operator.kind)

/-- One more than the number of branches below a function. -/
def complexity (function : Site) : Nat := (function.below.filter isBranch).length + 1

/-- The finding about a function that branches too much. -/
def complexityDraft (source : Source) (function : Site) : Draft :=
  { kind := .overlyComplexFunction
    severity := if criticalComplexity < complexity function then .critical else .warning
    startLine := source.startLine function
    endLine := source.endLine function
    columns := none
    description := "Function" ++ String.ofList (source.functionTag function) ++
      " has cyclomatic complexity of " ++ toString (complexity function)
    explanation := "High complexity (>" ++ toString complexityLimit ++
      ") makes code harder to understand, test, and maintain. " ++
      "Consider breaking it into smaller functions."
    codeSnippet := String.ofList (Text.truncate 200 (source.textOf function))
    suggestion := some "Extract logical branches into separate functions with descriptive names"
    confidence := Draft.percent 85
    autoFixAvailable := false }

/-- A body that only says it is not there yet. -/
def notImplemented : Regex :=
  concat (chars .unicode "throw" ++ [many1 blank] ++ chars .unicode "new" ++ [many1 blank] ++
    chars .unicode "Error" ++ [many blank, char .unicode '(', many blank,
      oneOf .unicode (members "'\"")] ++ chars .unicode "not" ++ [many blank] ++
    chars .unicode "implemented")

/-- A reminder to write the body. -/
def reminder : Regex :=
  concat (chars .unicode "//" ++ [many blank] ++ chars .unicode "TODO" ++
    [many blank, perhaps (char .unicode ':'), many blank,
      .group 1 (words .unicode ["implement", "add", "fix", "complete"])])

/-- The finding about a function whose body says that it is not there. -/
def notImplementedDraft (source : Source) (function : Site) : Draft :=
  { kind := .placeholderImplementation
    severity := .critical
    startLine := source.startLine function
    endLine := source.endLine function
    columns := none
    description := "Function throws \"not implemented\" - placeholder code"
    explanation := "This function has a placeholder implementation that will fail at runtime. " ++
      "Complete the implementation or remove it if it's not needed."
    codeSnippet := String.ofList (Text.truncate 200 (source.textOf function))
    suggestion := some "Implement the function or remove it"
    confidence := Draft.percent 95
    autoFixAvailable := false }

/-- The finding about a function with a reminder to write it. -/
def reminderDraft (source : Source) (function : Site) : Draft :=
  { kind := .placeholderImplementation
    severity := .warning
    startLine := source.startLine function
    endLine := source.endLine function
    columns := none
    description := "Function has TODO indicating incomplete implementation"
    explanation := "This function contains a TODO suggesting it needs more work. " ++
      "Review and complete before committing."
    codeSnippet := String.ofList (Text.truncate 200 (source.textOf function))
    suggestion := some "Complete the TODO or add a detailed explanation of what remains"
    confidence := Draft.percent 75
    autoFixAvailable := false }

/-- The finding about a function without statements. -/
def emptyDraft (source : Source) (function : Site) : Draft :=
  { kind := .placeholderImplementation
    severity := .warning
    startLine := source.startLine function
    endLine := source.endLine function
    columns := none
    description := "Function" ++ String.ofList (source.functionTag function) ++ " has empty body"
    explanation := "This function does nothing. Either implement it or remove it."
    codeSnippet := String.ofList (source.textOf function)
    suggestion := some "Add implementation or remove the function"
    confidence := Draft.percent 80
    autoFixAvailable := false }

/-- The function is meant to do nothing: an arrow that is an argument or the value of a property. -/
def isDeliberate (function : Site) : Bool :=
  function.kind == "arrow_function" &&
    function.parent?.any fun parent =>
      parent.kind == "pair" ||
        (parent.kind == "arguments" && parent.parent?.any fun call =>
          ["call_expression", "new_expression"].contains call.kind)

/-- The body is a block without statements. -/
def isEmptyBlock (body : Site) : Bool :=
  body.kind == "statement_block" && body.statements.isEmpty

/-- The findings about one function that does nothing yet. -/
def placeholders (source : Source) (function : Site) : List Draft :=
  match function.child? "body" with
  | none => []
  | some body =>
    let text := source.textOf body
    if notImplemented.occursIn text then [notImplementedDraft source function]
    else
      (if reminder.occursIn text then [reminderDraft source function] else []) ++
        (if isEmptyBlock body && !isDeliberate function then [emptyDraft source function] else [])

/-- All findings about the bodies of functions. -/
def check (source : Source) : List Draft :=
  let functions := source.ofKinds inspectedKinds
  (functions.filter fun function => complexityLimit < complexity function).map
      (complexityDraft source) ++
    functions.flatMap (placeholders source)

/-! The same with every look at a part of the tree, which fails where there is no such part. -/

/-- Looks at a node for a branch. -/
def lookForBranch (site : Site) : Except Failure Bool := do
  if branchKinds.contains site.kind then pure true
  else if site.kind == "binary_expression" then
    Access.passes (site.child? "operator") fun operator => branchOperators.contains operator.kind
  else pure false

/-- Counts the branches below a function. -/
def lookForComplexity (function : Site) : Except Failure Nat :=
  function.below.foldlM (fun count site => do
    if ← lookForBranch site then pure (count + 1) else pure count) 1

/-- Looks at a function for too many branches. -/
def lookForComplex (source : Source) (function : Site) : Except Failure (Option Draft) := do
  if complexityLimit < (← lookForComplexity function) then
    pure (some (complexityDraft source function))
  else pure none

/-- Looks above a function for what makes it one that is meant to do nothing. -/
def lookForIntent (function : Site) : Except Failure Bool := do
  if function.kind != "arrow_function" then pure false
  else
    let parent := function.parent?
    if parent.isNone then pure false
    else
      let parent ← Access.present parent
      if parent.kind == "pair" then pure true
      else if parent.kind == "arguments" then
        Access.passes parent.parent? fun call =>
          ["call_expression", "new_expression"].contains call.kind
      else pure false

/-- Looks at the body of a function for something that it does. -/
def lookForPlaceholders (source : Source) (function : Site) : Except Failure (List Draft) := do
  let body := function.child? "body"
  if body.isNone then pure []
  else
    let body ← Access.present body
    let text := source.textOf body
    if notImplemented.occursIn text then pure [notImplementedDraft source function]
    else
      let reminders :=
        if reminder.occursIn text then [reminderDraft source function] else []
      if !isEmptyBlock body then pure reminders
      else if ← lookForIntent function then pure reminders
      else pure (reminders ++ [emptyDraft source function])

/-- Looks for all that is found about the bodies of functions. -/
def look (source : Source) : Except Failure (List Draft) := do
  let functions := source.ofKinds inspectedKinds
  let complex ← Access.collect (lookForComplex source) functions
  let placeholders ← functions.mapM (lookForPlaceholders source)
  pure (complex ++ placeholders.flatten)

end Hazard.Body
