import Hazard.Detect.Basic

/-!
Ways to run text as a program: queries put together from parts, evaluation of text, and random numbers
that can be foreseen where they must not be.
-/

namespace Hazard.Injection

open Regex

/-- A word of the query language. -/
def queryWord : Regex :=
  concat
    [wordEdge,
      .group 1 (words .unicode
        ["SELECT", "INSERT", "UPDATE", "DELETE", "FROM", "WHERE", "JOIN", "AND", "OR"]),
      wordEdge]

/-- A word that tells of security. -/
def securityWord : Regex :=
  concat
    [wordEdge,
      .group 1 (words .unicode
        ["token", "secret", "key", "password", "auth", "session", "csrf", "nonce", "salt", "hash",
          "id", "uuid"]),
      wordEdge]

/-- Functions that run something later. -/
def timerFunctions : List String := ["setTimeout", "setInterval"]

/-- The node adds two things. -/
def isSum (site : Site) : Bool :=
  site.kind == "binary_expression" && (site.child? "operator").any (·.kind == "+")

/-- The node is a sum that is no part of a larger one. -/
def isOutermostSum (site : Site) : Bool := isSum site && !site.parent?.any isSum

/-- The template has a part that is computed. -/
def hasSubstitution (template : Site) : Bool :=
  template.namedChildren.any (·.kind == "template_substitution")

/-- The sum has a part that is computed. -/
def hasVariablePart (sum : Site) : Bool :=
  !(sum.descendants ["identifier", "member_expression"]).isEmpty

/-- The finding about a query with computed parts. -/
def templateDraft (source : Source) (template : Site) : Draft :=
  { kind := .sqlConcatenation
    severity := .critical
    startLine := source.startLine template
    endLine := source.endLine template
    columns := none
    description := "SQL query with string interpolation - potential SQL injection"
    explanation := "Building SQL queries with string interpolation can lead to SQL injection " ++
      "vulnerabilities. Use parameterized queries instead."
    codeSnippet := String.ofList (Text.truncate 150 (source.textOf template))
    suggestion := some "Use parameterized queries or an ORM with proper escaping"
    confidence := Draft.percent 85
    autoFixAvailable := false }

/-- The finding about a query that is added up. -/
def sumDraft (source : Source) (sum : Site) : Draft :=
  { kind := .sqlConcatenation
    severity := .critical
    startLine := source.startLine sum
    endLine := source.endLine sum
    columns := none
    description := "SQL query built with string concatenation - potential SQL injection"
    explanation := "Building SQL queries with string concatenation can lead to SQL injection " ++
      "vulnerabilities."
    codeSnippet := String.ofList (Text.truncate 150 (source.textOf sum))
    suggestion := some "Use parameterized queries or an ORM"
    confidence := Draft.percent 80
    autoFixAvailable := false }

/-- The findings about templates. -/
def templates (source : Source) : List Draft :=
  ((source.ofKinds ["template_string"]).filter fun template =>
    hasSubstitution template && queryWord.occursIn (source.textOf template)).map
      (templateDraft source)

/-- The findings about sums, of which a chain has at most one. -/
def sums (source : Source) : List Draft :=
  ((source.ofKinds ["binary_expression"]).filter fun sum =>
    isOutermostSum sum && queryWord.occursIn (source.textOf sum) && hasVariablePart sum).map
      (sumDraft source)

/-- The finding about evaluation of text. -/
def evaluationDraft (source : Source) (call : Site) : Draft :=
  { kind := .unsafeEval
    severity := .critical
    startLine := source.startLine call
    endLine := source.endLine call
    columns := none
    description := "Use of eval() is a security risk"
    explanation := "eval() can execute arbitrary code and is a common source of security " ++
      "vulnerabilities. It also prevents JavaScript engine optimizations."
    codeSnippet := String.ofList (source.textOf call)
    suggestion := some
      "Use JSON.parse() for JSON data, or restructure code to avoid dynamic evaluation"
    confidence := Draft.percent 95
    autoFixAvailable := false }

/-- The finding about a function made of text. -/
def constructorDraft (source : Source) (call : Site) (description : String) : Draft :=
  { kind := .unsafeEval
    severity := .critical
    startLine := source.startLine call
    endLine := source.endLine call
    columns := none
    description := description
    explanation := "The Function constructor creates a function from a string, which has similar " ++
      "security risks to eval()."
    codeSnippet := String.ofList (source.textOf call)
    suggestion := some "Use regular function declarations or arrow functions"
    confidence := Draft.percent 90
    autoFixAvailable := false }

/-- The finding about text that a timer runs. -/
def timerDraft (source : Source) (call : Site) (function : String) : Draft :=
  { kind := .unsafeEval
    severity := .warning
    startLine := source.startLine call
    endLine := source.endLine call
    columns := none
    description := function ++ " with string argument is similar to eval()"
    explanation := "Passing a string to setTimeout/setInterval causes it to be evaluated, " ++
      "which is a security risk."
    codeSnippet := String.ofList (source.textOf call)
    suggestion := some "Pass a function reference instead of a string"
    confidence := Draft.percent 90
    autoFixAvailable := false }

/-- The finding about one call that runs text. -/
def evaluation? (source : Source) (call : Site) : Option Draft :=
  let function := String.ofList (source.callee call)
  if call.kind == "new_expression" then
    if function == "Function" then
      some (constructorDraft source call "Use of new Function() is similar to eval()")
    else none
  else if function == "eval" then some (evaluationDraft source call)
  else if function == "Function" then
    some (constructorDraft source call "Use of Function constructor is similar to eval()")
  else if timerFunctions.contains function && call.arguments.head?.any (·.kind == "string") then
    some (timerDraft source call function)
  else none

/-- The findings about calls that run text. -/
def evaluations (source : Source) : List Draft :=
  (source.ofKinds ["call_expression", "new_expression"]).filterMap (evaluation? source)

/-- What surrounds a call: the node two levels above it, or one if there are not two. -/
def surroundings (call : Site) : Option Site :=
  match call.parent? with
  | none => none
  | some parent => parent.parent?.or (some parent)

/-- The finding about a random number that can be foreseen. -/
def randomDraft (source : Source) (call : Site) (context : List Char) : Draft :=
  { kind := .insecureRandom
    severity := .warning
    startLine := source.startLine call
    endLine := source.endLine call
    columns := none
    description := "Math.random() used in potentially security-sensitive context"
    explanation := "Math.random() is not cryptographically secure. For security purposes, " ++
      "use crypto.randomBytes() or crypto.getRandomValues()."
    codeSnippet := String.ofList (Text.truncate 100 context)
    suggestion := some
      "Use crypto.randomUUID() or crypto.randomBytes() for security-sensitive operations"
    confidence := Draft.percent 75
    autoFixAvailable := false }

/-- The finding about one call for a random number. -/
def random? (source : Source) (call : Site) : Option Draft :=
  let context := source.textOf? (surroundings call)
  if source.callee call == "Math.random".toList && securityWord.occursIn context then
    some (randomDraft source call context)
  else none

/-- The findings about random numbers. -/
def randomNumbers (source : Source) : List Draft :=
  (source.ofKinds ["call_expression"]).filterMap (random? source)

/-- All findings about text that runs and numbers that can be foreseen. -/
def check (source : Source) : List Draft :=
  templates source ++ sums source ++ evaluations source ++ randomNumbers source

/-! The same with every look at a part of the tree, which fails where there is no such part. -/

/-- Looks at a node for an addition. -/
def lookForSum (site : Site) : Except Failure Bool := do
  if site.kind != "binary_expression" then pure false
  else Access.passes (site.child? "operator") (·.kind == "+")

/-- Looks at a node and the one above it for a sum that is no part of a larger one. -/
def lookForOutermost (site : Site) : Except Failure Bool := do
  if !(← lookForSum site) then pure false
  else
    let parent := site.parent?
    if parent.isNone then pure true
    else
      let parent ← Access.present parent
      pure !(← lookForSum parent)

/-- Looks at a node for a query that is added up. -/
def lookForQuery (source : Source) (sum : Site) : Except Failure (Option Draft) := do
  if !(← lookForOutermost sum) then pure none
  else if !queryWord.occursIn (source.textOf sum) then pure none
  else if hasVariablePart sum then pure (some (sumDraft source sum))
  else pure none

/-- Looks at the first argument of a call for a text. -/
def lookForText (call : Site) : Except Failure Bool := do
  let arguments := call.arguments
  if arguments.isEmpty then pure false
  else
    let argument ← Access.first arguments
    pure (argument.kind == "string")

/-- Looks at a call for the running of text. -/
def lookForEvaluation (source : Source) (call : Site) : Except Failure (Option Draft) := do
  let function := String.ofList (source.callee call)
  if call.kind == "new_expression" then
    if function == "Function" then
      pure (some (constructorDraft source call "Use of new Function() is similar to eval()"))
    else pure none
  else if function == "eval" then pure (some (evaluationDraft source call))
  else if function == "Function" then
    pure (some (constructorDraft source call "Use of Function constructor is similar to eval()"))
  else if timerFunctions.contains function then
    if ← lookForText call then pure (some (timerDraft source call function)) else pure none
  else pure none

/-- Looks two levels above a call, or one if there are not two. -/
def lookAround (call : Site) : Except Failure (Option Site) := do
  let parent := call.parent?
  if parent.isNone then pure none
  else
    let above ← Access.present parent
    if above.parent?.isSome then pure above.parent? else pure parent

/-- Looks at a call for a random number that can be foreseen. -/
def lookForRandom (source : Source) (call : Site) : Except Failure (Option Draft) := do
  if source.callee call != "Math.random".toList then pure none
  else
    let context := source.textOf? (← lookAround call)
    if securityWord.occursIn context then pure (some (randomDraft source call context))
    else pure none

/-- Looks for all that is found about text that runs and numbers that can be foreseen. -/
def look (source : Source) : Except Failure (List Draft) := do
  let queries ← Access.collect (lookForQuery source) (source.ofKinds ["binary_expression"])
  let evaluations ← Access.collect (lookForEvaluation source)
    (source.ofKinds ["call_expression", "new_expression"])
  let randoms ← Access.collect (lookForRandom source) (source.ofKinds ["call_expression"])
  pure (templates source ++ queries ++ evaluations ++ randoms)

end Hazard.Injection
