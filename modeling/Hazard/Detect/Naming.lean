import Hazard.Detect.Binding
import Hazard.Detect.Convention

/-!
Names that say nothing about what they stand for, and names that follow another convention than most
names of their file.
-/

namespace Hazard.Naming

/-- Methods whose callbacks may have short parameter names. -/
def callbackMethods : List String := ["map", "filter", "forEach", "reduce", "find", "some", "every"]

/-- Names that are fine for a caught error. -/
def caughtNames : List String := ["e", "err", "error"]

/-- The name says nothing: it is listed, or a single character that is not listed as harmless. -/
def isGeneric (vocabulary : Vocabulary) (name : List Char) : Bool :=
  vocabulary.genericNames.contains (Text.lower name) ||
    (name.length == 1 && !vocabulary.loopNames.contains name &&
      !vocabulary.coordinateNames.contains name)

/-- The function is passed to an iteration method. -/
def isIterationCallback (source : Source) (function : Site) : Bool :=
  ["arrow_function", "function_expression", "function"].contains function.kind &&
    match function.parent? with
    | none => false
    | some list =>
      list.kind == "arguments" &&
        match list.parent? with
        | none => false
        | some call =>
          call.kind == "call_expression" &&
            match call.child? "function" with
            | none => false
            | some callee =>
              callee.kind == "member_expression" &&
                callbackMethods.contains
                  (String.ofList (source.textOf? (callee.child? "property")))

/-- The name is fine where it stands. -/
def isAcceptable (source : Source) (vocabulary : Vocabulary) (binding : Binding) : Bool :=
  binding.inLoopHeader ||
    (vocabulary.loopNames.contains binding.name &&
      (binding.site.firstAncestor ["for_statement", "for_in_statement"]).isSome) ||
    vocabulary.coordinateNames.contains binding.name ||
    (caughtNames.contains (String.ofList (Text.lower binding.name)) &&
      (binding.site.firstAncestor ["catch_clause"]).isSome) ||
    (binding.inArrayPattern && binding.name.length == 1) ||
    (binding.isParameter && binding.owner.any (isIterationCallback source))

/-- A better name, by the function whose result the variable is. -/
def calleeSuggestion (callee : List Char) : String :=
  let shown := String.ofList callee
  if "get".toList.isPrefixOf callee then
    "Consider: " ++ String.ofList (Text.lower (callee.drop 3)) ++ " or " ++ shown ++ "Result"
  else if "fetch".toList.isPrefixOf callee then
    "Consider: " ++ String.ofList (Text.lower (callee.drop 5)) ++ " or " ++ shown ++ "Response"
  else "Consider naming based on what " ++ shown ++ "() returns"

/-- A better name, by what the variable is initialized with. -/
def suggestion (source : Source) (name : List Char) (initializer : Option Site) : String :=
  let general := "Consider a name that describes the purpose or content of this " ++
    String.ofList name
  match initializer with
  | none => general
  | some value =>
    if value.kind == "call_expression" then calleeSuggestion (source.callee value)
    else if value.kind == "await_expression" then
      match value.namedChildren with
      | [] => general
      | inner :: _ =>
        if inner.kind == "call_expression" then
          "Consider naming based on the async operation: " ++ String.ofList (source.callee inner)
        else general
    else general

/-- The columns of the bound name. -/
def columns (source : Source) (binding : Binding) : Nat × Nat :=
  (source.startColumn binding.site, source.endColumn binding.site)

/-- What a variable is initialized with. -/
def initializer? (binding : Binding) : Option Site :=
  if binding.declaration.kind == "variable_declarator" then binding.declaration.child? "value"
  else none

/-- The finding about a variable for which a better name is suggested. -/
def suggestedDraft (source : Source) (binding : Binding) (suggested : String) : Draft :=
  let isDeclarator := binding.declaration.kind == "variable_declarator"
  let initializer := initializer? binding
  let shown := if isDeclarator then binding.declaration else binding.site
  let name := String.ofList binding.name
  let assigned := match initializer with
    | some value =>
      "It's assigned: " ++ String.ofList ((source.textOf value).take 50) ++ "..."
    | none => ""
  { kind := .genericVariableName
    severity := .warning
    startLine := source.startLine binding.site
    endLine := source.endLine shown
    columns := some (columns source binding)
    description := "Variable \"" ++ name ++ "\" is a generic name"
    explanation := "Consider renaming to describe what \"" ++ name ++ "\" contains. " ++ assigned
    codeSnippet := String.ofList (source.textOf shown)
    suggestion := some suggested
    confidence := Draft.percent 85
    autoFixAvailable := false }

/-- The finding about a variable. -/
def variableDraft (source : Source) (binding : Binding) : Draft :=
  suggestedDraft source binding (suggestion source binding.name (initializer? binding))

/-- The finding about a parameter. -/
def parameterDraft (source : Source) (binding : Binding) : Draft :=
  let function := match binding.owner.bind source.functionName? with
    | some (c :: rest) => String.ofList (c :: rest)
    | _ => "anonymous function"
  { kind := .genericVariableName
    severity := .warning
    startLine := source.startLine binding.declaration
    endLine := source.endLine binding.declaration
    columns := some (columns source binding)
    description := "Parameter \"" ++ String.ofList binding.name ++ "\" in " ++ function ++
      " is a generic name"
    explanation := "Consider a more descriptive name that indicates the parameter's purpose"
    codeSnippet := String.ofList (source.textOf binding.declaration)
    suggestion := none
    confidence := Draft.percent 80
    autoFixAvailable := false }

/-- The findings about names that say nothing. -/
def genericNames (source : Source) (vocabulary : Vocabulary) (bindings : List Binding) :
    List Draft :=
  (bindings.filter fun binding =>
    isGeneric vocabulary binding.name && !isAcceptable source vocabulary binding).map fun binding =>
      if binding.isParameter then parameterDraft source binding else variableDraft source binding

/-- The bindings whose conventions are compared, each with its own. -/
def compared (bindings : List Binding) : List (Binding × Convention) :=
  (bindings.filter fun binding => !binding.isParameter && !binding.destructured).map fun binding =>
    (binding, Convention.ofName binding.name)

/-- One more use of a convention; new conventions go to the end. -/
def tally (convention : Convention) : List (Convention × Nat) → List (Convention × Nat)
  | [] => [(convention, 1)]
  | (known, count) :: rest =>
    if known == convention then (known, count + 1) :: rest
    else (known, count) :: tally convention rest

/-- How often each known convention is used, in order of first use. -/
def usage (conventions : List Convention) : List (Convention × Nat) :=
  (conventions.filter (· != .unknown)).foldl (fun counts c => tally c counts) []

/-- The most used convention, the earliest among equals. -/
def dominant : List (Convention × Nat) → Option Convention
  | [] => none
  | (first, count) :: rest =>
    some (rest.foldl (fun best entry => if best.2 < entry.2 then entry else best)
      (first, count)).1

/-- The finding about a name that follows another convention. -/
def inconsistencyDraft (source : Source) (binding : Binding) (convention dominant : Convention) :
    Draft :=
  { kind := .inconsistentNaming
    severity := .info
    startLine := source.startLine binding.site
    endLine := source.startLine binding.site
    columns := none
    description := "Variable \"" ++ String.ofList binding.name ++ "\" uses " ++ convention.name ++
      " but file predominantly uses " ++ dominant.name
    explanation := "Consistent naming conventions improve code readability. Consider renaming to " ++
      "match the " ++ dominant.name ++ " convention used elsewhere."
    codeSnippet := String.ofList binding.name
    suggestion := none
    confidence := Draft.percent 70
    autoFixAvailable := false }

/-- The findings about mixed conventions. -/
def inconsistencies (source : Source) (bindings : List Binding) : List Draft :=
  let named := compared bindings
  let counts := usage (named.map (·.2))
  match dominant counts with
  | none => []
  | some main =>
    if counts.length ≤ 1 then []
    else (named.filter fun (_, convention) => convention != .unknown && convention != main).map
      fun (binding, convention) => inconsistencyDraft source binding convention main

/-- All findings about names. -/
def findings (vocabulary : Vocabulary) (source : Source) (bindings : List Binding) : List Draft :=
  genericNames source vocabulary bindings ++ inconsistencies source bindings

/-! The same with every look at a part of the tree, which fails where there is no such part. -/

/-- Looks above a function for the call of an iteration method. -/
def lookForCallback (source : Source) (function : Option Site) : Except Failure Bool := do
  if !(← Access.passes function fun site =>
      ["arrow_function", "function_expression", "function"].contains site.kind) then pure false
  else
    let list := (← Access.present function).parent?
    if !(← Access.passes list (·.kind == "arguments")) then pure false
    else
      let call := (← Access.present list).parent?
      if !(← Access.passes call (·.kind == "call_expression")) then pure false
      else
        let callee := (← Access.present call).child? "function"
        if !(← Access.passes callee (·.kind == "member_expression")) then pure false
        else
          let method := (← Access.present callee).child? "property"
          pure (callbackMethods.contains (String.ofList (source.textOf? method)))

/-- Looks around a name for what makes it fine. -/
def lookForExcuse (source : Source) (vocabulary : Vocabulary) (binding : Binding) :
    Except Failure Bool := do
  if binding.inLoopHeader then pure true
  else if vocabulary.loopNames.contains binding.name &&
      (binding.site.firstAncestor ["for_statement", "for_in_statement"]).isSome then pure true
  else if vocabulary.coordinateNames.contains binding.name then pure true
  else if caughtNames.contains (String.ofList (Text.lower binding.name)) &&
      (binding.site.firstAncestor ["catch_clause"]).isSome then pure true
  else if binding.inArrayPattern && binding.name.length == 1 then pure true
  else if binding.isParameter then lookForCallback source binding.owner
  else pure false

/-- Looks at what a variable is initialized with for a better name. -/
def lookForSuggestion (source : Source) (name : List Char) (initializer : Option Site) :
    Except Failure String := do
  let general := "Consider a name that describes the purpose or content of this " ++
    String.ofList name
  if initializer.isNone then pure general
  else
    let value ← Access.present initializer
    if value.kind == "call_expression" then pure (calleeSuggestion (source.callee value))
    else if value.kind == "await_expression" && !value.namedChildren.isEmpty then
      let inner ← Access.first value.namedChildren
      if inner.kind == "call_expression" then
        pure ("Consider naming based on the async operation: " ++
          String.ofList (source.callee inner))
      else pure general
    else pure general

/-- Looks at a binding for a name that says nothing. -/
def lookForGeneric (source : Source) (vocabulary : Vocabulary) (binding : Binding) :
    Except Failure (Option Draft) := do
  if !isGeneric vocabulary binding.name then pure none
  else if ← lookForExcuse source vocabulary binding then pure none
  else if binding.isParameter then pure (some (parameterDraft source binding))
  else
    let suggested ← lookForSuggestion source binding.name (initializer? binding)
    pure (some (suggestedDraft source binding suggested))

/-- Looks for all that is found about names, with so much room for nested calls. -/
def check (room : Nat) (vocabulary : Vocabulary) (source : Source) :
    Except Failure (List Draft) := do
  let bindings ← Binding.collectWithin room source
  let generic ← Access.collect (lookForGeneric source vocabulary) bindings
  pure (generic ++ inconsistencies source bindings)

end Hazard.Naming
