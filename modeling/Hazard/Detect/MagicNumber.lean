import Hazard.Detect.Basic
import Hazard.Number.Literal

/-!
Numbers whose meaning nothing tells.
-/

namespace Hazard.MagicNumber

/-- The variable keeps its first value. -/
def isConstant (declarator : Site) : Bool :=
  declarator.parent?.any fun statement =>
    statement.kind == "lexical_declaration" && statement.hasChild "const"

/-- The name tells what its value means: it is long, or has a capital letter or an underscore. -/
def isTelling (name : List Char) : Bool :=
  3 < name.length || name.any fun c => c == '_' || c.isUpper

/-- The number stands where its meaning is told, or where none is expected. -/
def isExempt (source : Source) (literal : Site) : Bool :=
  literal.parent?.any (fun parent => ["subscript_expression", "pair"].contains parent.kind) ||
    (literal.firstAncestor ["variable_declarator"]).any (fun declarator =>
      isConstant declarator && isTelling (source.textOf? (declarator.child? "name"))) ||
    (literal.firstAncestor ["switch_case"]).isSome

/-- The finding about a number. -/
def draft (source : Source) (literal : Site) (shown : String) : Draft :=
  { kind := .magicNumber
    severity := .info
    startLine := source.startLine literal
    endLine := source.endLine literal
    columns := none
    description := "Magic number " ++ shown ++ " without explanation"
    explanation := "Magic numbers make code harder to understand and maintain. " ++
      "Consider extracting to a named constant that explains its purpose."
    codeSnippet := String.ofList (source.textOf (literal.parent?.getD literal))
    suggestion := some ("const DESCRIPTIVE_NAME = " ++ shown ++ "; // Add explanation here")
    confidence := Draft.percent 60
    autoFixAvailable := false }

/-- The value of a literal whose meaning nothing tells. -/
def unexplained? (source : Source) (literal : Site) : Option Numeral :=
  match Numeral.ofLiteral? (source.textOf literal) with
  | some value => if value.isMagic && !isExempt source literal then some value else none
  | none => none

/-- The finding about one literal, if there is one; it has to show the value. -/
def examine (source : Source) (literal : Site) : Except Failure (Option Draft) :=
  match unexplained? source literal with
  | none => .ok none
  | some value =>
    match value.show? with
    | some shown => .ok (some (draft source literal shown))
    | none => .error .integerTooLong

/-! The same with every look at a part of the tree, which fails where there is no such part. -/

/-- Looks at the statement around a declarator for a constant. -/
def lookForConstant (declarator : Site) : Except Failure Bool :=
  Access.passes declarator.parent? fun statement =>
    statement.kind == "lexical_declaration" && statement.hasChild "const"

/-- Looks around a number for what tells its meaning. -/
def lookForMeaning (source : Source) (literal : Site) : Except Failure Bool := do
  if ← Access.passes literal.parent? fun parent =>
      ["subscript_expression", "pair"].contains parent.kind then pure true
  else
    let declarator := literal.firstAncestor ["variable_declarator"]
    let named ← if declarator.isNone then pure false
      else do
        let declarator ← Access.present declarator
        if ← lookForConstant declarator then
          pure (isTelling (source.textOf? (declarator.child? "name")))
        else pure false
    if named then pure true else pure (literal.firstAncestor ["switch_case"]).isSome

/-- Looks at a literal for a number, and shows it if nothing tells its meaning. -/
def lookAt (source : Source) (literal : Site) : Except Failure (Option Draft) := do
  match Numeral.ofLiteral? (source.textOf literal) with
  | none => pure none
  | some value =>
    if !value.isMagic then pure none
    else if ← lookForMeaning source literal then pure none
    else
      match value.show? with
      | some shown => pure (some (draft source literal shown))
      | none => .error .integerTooLong

/-- Looks for all that is found about numbers. -/
def check (source : Source) : Except Failure (List Draft) := do
  let found ← (source.ofKinds ["number"]).mapM (lookAt source)
  pure (found.filterMap id)

end Hazard.MagicNumber
