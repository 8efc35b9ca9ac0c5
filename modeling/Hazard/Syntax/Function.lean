import Hazard.Syntax.Source

/-!
Functions, calls, statements and string literals in syntax trees.
-/

namespace Hazard

namespace Tree

/-- Kinds of nodes that are functions. -/
def functionKinds : List String :=
  ["function_declaration", "generator_function_declaration", "function_expression", "function",
    "generator_function", "arrow_function", "method_definition"]

/-- The root is a function; a keyword of the same kind is not. -/
def isFunction (tree : Tree) : Bool := tree.named && functionKinds.contains tree.kind

/-- The named children that are no comments. -/
def statements (tree : Tree) : List Tree := tree.namedChildren.filter (·.kind != "comment")

end Tree

namespace Site

/-- The node is a function. -/
def isFunction (site : Site) : Bool := site.tree.isFunction

/-- The nearest function above. -/
def enclosingFunction (site : Site) : Option Site := site.ancestors.find? (·.isFunction)

/-- The function is marked as asynchronous. -/
def isAsync (site : Site) : Bool := site.hasChild "async"

/-- The named children that are no comments. -/
def statements (site : Site) : List Site := site.tree.statements.map site.under

/-- The arguments of a call. -/
def arguments (site : Site) : List Site :=
  match site.child? "arguments" with
  | some list => list.statements
  | none => []

/-- The name under which a call holds what it calls. -/
def calleeField (site : Site) : String :=
  if site.kind == "new_expression" then "constructor" else "function"

end Site

namespace Source

/-- The name of a function: its own, or that of the variable it initializes. -/
def functionName? (source : Source) (function : Site) : Option (List Char) :=
  if ["function_declaration", "generator_function_declaration", "method_definition"].contains
      function.kind then
    (function.child? "name").map source.textOf
  else
    match function.firstAncestor ["variable_declarator"] with
    | none => none
    | some declarator =>
      match declarator.child? "name" with
      | none => none
      | some name => if name.kind == "identifier" then some (source.textOf name) else none

/-- What a call calls. -/
def callee (source : Source) (call : Site) : List Char :=
  source.textOf? (call.child? call.calleeField)

/-- The text of a string literal between its quotes. -/
def stringValue (source : Source) (literal : Site) : List Char :=
  Text.withoutEnds (source.textOf literal)

/-- A name in quotes after a blank, or nothing for a function without one. -/
def functionTag (source : Source) (function : Site) : List Char :=
  match source.functionName? function with
  | some (c :: rest) => ' ' :: '"' :: c :: rest ++ ['"']
  | _ => []

end Source

end Hazard
