import Hazard.Detect.Basic

/-!
Names that declarations, loop headers, catch clauses and parameter lists introduce. Inside a pattern
one goes from a parameter to its pattern, from a default to what it is the default of, from a pair to
its value, and from an array, object or rest pattern to each of its members.
-/

namespace Hazard

/-- A name and how it is introduced. -/
structure Binding where
  /-- The name. -/
  name : List Char
  /-- The node of the name. -/
  site : Site
  /-- The node that introduces it. -/
  declaration : Site
  /-- It is a parameter of a function. -/
  isParameter : Bool
  /-- The function of a parameter. -/
  owner : Option Site
  /-- It is introduced in the head of a loop. -/
  inLoopHeader : Bool
  /-- An array pattern lies around it. -/
  inArrayPattern : Bool
  /-- A pattern of either kind lies around it. -/
  destructured : Bool
deriving Repr

namespace Binding

/-- How a pattern goes on to the patterns in it. -/
inductive Step where
  /-- To the child held under a name. -/
  | field (name : String)
  /-- To every named child. -/
  | members
deriving DecidableEq, Repr

/-- The kinds of nodes that are names. -/
def nameKinds : List String := ["identifier", "shorthand_property_identifier_pattern"]

/-- How a pattern of a kind goes on, if it does. -/
def step? (kind : String) : Option Step :=
  if ["required_parameter", "optional_parameter"].contains kind then some (.field "pattern")
  else if ["assignment_pattern", "object_assignment_pattern"].contains kind then
    some (.field "left")
  else if kind == "pair_pattern" then some (.field "value")
  else if ["array_pattern", "object_pattern", "rest_pattern"].contains kind then some .members
  else none

/-- What is known of a name from the patterns around it. -/
structure Nesting where
  inArray : Bool := false
  destructured : Bool := false
deriving DecidableEq, Repr

/-- The nesting inside a pattern of a kind. -/
def Nesting.inside (nesting : Nesting) (kind : String) : Nesting :=
  { inArray := nesting.inArray || kind == "array_pattern"
    destructured := nesting.destructured || kind == "array_pattern" || kind == "object_pattern" }

mutual

/-- The names in a pattern, in order of their places. -/
def namesIn (above : List Tree) (nesting : Nesting) : Tree → List (Site × Nesting)
  | .node label children =>
    if nameKinds.contains label.kind then [(⟨.node label children, above⟩, nesting)]
    else match step? label.kind with
      | none => []
      | some (.field name) =>
        namesInField name (.node label children :: above) (nesting.inside label.kind) children
      | some .members =>
        namesInMembers (.node label children :: above) (nesting.inside label.kind) children

/-- The names in the first of several patterns that is held under a name. -/
def namesInField (field : String) (above : List Tree) (nesting : Nesting) :
    List Tree → List (Site × Nesting)
  | [] => []
  | tree :: trees =>
    if tree.label.field == field then namesIn above nesting tree
    else namesInField field above nesting trees

/-- The names in all patterns that the grammar names. -/
def namesInMembers (above : List Tree) (nesting : Nesting) : List Tree → List (Site × Nesting)
  | [] => []
  | tree :: trees =>
    (if tree.named then namesIn above nesting tree else []) ++ namesInMembers above nesting trees

end

/-- A name in a pattern of a declaration. -/
def ofName (source : Source) (declaration : Site) (inLoopHeader : Bool) (name : Site × Nesting) :
    Binding :=
  { name := source.textOf name.1
    site := name.1
    declaration := declaration
    isParameter := false
    owner := none
    inLoopHeader := inLoopHeader
    inArrayPattern := name.2.inArray
    destructured := name.2.destructured }

/-- The bindings of a pattern in a declaration. -/
def ofPattern (source : Source) (declaration : Site) (inLoopHeader : Bool) (pattern : Site) :
    List Binding :=
  (namesIn pattern.above {} pattern.tree).map (ofName source declaration inLoopHeader)

/-- The declarator belongs to the header of a counting loop. -/
def isInLoopHeader (declarator : Site) : Bool :=
  match declarator.parent? with
  | none => false
  | some statement =>
    match statement.parent? with
    | none => false
    | some loop =>
      loop.kind == "for_statement" && !(loop.child? "body").any (·.id == statement.id)

/-- The parameters of a function. -/
def parameters (function : Site) : List Site :=
  match function.child? "parameter" with
  | some single => [single]
  | none =>
    match function.child? "parameters" with
    | some list => list.namedChildren
    | none => []

/-- The bindings of a function's parameters. -/
def ofParameters (source : Source) (function : Site) : List Binding :=
  (parameters function).flatMap fun parameter =>
    (ofPattern source parameter false parameter).map fun binding =>
      { binding with isParameter := true, owner := some function }

/-- The bindings that a node introduces itself. -/
def ofSite (source : Source) (site : Site) : List Binding :=
  if site.kind == "variable_declarator" then
    match site.child? "name" with
    | some name => ofPattern source site (isInLoopHeader site) name
    | none => []
  else if site.kind == "for_in_statement" then
    match site.child? "left" with
    | some left =>
      if ["const", "let", "var"].any site.hasChild then ofPattern source site true left else []
    | none => []
  else if site.kind == "catch_clause" then
    match site.child? "parameter" with
    | some parameter => ofPattern source site false parameter
    | none => []
  else if site.isFunction then ofParameters source site
  else []

/-- All bindings of a file, in pre-order of the nodes that introduce them. -/
def collect (source : Source) : List Binding := source.walk.flatMap (ofSite source)

/-! The same within bounds: a pattern in a pattern takes a call in a call, and there is room for so many
nested calls only. -/

/-- The room for nested calls that is left to a detector where it collects bindings. -/
def usualRoom : Nat := 992

mutual

/-- The names in a pattern; the name itself is read by one more call. -/
def namesWithin (above : List Tree) : Nat → Nesting → Tree → Except Failure (List (Site × Nesting))
  | 0, _, _ => .error .tooDeep
  | room + 1, nesting, .node label children =>
    if nameKinds.contains label.kind then
      if room = 0 then .error .tooDeep else .ok [(⟨.node label children, above⟩, nesting)]
    else match step? label.kind with
      | none => .ok []
      | some (.field name) =>
        fieldWithin name (.node label children :: above) room (nesting.inside label.kind) children
      | some .members =>
        membersWithin (.node label children :: above) room (nesting.inside label.kind) children

/-- The names in the first of several patterns that is held under a name. -/
def fieldWithin (field : String) (above : List Tree) :
    Nat → Nesting → List Tree → Except Failure (List (Site × Nesting))
  | _, _, [] => .ok []
  | room, nesting, tree :: trees =>
    if tree.label.field == field then namesWithin above room nesting tree
    else fieldWithin field above room nesting trees

/-- The names in all patterns that the grammar names. -/
def membersWithin (above : List Tree) :
    Nat → Nesting → List Tree → Except Failure (List (Site × Nesting))
  | _, _, [] => .ok []
  | room, nesting, tree :: trees => do
    let names ← if tree.named then namesWithin above room nesting tree else pure []
    let others ← membersWithin above room nesting trees
    pure (names ++ others)

end

/-- The bindings of a pattern in a declaration. -/
def ofPatternWithin (room : Nat) (source : Source) (declaration : Site) (inLoopHeader : Bool)
    (pattern : Site) : Except Failure (List Binding) := do
  let names ← namesWithin pattern.above room {} pattern.tree
  pure (names.map (ofName source declaration inLoopHeader))

/-- The bindings of a function's parameters, which are collected by a call of its own. -/
def ofParametersWithin (room : Nat) (source : Source) (function : Site) :
    Except Failure (List Binding) :=
  match room with
  | 0 => .error .tooDeep
  | room + 1 => do
    let bindings ← (parameters function).mapM fun parameter =>
      ofPatternWithin room source parameter false parameter
    pure (bindings.flatten.map fun binding =>
      { binding with isParameter := true, owner := some function })

/-- The bindings that a node introduces itself. -/
def ofSiteWithin (room : Nat) (source : Source) (site : Site) : Except Failure (List Binding) := do
  if site.kind == "variable_declarator" then
    let name := site.child? "name"
    if name.isNone then pure []
    else ofPatternWithin room source site (isInLoopHeader site) (← Access.present name)
  else if site.kind == "for_in_statement" then
    let left := site.child? "left"
    if left.isNone || !(["const", "let", "var"].any site.hasChild) then pure []
    else ofPatternWithin room source site true (← Access.present left)
  else if site.kind == "catch_clause" then
    let parameter := site.child? "parameter"
    if parameter.isNone then pure []
    else ofPatternWithin room source site false (← Access.present parameter)
  else if site.isFunction then ofParametersWithin room source site
  else pure []

/-- All bindings of a file, unless there is too little room for one of its patterns. -/
def collectWithin (room : Nat) (source : Source) : Except Failure (List Binding) := do
  let bindings ← source.walk.mapM (ofSiteWithin room source)
  pure bindings.flatten

end Binding

end Hazard
