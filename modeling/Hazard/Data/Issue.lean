/-!
What may be wrong with a value of a data file, where in the value it is, and checks that name all that
is wrong and not only the first.
-/

namespace Hazard

/-- What is wrong with a value. -/
inductive IssueKind where
  /-- A required part is absent. -/
  | missing
  /-- The whole is no mapping. -/
  | modelType
  | listType
  | tupleType
  | dictType
  | stringType
  /-- The value is not one of the admitted ones. -/
  | enum
  | boolType
  | boolParsing
  | intType
  | intParsing
  | intParsingSize
  | intFromFloat
  | finiteNumber
  | floatType
  | floatParsing
  | lessThanEqual
  | greaterThanEqual
  | datetimeType
  | datetimeParsing
  | datetimeFromDateParsing
  /-- The text is no JSON at all. -/
  | jsonInvalid
deriving DecidableEq, Repr

namespace IssueKind

/-- What a kind of issue is called. -/
def name : IssueKind → String
  | .missing => "missing"
  | .modelType => "model_type"
  | .listType => "list_type"
  | .tupleType => "tuple_type"
  | .dictType => "dict_type"
  | .stringType => "string_type"
  | .enum => "enum"
  | .boolType => "bool_type"
  | .boolParsing => "bool_parsing"
  | .intType => "int_type"
  | .intParsing => "int_parsing"
  | .intParsingSize => "int_parsing_size"
  | .intFromFloat => "int_from_float"
  | .finiteNumber => "finite_number"
  | .floatType => "float_type"
  | .floatParsing => "float_parsing"
  | .lessThanEqual => "less_than_equal"
  | .greaterThanEqual => "greater_than_equal"
  | .datetimeType => "datetime_type"
  | .datetimeParsing => "datetime_parsing"
  | .datetimeFromDateParsing => "datetime_from_date_parsing"
  | .jsonInvalid => "json_invalid"

end IssueKind

/-- A step from a value to a part of it. -/
inductive Place where
  | key (name : String)
  | index (number : Int)
deriving DecidableEq, Repr

/-- Something wrong, and the way to it. -/
structure Issue where
  location : List Place
  kind : IssueKind
deriving DecidableEq, Repr

/-- A step in words. -/
def Place.text : Place → String
  | .key name => name
  | .index number => toString number

/-- The way to something wrong, and what is wrong there. -/
def Issue.message (issue : Issue) : String :=
  ".".intercalate (issue.location.map Place.text) ++ " (" ++ issue.kind.name ++ ")"

/-- The outcome of a check. -/
abbrev Checked (α : Type) := Except (List Issue) α

namespace Checked

/-- A value without issues. -/
def start {α : Type} (value : α) : Checked α := .ok value

/-- One thing is wrong with the value itself. -/
def issue {α : Type} (kind : IssueKind) : Checked α := .error [⟨[], kind⟩]

/-- The check of a part: what is wrong in it lies one step further away. -/
def within {α : Type} (place : Place) : Checked α → Checked α
  | .ok value => .ok value
  | .error issues => .error (issues.map fun issue => { issue with location := place :: issue.location })

/-- Both checks, of which either may add issues. -/
def both {α β : Type} : Checked (α → β) → Checked α → Checked β
  | .ok f, .ok value => .ok (f value)
  | .ok _, .error issues => .error issues
  | .error issues, .ok _ => .error issues
  | .error first, .error second => .error (first ++ second)

/-- The check of every item. -/
def all {α : Type} : List (Checked α) → Checked (List α)
  | [] => .ok []
  | item :: items => both (both (start List.cons) item) (all items)

end Checked

end Hazard
