import Hazard.Text.Case

/-!
Naming conventions.
-/

namespace Hazard

/-- How the words of a name are told apart. -/
inductive Convention where
  | snakeCase
  | screamingSnakeCase
  | camelCase
  | pascalCase
  | unknown
deriving DecidableEq, Repr

namespace Convention

/-- What a convention is called. -/
def name : Convention → String
  | .snakeCase => "snake_case"
  | .screamingSnakeCase => "SCREAMING_SNAKE_CASE"
  | .camelCase => "camelCase"
  | .pascalCase => "PascalCase"
  | .unknown => "unknown"

/-- A character of the given class, then plain letters and digits; a line end may close the name. -/
def isCompound (first : Char → Bool) (text : List Char) : Bool :=
  let body := if text.getLast? == some '\n' then text.dropLast else text
  match body with
  | [] => false
  | c :: rest => first c && rest.all Char.isAlphanum

/-- The convention that a name follows. -/
def ofName (text : List Char) : Convention :=
  if text.contains '_' && text == Text.lower text then .snakeCase
  else if text.contains '_' && text == Text.upper text then .screamingSnakeCase
  else if isCompound Char.isLower text && text != Text.lower text then .camelCase
  else if isCompound Char.isUpper text then .pascalCase
  else .unknown

end Convention

end Hazard
