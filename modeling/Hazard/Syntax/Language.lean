import Hazard.Files.Path
import Hazard.Text.Case
import Hazard.Text.Quoted

/-!
Languages and grammars by file name.
-/

namespace Hazard

/-- A grammar that source text can be parsed by. -/
inductive Grammar where
  | javascript
  | typescript
  | tsx
deriving DecidableEq, Repr

namespace Grammar

/-- The grammars. -/
def all : List Grammar := [.javascript, .typescript, .tsx]

/-- The name of a grammar. -/
def name : Grammar → String
  | .javascript => "javascript"
  | .typescript => "typescript"
  | .tsx => "tsx"

/-- The grammar of a name. -/
def ofName? (text : String) : Option Grammar := all.find? (·.name == text)

/-- The complaint about a name that is no grammar. -/
def unsupportedMessage (text : String) : String :=
  "Unsupported grammar: " ++ text ++ ". Supported grammars are: [" ++
    ", ".intercalate (all.map fun grammar => Text.quotedString grammar.name) ++ "]"

/-- The grammars of file suffixes. -/
def bySuffix : List (String × Grammar) :=
  [(".ts", .typescript), (".mts", .typescript), (".cts", .typescript), (".tsx", .tsx),
    (".js", .javascript), (".jsx", .javascript), (".mjs", .javascript), (".cjs", .javascript)]

end Grammar

namespace Language

/-- The languages of file suffixes. -/
def bySuffix : List (String × String) :=
  [(".ts", "typescript"), (".tsx", "typescript"), (".mts", "typescript"), (".cts", "typescript"),
    (".js", "javascript"), (".jsx", "javascript"), (".mjs", "javascript"), (".cjs", "javascript"),
    (".py", "python"), (".rs", "rust"), (".go", "go"), (".java", "java"), (".cs", "csharp")]

/-- The lower-case suffix of a path. -/
def suffixOf (path : Path) : String := String.ofList (Text.lower path.suffix.toList)

/-- A path in which backslashes separate parts as well. -/
def portable (path : String) : Path :=
  Path.ofString (String.ofList (Text.replaceChar '\\' '/' path.toList))

/-- The language of a file, by its name. -/
def ofPath? (path : String) : Option String := bySuffix.lookup (suffixOf (portable path))

end Language

namespace Grammar

/-- The grammar of a file, by its name. -/
def ofPath? (path : String) : Option Grammar :=
  bySuffix.lookup (Language.suffixOf (Language.portable path))

/-- The file has source text for one of the grammars. -/
def admits (path : Path) : Bool := (bySuffix.lookup (Language.suffixOf path)).isSome

end Grammar

end Hazard
