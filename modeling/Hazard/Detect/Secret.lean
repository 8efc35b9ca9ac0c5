import Hazard.Detect.Basic

/-!
Credentials in source text: lines that assign one, and string literals that are one. What is shown of
such a line hides every credential on it.
-/

namespace Hazard.Secret

open Regex

/-- What stands in a shown line for the hidden part of a credential. -/
def mask : List Char := "***MASKED***".toList

/-- The ending of a file of scripts. -/
def scriptEnding (kind : String) : List Regex :=
  chars .exact kind ++ [oneOf .exact (members "tj"), char .exact 's']

/-- Paths of files that hold made-up credentials as a matter of course. -/
def exemptPaths : List Regex :=
  [concat (scriptEnding ".test." ++ [perhaps (char .exact 'x'), .at .lastLineEnd]),
    concat (scriptEnding ".spec." ++ [perhaps (char .exact 'x'), .at .lastLineEnd]),
    literal .exact "__tests__",
    concat (scriptEnding ".config." ++ [.at .lastLineEnd]),
    literal .exact ".example.",
    literal .exact ".sample."]

/-- The file is not searched for credentials. -/
def isExempt (path : String) : Bool :=
  let portable := Text.replaceChar '\\' '/' path.toList
  exemptPaths.any (·.occursIn portable)

/-- A value that comes from the environment of the process. -/
def environmentReference : Regex :=
  choice
    [literal .unicode "process.env.", literal .unicode "import.meta.env.",
      concat (chars .unicode "$\x7b" ++ [many anyChar] ++ chars .unicode "env" ++
        [many anyChar, char .unicode '\x7d'])]

/-- A value in quotes. -/
def quotedValue : Regex :=
  concat
    [oneOf .exact (members "'\""), .group 1 (many1 (noneOf .exact (members "'\""))),
      oneOf .exact (members "'\"")]

/-- The characters of a signed token. -/
def tokenCharacter : Regex :=
  oneOf .exact [span 'A' 'Z', span 'a' 'z', span '0' '9', .one 95, .one 45]

/-- A signed token. -/
def signedToken : Regex :=
  concat ([.at .textStart] ++ chars .exact "eyJ" ++
    [many1 tokenCharacter, char .exact '.', many1 tokenCharacter, char .exact '.', many tokenCharacter,
      .at .lastLineEnd])

/-- The key of a cloud account. -/
def accountKey : Regex :=
  concat ([.at .textStart] ++ chars .exact "AKIA" ++
    [.repeated .greedy 16 (some 16) (oneOf .exact [span '0' '9', span 'A' 'Z']), .at .lastLineEnd])

/-- The part of a finding that has to be hidden: its quoted value, or all of it. The header of a
private key hides nothing. -/
def sensitivePart? (found : List Char) : Option (List Char) :=
  match quotedValue.search found with
  | some quoted => some (quoted.group 1)
  | none => if Text.contains found "PRIVATE KEY".toList then none else some found

/-- A value with all but its first four characters hidden. -/
def masked (value : List Char) : List Char :=
  if 4 < value.length then value.take 4 ++ mask else mask

/-- Hides one finding in a line. -/
def maskSecret (line found : List Char) : List Char :=
  match sensitivePart? found with
  | some value => Text.replaceFirst line value (masked value)
  | none => line

/-- All that the patterns find in a line, pattern by pattern. -/
def findings (line : List Char) (patterns : List Regex) : List (List Char) :=
  patterns.flatMap fun pattern => (pattern.findAll line).map (·.text)

/-- Hides all that the patterns find in a line. -/
def maskLine (line : List Char) (patterns : List Regex) : List Char :=
  (findings line patterns).foldl maskSecret line

/-- The first finding in a line, in order of the patterns, unless the line refers to the
environment. -/
def inLine? (line : List Char) (patterns : List Regex) : Option Match :=
  if environmentReference.occursIn line then none
  else patterns.findSome? (·.search line)

/-- The finding about a line of which this is shown. -/
def shownLineDraft (shown : List Char) (number : Nat) (found : Match) : Draft :=
  { kind := .hardcodedSecret
    severity := .critical
    startLine := number
    endLine := number
    columns := some (found.start + 1, found.stop + 1)
    description := "Potential hardcoded secret detected"
    explanation := "Hardcoded secrets will be exposed in version control history. " ++
      "Use environment variables or a secrets manager instead."
    codeSnippet := String.ofList shown
    suggestion := some ("Move this secret to an environment variable or secrets manager " ++
      "(e.g., process.env.API_KEY)")
    confidence := Draft.percent 90
    autoFixAvailable := false }

/-- The finding about a line. -/
def lineDraft (line : List Char) (patterns : List Regex) (number : Nat) (found : Match) : Draft :=
  shownLineDraft (maskLine line patterns) number found

/-- The findings about lines, of which each has at most one. -/
def inLines (source : Source) (patterns : List Regex) : List Draft :=
  (source.lines.mapIdx fun index line =>
    (inLine? line patterns).map (lineDraft line patterns (index + 1))).filterMap id

/-- The finding about a literal that is a signed token. -/
def tokenDraft (source : Source) (literal : Site) (value : List Char) : Draft :=
  { kind := .hardcodedSecret
    severity := .critical
    startLine := source.startLine literal
    endLine := source.endLine literal
    columns := none
    description := "Hardcoded JWT token detected"
    explanation := "JWT tokens should not be hardcoded. They will be exposed in version control."
    codeSnippet := "\"" ++ String.ofList (value.take 20) ++ "...[MASKED]\""
    suggestion := some "Store tokens securely and retrieve them at runtime"
    confidence := Draft.percent 95
    autoFixAvailable := false }

/-- The finding about a literal that is the key of a cloud account. -/
def accountKeyDraft (source : Source) (literal : Site) (value : List Char) : Draft :=
  { kind := .hardcodedSecret
    severity := .critical
    startLine := source.startLine literal
    endLine := source.endLine literal
    columns := none
    description := "Hardcoded AWS access key detected"
    explanation := "AWS credentials should never be in source code."
    codeSnippet := "\"" ++ String.ofList (value.take 8) ++ "...[MASKED]\""
    suggestion := some "Use AWS SDK credential providers or environment variables"
    confidence := Draft.percent 98
    autoFixAvailable := false }

/-- The findings about one literal. -/
def inLiteral (source : Source) (literal : Site) : List Draft :=
  let value := source.stringValue literal
  (if (signedToken.matchStart value).isSome then [tokenDraft source literal value] else []) ++
    (if (accountKey.matchStart value).isSome then [accountKeyDraft source literal value] else [])

/-- All findings about credentials. -/
def check (vocabulary : Vocabulary) (source : Source) : List Draft :=
  if isExempt source.path then []
  else inLines source (vocabulary.secretPatterns.map (·.regex)) ++
    (source.ofKinds ["string"]).flatMap (inLiteral source)

/-! The same with every look at what a group caught, which fails where it caught nothing. -/

/-- Looks for the part of a finding that has to be hidden. -/
def lookForSensitive (found : List Char) : Except Failure (Option (List Char)) := do
  match quotedValue.search found with
  | some quoted =>
    let value ← Access.present (quoted.group? 1)
    pure (some value)
  | none => if Text.contains found "PRIVATE KEY".toList then pure none else pure (some found)

/-- Looks for the part of a finding that has to be hidden, and hides it. -/
def lookAndMask (line found : List Char) : Except Failure (List Char) := do
  match ← lookForSensitive found with
  | some value => pure (Text.replaceFirst line value (masked value))
  | none => pure line

/-- Looks at a line for a credential. -/
def lookAtLine (patterns : List Regex) (line : List Char × Nat) :
    Except Failure (Option Draft) := do
  match inLine? line.1 patterns with
  | none => pure none
  | some found =>
    let shown ← (findings line.1 patterns).foldlM lookAndMask line.1
    pure (some (shownLineDraft shown (line.2 + 1) found))

/-- Looks for all that is found about credentials. -/
def look (vocabulary : Vocabulary) (source : Source) : Except Failure (List Draft) := do
  if isExempt source.path then pure []
  else
    let inLines ← Access.collect (lookAtLine (vocabulary.secretPatterns.map (·.regex)))
      source.lines.zipIdx
    pure (inLines ++ (source.ofKinds ["string"]).flatMap (inLiteral source))

end Hazard.Secret
