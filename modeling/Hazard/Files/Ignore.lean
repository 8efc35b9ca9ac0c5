import Hazard.Regex.Match
import Hazard.Regex.Parser
import Hazard.Text.Class
import Hazard.Text.Slice

/-!
Rules of a list of files to ignore, one on a line. A slash inside a rule ties it to the folder of the
list, two stars cross folders, a slash at the end asks for a folder, and an exclamation mark takes
files back in. If there are such marks the last rule that matches decides, and else any rule does.
-/

namespace Hazard.Ignore

open Regex

/-- What is wrong with a rule. -/
inductive RuleError where
  /-- Nothing is left of the rule, or of a bracket in it. -/
  | empty
  /-- A bracket names a range from a later character to an earlier one. -/
  | backwardRange (rule : List Char)
deriving DecidableEq, Repr

/-- The error in words. -/
def RuleError.message : RuleError → String
  | .empty => "string index out of range"
  | .backwardRange rule => "bad character range in " ++ String.ofList rule

/-- A rule: which paths it fits, unless that cannot be told, and whether it takes them back in. -/
structure Rule where
  text : List Char
  takesBack : Bool
  regex : Option Regex
deriving DecidableEq, Repr

/-! ### Reading a rule -/

/-- Two or more stars. -/
def manyStars : Regex := .repeated .greedy 2 none (char .exact '*')

/-- Anything but a slash. -/
def noSlash : Regex := noneOf .exact (members "/")

/-- The text in which every fit of an expression is replaced. -/
def replaceAll (regex : Regex) (replacement : Match → List Char) (text : List Char) : List Char :=
  let (done, position) := (regex.findAll text).foldl (fun (done, position) found =>
    (done ++ (text.drop position).take (found.start - position) ++ replacement found, found.stop))
    ([], 0)
  done ++ text.drop position

/-- The rule in which many stars beside something other than a slash are one star. -/
def simplifyStars (rule : List Char) : List Char :=
  let after := replaceAll (concat [.group 1 noSlash, manyStars])
    (fun found => found.group 1 ++ ['*']) rule
  replaceAll (concat [manyStars, .group 1 noSlash]) (fun found => '*' :: found.group 1) after

/-- Removes spaces at the end of a reversed rule, up to one after a backslash; from there on only
backslashes before spaces are removed. The first two characters of the rule stay. -/
def trimEnd (strips : Bool) (kept : List Char) : List Char → List Char
  | ' ' :: '\\' :: rest =>
    if rest.isEmpty then '\\' :: ' ' :: kept else trimEnd false (' ' :: kept) rest
  | ' ' :: rest =>
    if rest.length < 2 then rest.reverse ++ ' ' :: kept
    else trimEnd strips (if strips then kept else ' ' :: kept) rest
  | other => other.reverse ++ kept

/-- The members of a bracket after its opening mark and what follows the bracket, if it is closed. A
closing mark that comes first, perhaps after a negation, is a member. -/
def bracketMembers? (text : List Char) : Option (List Char × List Char) :=
  let negation := if text.head? == some '!' then 1 else 0
  let first := if text[negation]? == some ']' then 1 else 0
  let body := (text.drop (negation + first)).takeWhile (· != ']')
  let length := negation + first + body.length
  if length < text.length then some (text.take length, text.drop (length + 1)) else none

/-- What stands for a bracket: its members, slashes removed, and no range that runs backward. -/
def bracket (members : List Char) : Except RuleError (Option Regex) :=
  let kept := (members.filter (· != '/')).flatMap fun c => if c == '\\' then ['\\', '\\'] else [c]
  match kept with
  | [] => .error .empty
  | first :: rest =>
    let written := if first == '!' then '^' :: rest else if first == '^' then '\\' :: kept else kept
    match Regex.parse {} (String.ofList ('[' :: written ++ [']'])) with
    | .ok regex => .ok (some regex)
    | .error _ => .ok none

/-- The expressions of a rule, one for each of its marks; a bracket that is not closed is a
character. The number bounds the steps. -/
def pieces : Nat → List Char → Except RuleError (List (Option Regex))
  | _, [] => .ok []
  | 0, _ => .ok []
  | steps + 1, '*' :: '*' :: '/' :: rest => do
    let more ← pieces steps rest
    pure (some (perhaps (concat [many anyChar, char .exact '/'])) :: more)
  | steps + 1, '*' :: '*' :: rest => do
    let more ← pieces steps rest
    pure (some (many anyChar) :: more)
  | steps + 1, '*' :: rest => do
    let more ← pieces steps rest
    pure (some (many noSlash) :: more)
  | steps + 1, '?' :: rest => do
    let more ← pieces steps rest
    pure (some noSlash :: more)
  | steps + 1, '[' :: rest =>
    match bracketMembers? rest with
    | some (members, after) => do
      let regex ← bracket members
      let more ← pieces steps after
      pure (regex :: more)
    | none => do
      let more ← pieces steps rest
      pure (some (char .exact '[') :: more)
  | steps + 1, c :: rest => do
    let more ← pieces steps rest
    pure (some (char .exact c) :: more)

/-- What comes before and after the expressions of a rule. -/
def framed (anchored wantsFolder takesBack : Bool) (body : List Regex) : Regex :=
  let start := if anchored then .at .textStart else choice [.at .textStart, char .exact '/']
  let finish :=
    if !wantsFolder then .at .lastLineEnd
    else if takesBack then concat [char .exact '/', .at .lastLineEnd]
    else choice [.at .lastLineEnd, char .exact '/']
  concat (start :: body ++ [finish])

/-- The rule without a slash in front; nothing has no front. -/
def dropSlash : List Char → Except RuleError (List Char)
  | [] => .error .empty
  | '/' :: rest => .ok rest
  | rule => .ok rule

/-- The rule without the backslash before a mark that is meant as a character. -/
def dropEscape : List Char → Except RuleError (List Char)
  | [] => .error .empty
  | ['\\'] => .error .empty
  | '\\' :: c :: rest => .ok (if c == '#' || c == '!' then c :: rest else '\\' :: c :: rest)
  | rule => .ok rule

/-- Reads a rule after its exclamation mark. -/
def readBody (takesBack : Bool) (written : List Char) : Except RuleError (Option Rule) :=
  let rule := simplifyStars written
  if Text.stripRight rule == ['/'] then .ok none
  else if rule.isEmpty then .error .empty
  else do
    let wantsFolder := rule.getLast? == some '/'
    let anchored := rule.dropLast.contains '/'
    let inner ← dropSlash rule
    let crosses := inner.take 2 == ['*', '*']
    let bare ← dropSlash (if crosses then inner.drop 2 else inner)
    if bare.isEmpty then .error .empty
    else
      let closed := if bare.getLast? == some '/' then bare.dropLast else bare
      let unescaped ← dropEscape closed
      let body := trimEnd true [] unescaped.reverse
      let found ← pieces body.length body
      let regex := (found.mapM id).map (framed (anchored && !crosses) wantsFolder takesBack)
      .ok (some ⟨written, takesBack, regex⟩)

/-- Reads a line; blank ones and comments say nothing. -/
def readLine (line : List Char) : Except RuleError (Option Rule) :=
  if (Text.strip line).isEmpty then .ok none
  else match line with
    | '#' :: _ => .ok none
    | '!' :: rest => readBody true rest
    | _ => readBody false line

/-- Reads a list of rules. -/
def read (text : List Char) : Except RuleError (List Rule) := do
  let rules ← (Text.splitOn '\n' text).mapM readLine
  pure (rules.filterMap id)

/-! ### Matching -/

/-- The rule fits the path. -/
def Rule.fits (rule : Rule) (path : List Char) : Except RuleError Bool :=
  match rule.regex with
  | some regex => .ok (regex.occursIn path)
  | none => .error (.backwardRange rule.text)

/-- The first rule that fits. -/
def firstFit (path : List Char) : List Rule → Except RuleError (Option Rule)
  | [] => .ok none
  | rule :: rest => do
    if ← rule.fits path then pure (some rule) else firstFit path rest

/-- The rules leave the path out. -/
def ignores (rules : List Rule) (path : List Char) : Except RuleError Bool := do
  if rules.any (·.takesBack) then
    let last ← firstFit path rules.reverse
    pure (last.any fun rule => !rule.takesBack)
  else
    let first ← firstFit path rules
    pure first.isSome

end Hazard.Ignore
