import Hazard.Detect.Basic

/-!
Remarks in comments: reminders that do not say what is to be done, and code that was commented out.
-/

namespace Hazard.Remark

open Regex

/-- A reminder: its first group is the mark, its second the text after it. -/
def reminder : Regex :=
  concat
    [wordEdge, .group 1 (words .unicode ["TODO", "FIXME", "XXX", "HACK", "BUG"]), wordEdge,
      perhaps (char .unicode ':'), many blank, .group 2 (many anyChar)]

/-- A text that says no more than that something has to be done. -/
def vagueText : Regex :=
  concat
    [.at .textStart, many blank,
      .group 1 (words .unicode
        ["fix", "do", "implement", "add", "remove", "update", "change", "handle", "check"]),
      many blank, perhaps (.group 2 (words .unicode ["this", "it", "later"])), many blank,
      .at .lastLineEnd]

/-- A text of a reminder has to be longer than this. -/
def leastContext : Nat := 10

/-- The text of a reminder says what is to be done. -/
def isTelling (text : List Char) : Bool :=
  leastContext < text.length && !(vagueText.matchStart text).isSome

/-- The finding about a reminder. -/
def reminderDraft (line : List Char) (number : Nat) (mark : String) : Draft :=
  { kind := .todoWithoutContext
    severity := .info
    startLine := number
    endLine := number
    columns := none
    description := mark ++ " comment lacks sufficient context"
    explanation := "TODO comments should explain what needs to be done and why. " ++
      "Include enough detail that you (or someone else) can act on it later."
    codeSnippet := String.ofList (Text.strip line)
    suggestion := some (mark ++
      ": [What needs to be done] - [Why] - [Any relevant context or links]")
    confidence := Draft.percent 70
    autoFixAvailable := false }

/-- The finding about one line, whose first reminder alone counts. -/
def reminder? (number : Nat) (line : List Char) : Option Draft :=
  match reminder.search line with
  | none => none
  | some found =>
    if isTelling (Text.strip (found.group 2)) then none
    else some (reminderDraft line number (String.ofList (Text.upper (found.group 1))))

/-- The findings about reminders. -/
def reminders (source : Source) : List Draft :=
  (source.lines.mapIdx fun index line => reminder? (index + 1) line).filterMap id

/-- A comment to the end of the line that starts with what follows. -/
def commentWith (content : List Regex) : Regex :=
  concat ([.at .textStart, many blank] ++ chars .exact "//" ++ [many blank] ++ content)

/-- Comments that look like code. -/
def codeComments : List Regex :=
  [commentWith
      [.group 1 (words .exact
        ["const", "let", "var", "function", "class", "if", "for", "while", "return", "import",
          "export"]),
        blank],
    commentWith
      [oneOf .exact ([span 'a' 'z', span 'A' 'Z'] ++ members "_$"),
        many (oneOf .exact ([span 'a' 'z', span 'A' 'Z', span '0' '9'] ++ members "_$")),
        many blank, oneOf .exact (members "=([\x7b")],
    commentWith
      [oneOf .exact (members ")\x7d]"), perhaps (char .exact ';'), .at .lastLineEnd],
    commentWith
      [char .exact '.', many1 (oneOf .exact [span 'a' 'z', span 'A' 'Z']), char .exact '('],
    commentWith [.group 1 (words .exact ["await", "async"]), blank]]

/-- The line is a comment that looks like code. -/
def isCommentedCode (line : List Char) : Bool := codeComments.any (·.occursIn line)

/-- Fewer lines than this are not worth a finding. -/
def leastRun : Nat := 3

/-- Neighbouring lines that all look like commented code. -/
structure Run where
  /-- The number of the first line. -/
  start : Nat
  lines : List (List Char)
deriving DecidableEq, Repr

/-- The number of the last line of a run. -/
def Run.stop (run : Run) : Nat := run.start + run.lines.length - 1

/-- The longest runs among lines that are numbered from `number` on. -/
def runsFrom (number : Nat) : List (List Char) → List Run
  | [] => []
  | line :: rest =>
    let later := runsFrom (number + 1) rest
    if isCommentedCode line then
      match later with
      | run :: more =>
        if run.start == number + 1 then ⟨number, line :: run.lines⟩ :: more
        else ⟨number, [line]⟩ :: later
      | [] => [⟨number, [line]⟩]
    else later

/-- What is shown of lines without the blanks around them: the first three. -/
def excerpt (lines : List (List Char)) : List Char :=
  Text.join ['\n'] (lines.take 3) ++ (if 3 < lines.length then "\n// ...".toList else [])

/-- The finding about lines without the blanks around them, from one number to another. -/
def blockDraft (start stop : Nat) (lines : List (List Char)) : Draft :=
  { kind := .commentedOutCode
    severity := .info
    startLine := start
    endLine := stop
    columns := none
    description := toString lines.length ++ " lines of commented-out code"
    explanation := "Large blocks of commented-out code clutter the codebase and create confusion. " ++
      "If the code is no longer needed, delete it - it's preserved in version control."
    codeSnippet := String.ofList (excerpt lines)
    suggestion := some "Delete commented-out code - use version control to recover it if needed"
    confidence := Draft.percent 65
    autoFixAvailable := false }

/-- The finding about a run. -/
def runDraft (run : Run) : Draft := blockDraft run.start run.stop (run.lines.map Text.strip)

/-- The findings about the runs among lines that are numbered from `number` on. -/
def runDrafts (number : Nat) (lines : List (List Char)) : List Draft :=
  ((runsFrom number lines).filter fun run => leastRun ≤ run.lines.length).map runDraft

/-- The findings about commented code. -/
def commentedCode (source : Source) : List Draft := runDrafts 1 source.lines

/-- All findings about remarks. -/
def check (source : Source) : List Draft := reminders source ++ commentedCode source

/-! The same in one pass over the lines, with every look at what a group caught. -/

/-- Where a pass over the lines stands. -/
structure Pass where
  /-- The lines of the run that is open, without the blanks around them. -/
  run : List (List Char)
  /-- The number of the first line of the latest run. -/
  start : Nat
  /-- The findings so far. -/
  drafts : List Draft

namespace Pass

/-- Nothing has been passed. -/
def begin : Pass := ⟨[], 0, []⟩

/-- Ends the run that is open at a line, and reports it if it is long enough. -/
def flush (pass : Pass) (stop : Nat) : Pass :=
  { pass with
    run := []
    drafts :=
      if leastRun ≤ pass.run.length then pass.drafts ++ [blockDraft pass.start stop pass.run]
      else pass.drafts }

/-- Passes a line, before which there are as many lines as the number says. -/
def step (pass : Pass) (line : List Char × Nat) : Pass :=
  if isCommentedCode line.1 then
    { pass with
      start := if pass.run.isEmpty then line.2 + 1 else pass.start
      run := pass.run ++ [Text.strip line.1] }
  else pass.flush line.2

end Pass

/-- Passes all lines, and ends the run that is open after the last one. -/
def passLines (lines : List (List Char)) : List Draft :=
  ((lines.zipIdx.foldl Pass.step .begin).flush lines.length).drafts

/-- Looks at a line for a reminder. -/
def lookForReminder (line : List Char × Nat) : Except Failure (Option Draft) := do
  match reminder.search line.1 with
  | none => pure none
  | some found =>
    let mark ← Access.present (found.group? 1)
    let text ← Access.present (found.group? 2)
    if isTelling (Text.strip text) then pure none
    else pure (some (reminderDraft line.1 (line.2 + 1) (String.ofList (Text.upper mark))))

/-- Looks for all that is found about remarks. -/
def look (source : Source) : Except Failure (List Draft) := do
  let reminders ← Access.collect lookForReminder source.lines.zipIdx
  pure (reminders ++ passLines source.lines)

end Hazard.Remark
