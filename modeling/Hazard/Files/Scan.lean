import Hazard.Files.Exclude
import Hazard.Files.Ignore
import Hazard.Files.Store
import Hazard.Syntax.Language
import Hazard.Text.Encoding

/-!
The files below a folder, without those that its list of files to ignore or given patterns leave out,
and the source files among them.
-/

namespace Hazard.Scan

/-- Why files cannot be listed. -/
inductive ScanError where
  /-- The list of files to ignore is no text. -/
  | undecodable
  | rule (fault : Ignore.RuleError)
  | glob (fault : Exclude.GlobError)
deriving DecidableEq, Repr

/-- The name of a list of files to ignore. -/
def ignoreName : String := ".gitignore"

/-- The rules of the list of files to ignore in a folder, if it has one. -/
def ignoreRules (store : Store) (folder : Path) : Except ScanError (List Ignore.Rule) :=
  match store.find? (folder.join ⟨"", [ignoreName]⟩) with
  | some (.file octets) =>
    match Text.decode? octets with
    | none => .error .undecodable
    | some text =>
      match Ignore.read (Text.uniformLineEnds text) with
      | .ok rules => .ok rules
      | .error fault => .error (.rule fault)
  | _ => .ok []

/-- The file is listed; `relative` is its path seen from the folder. -/
def keeps (rules : List Ignore.Rule) (exclude : List String) (relative : String) :
    Except ScanError Bool :=
  match Ignore.ignores rules relative.toList with
  | .error fault => .error (.rule fault)
  | .ok true => .ok false
  | .ok false =>
    if exclude.isEmpty then .ok true
    else match Exclude.matchesAny exclude relative with
      | .ok excluded => .ok (!excluded)
      | .error fault => .error (.glob fault)

/-- The files below a folder, in order. -/
def filesIn (store : Store) (folder : Path) : List (List String) :=
  match store.locate folder with
  | .ok address => store.filesBelow address
  | .error _ => []

/-- The files below a folder that nothing leaves out. -/
def folder (store : Store) (path : Path) (exclude : List String) :
    Except ScanError (List Path) := do
  let rules ← ignoreRules store path
  let kept ← (filesIn store path).filterM fun names => keeps rules exclude ("/".intercalate names)
  pure (kept.map fun names => path.join ⟨"", names⟩)

/-- The source files that a path leads to: itself, or those below it. -/
def sourcesAt (store : Store) (exclude : List String) (path : Path) :
    Except ScanError (List Path) :=
  if store.hasFile path then .ok (if Grammar.admits path then [path] else [])
  else (folder store path exclude).map (·.filter Grammar.admits)

/-- The source files that paths lead to, each once. -/
def sources (store : Store) (exclude : List String) (paths : List Path) :
    Except ScanError (List Path) := do
  let found ← paths.mapM (sourcesAt store exclude)
  pure (found.flatten.foldl (fun known path =>
    if known.contains path then known else known ++ [path]) [])

end Hazard.Scan
