import Hazard.Detect.Standard
import Hazard.Files.Scan
import Hazard.Proofs.Analysis.Course
import Hazard.Proofs.Files.Spelling

/-!
# Files that are collected and then set aside

A scan tests a file by its path seen from the folder, an analysis by the path as it is passed on.
The two tests agree from the current directory.  From any other folder a collected file may be set
aside; if the patterns spell names, as the built-in ones do, it is exactly when they leave out the
folder itself.
-/

namespace Hazard

namespace Path

/-- What stands in front of the names below a folder. -/
def lead (folder : Path) : String :=
  if folder.parts.isEmpty then folder.root else folder.toString ++ "/"

theorem toString_join (folder : Path) {names : List String} (nonempty : names ≠ []) :
    (folder.join ⟨"", names⟩).toString = folder.lead ++ "/".intercalate names := by
  obtain ⟨root, parts⟩ := folder
  have joined : (Path.mk root parts).join ⟨"", names⟩ = ⟨root, parts ++ names⟩ := by
    simp [join, isAbsolute]
  rw [joined, toString, if_neg (by simp [nonempty])]
  by_cases empty : parts = []
  · simp [lead, empty]
  · simp [lead, toString, empty, String.intercalate_append_of_ne_nil empty nonempty,
      String.append_assoc]

theorem closed_lead_ofString (text : String) :
    Exclude.Closed (Path.ofString text).lead.toList := by
  rw [lead]
  split
  · have root : (Path.ofString text).root = "" ∨ (Path.ofString text).root = "/" ∨
        (Path.ofString text).root = "//" := by
      simp only [ofString]
      split
      · exact .inl rfl
      · split
        · exact .inr (.inr rfl)
        · exact .inr (.inl rfl)
    rcases root with root | root | root <;> rw [root]
    · exact .inl rfl
    · exact .inr ⟨[], rfl⟩
    · exact .inr ⟨['/'], rfl⟩
  · exact .inr ⟨(Path.ofString text).toString.toList, by simp⟩

end Path

/-- A name that a folder may hold, without a backslash. -/
structure FileName (name : String) : Prop where
  nonempty : name ≠ ""
  notHere : name ≠ "."
  slashless : '/' ∉ name.toList
  plain : '\\' ∉ name.toList

namespace FileName

/-- Whatever follows it, a name does not read as a root or the current directory. -/
theorem rootless {name : String} (isName : FileName name) (tail : List Char) :
    (name.toList ++ tail).head? ≠ some '/' ∧ ¬ ['.', '/'] <+: name.toList ++ tail := by
  obtain ⟨nonempty, notHere, slashless, -⟩ := isName
  rcases spelled : name.toList with _ | ⟨c, _ | ⟨d, rest⟩⟩
  · exact absurd (String.toList_eq_nil_iff.mp spelled) nonempty
  · have dot : c ≠ '.' := by
      rintro rfl
      exact notHere (String.toList_inj.mp spelled)
    have ordinary : c ≠ '/' := fun slash => slashless (by simp [spelled, slash])
    exact ⟨by simpa using ordinary, by simp [dot.symm]⟩
  · have ordinary : c ≠ '/' := fun slash => slashless (by simp [spelled, slash])
    have ordinary' : d ≠ '/' := fun slash => slashless (by simp [spelled, slash])
    exact ⟨by simpa using ordinary, by simp [ordinary'.symm]⟩

theorem backslash_notMem_intercalate {names : List String}
    (areNames : ∀ name ∈ names, FileName name) : '\\' ∉ ("/".intercalate names).toList := by
  induction names with
  | nil => simp
  | cons name rest ih =>
      rw [List.forall_mem_cons] at areNames
      cases rest with
      | nil => simpa using areNames.1.plain
      | cons other rest =>
          have later := ih areNames.2
          rw [String.intercalate_cons_cons, String.toList_append, String.toList_append]
          simp only [List.mem_append, not_or]
          exact ⟨⟨areNames.1.plain, by simp⟩, later⟩

theorem inside_intercalate {names : List String} (nonempty : names ≠ [])
    (areNames : ∀ name ∈ names, FileName name) :
    Exclude.Inside ("/".intercalate names).toList := by
  obtain ⟨name, rest, rfl⟩ := List.exists_cons_of_ne_nil nonempty
  obtain ⟨tail, spelled⟩ : ∃ tail, ("/".intercalate (name :: rest)).toList =
      name.toList ++ tail := by
    cases rest with
    | nil => exact ⟨[], by simp⟩
    | cons other rest =>
        rw [String.intercalate_cons_cons, String.append_assoc, String.toList_append]
        exact ⟨_, rfl⟩
  have first := (areNames name List.mem_cons_self).rootless tail
  rw [← spelled] at first
  exact ⟨backslash_notMem_intercalate areNames, first.1, first.2⟩

end FileName

/-- The built-in patterns spell names. -/
theorem spelledFloating_builtin :
    ∀ pattern ∈ Config.builtinExclude, Exclude.SpelledFloating pattern := by
  have below (name : String) (isName : Exclude.SpelledName name.toList) :
      Exclude.SpelledFloating ("**/" ++ name ++ "/**") :=
    .below isName (by simp [Exclude.anyDepth])
  have whole (name : String) (isName : Exclude.SpelledName name.toList) :
      Exclude.SpelledFloating ("**/" ++ name) :=
    .whole isName (by simp [Exclude.anyDepth])
  simp only [Config.builtinExclude, List.forall_mem_cons]
  exact ⟨below "node_modules" (by decide +kernel), below "dist" (by decide +kernel),
    below "build" (by decide +kernel), below ".git" (by decide +kernel),
    whole "*.min.js" (by decide +kernel), whole "*.bundle.js" (by decide +kernel), by simp⟩

namespace Scan

theorem mem_of_filterM {α ε : Type} {test : α → Except ε Bool} {items kept : List α}
    (filtered : items.filterM test = .ok kept) {item : α} (member : item ∈ kept) :
    item ∈ items ∧ test item = .ok true := by
  have gathers (items gathered : List α) (all : List α)
      (filtered : items.filterAuxM test gathered = .ok all) :
      ∀ item ∈ all, item ∈ gathered ∨ (item ∈ items ∧ test item = .ok true) := by
    induction items generalizing gathered with
    | nil =>
        intro item member
        obtain rfl := Except.ok.inj filtered
        exact .inl member
    | cons head items ih =>
        rw [List.filterAuxM] at filtered
        cases tested : test head with
        | error fault =>
            rw [tested] at filtered
            exact absurd filtered nofun
        | ok answer =>
            rw [tested] at filtered
            intro item member
            rcases ih _ filtered item member with old | new
            · cases answer with
              | true =>
                  rcases List.mem_cons.mp old with rfl | old
                  · exact .inr ⟨List.mem_cons_self, tested⟩
                  · exact .inl old
              | false => exact .inl old
            · exact .inr ⟨List.mem_cons_of_mem _ new.1, new.2⟩
  rw [List.filterM] at filtered
  cases ran : items.filterAuxM test [] with
  | error fault =>
      rw [ran] at filtered
      exact absurd filtered nofun
  | ok all =>
      rw [ran] at filtered
      obtain rfl := Except.ok.inj filtered
      simpa using gathers items [] all ran item (List.mem_reverse.mp member)

/-- A file of a folder is kept only if the patterns can be read and do not leave it out. -/
theorem keeps_ok_true {rules : List Ignore.Rule} {exclude : List String} {relative : String}
    (kept : keeps rules exclude relative = .ok true) :
    ∃ globs, Exclude.readAll exclude = .ok globs ∧ Exclude.excludes globs relative = false := by
  rw [keeps] at kept
  split at kept
  · exact absurd kept nofun
  · exact absurd kept nofun
  · split at kept
    · rename_i none
      obtain rfl := List.isEmpty_iff.mp none
      exact ⟨[], rfl, rfl⟩
    · rw [Exclude.matchesAny] at kept
      cases read : Exclude.readAll exclude with
      | error fault =>
          rw [read] at kept
          exact absurd kept nofun
      | ok globs =>
          rw [read] at kept
          exact ⟨globs, rfl, by simpa [Except.map] using kept⟩

theorem ne_nil_of_mem_filesIn {store : Store} {folder : Path} {names : List String}
    (member : names ∈ filesIn store folder) : names ≠ [] := by
  rw [filesIn] at member
  split at member
  · rename_i address _
    rw [Store.filesBelow, List.mem_mergeSort, List.mem_filterMap] at member
    obtain ⟨⟨place, item⟩, -, found⟩ := member
    cases item with
    | folder => simp at found
    | file octets =>
        simp only [Option.ite_none_right_eq_some, Bool.and_eq_true, decide_eq_true_eq,
          Option.some.injEq] at found
        obtain ⟨⟨-, longer⟩, rfl⟩ := found
        simpa using longer
  · simp at member

/-- A source file that a folder leads to stands below it and is left out by no pattern there. -/
theorem mem_sourcesAt {store : Store} {exclude : List String} {folder file : Path}
    {files : List Path} (isFolder : store.hasFile folder = false)
    (collected : sourcesAt store exclude folder = .ok files) (member : file ∈ files) :
    ∃ names globs, names ≠ [] ∧ file = folder.join ⟨"", names⟩ ∧
      Exclude.readAll exclude = .ok globs ∧
      Exclude.excludes globs ("/".intercalate names) = false := by
  rw [sourcesAt, isFolder, if_neg Bool.false_ne_true, Scan.folder] at collected
  cases listed : ignoreRules store folder with
  | error fault =>
      rw [listed] at collected
      exact absurd collected nofun
  | ok rules =>
      rw [listed] at collected
      cases filtered : (filesIn store folder).filterM
          fun names => keeps rules exclude ("/".intercalate names) with
      | error fault =>
          simp only [bind, Except.bind, filtered] at collected
          exact absurd collected nofun
      | ok kept =>
          simp only [bind, Except.bind, filtered] at collected
          obtain rfl := Except.ok.inj collected
          obtain ⟨names, isKept, rfl⟩ := List.mem_map.mp (List.mem_filter.mp member).1
          obtain ⟨found, passes⟩ := mem_of_filterM filtered isKept
          obtain ⟨globs, read, missed⟩ := keeps_ok_true passes
          exact ⟨names, globs, ne_nil_of_mem_filesIn found, rfl, read, missed⟩

end Scan

namespace Analyzer

/-- The document is set aside: its result is empty, and a note says that it is left out. -/
def SetsAside (analyzer : Analyzer) (options : AnalysisOptions) (document : Document) : Prop :=
  (analyzer.analyzeFile options document).2 =
    ⟨.ok (resultOf document.path []), [.fileExcluded document.path]⟩

theorem fileExcluded_notMem_examine (analyzer : Analyzer) (config : Config)
    (options : AnalysisOptions) (document : Document) (path : String) :
    Event.fileExcluded path ∉ (analyzer.examine config options document).2.events := by
  rw [examine]
  cases Vocabulary.extend config.extensions with
  | error fault => simp [Noted.plain]
  | ok vocabulary =>
      simp only [runStations_events, List.mem_append, List.mem_map, List.mem_flatMap]
      rintro (⟨pattern, -, rejected⟩ | ⟨station, -, noted⟩)
      · cases rejected
      · rw [eventsAt] at noted
        split at noted
        · unfold eventsOf at noted
          split at noted
          · simp at noted
          · split at noted <;> simp at noted
        · simp at noted

/-- A document is set aside exactly when the patterns leave its path out. -/
theorem setsAside_iff {analyzer : Analyzer} {options : AnalysisOptions} {document : Document}
    {config : Config} {globs : List Exclude.Glob}
    (inForce : analyzer.config.withOverride options.override = .ok config)
    (read : Exclude.readAll config.exclude = .ok globs) :
    SetsAside analyzer options document ↔ Exclude.LeftOut globs document.path := by
  have tested : Exclude.matchesAny config.exclude document.path =
      .ok (Exclude.excludes globs document.path) := by
    rw [Exclude.matchesAny, read]
    rfl
  rw [SetsAside, analyzeFile, inForce, ← Exclude.excludes_iff]
  simp only [tested]
  cases Exclude.excludes globs document.path with
  | true => simp
  | false =>
      refine iff_of_false (fun aside => ?_) Bool.false_ne_true
      have noted := fileExcluded_notMem_examine analyzer config options document document.path
      rw [show (analyzer.examine config options document).2.events =
        [.fileExcluded document.path] from congrArg Noted.events aside] at noted
      exact noted List.mem_cons_self

/-- From a folder, a collected file is set aside exactly when the patterns leave out the path under
which it is passed on.  That never happens in the current directory, and for patterns that spell
names it happens exactly when they leave out the folder. -/
theorem setsAside_collected_iff {store : Store} {argument : String} {files : List Path}
    {file : Path} {analyzer : Analyzer} {options : AnalysisOptions} {config : Config}
    (inForce : analyzer.config.withOverride options.override = .ok config)
    (isFolder : store.hasFile (.ofString argument) = false)
    (collected : Scan.sourcesAt store config.exclude (.ofString argument) = .ok files)
    (member : file ∈ files) (text : List Char) (tree : Option Tree) :
    ∃ names globs, file = (Path.ofString argument).join ⟨"", names⟩ ∧
      Exclude.readAll config.exclude = .ok globs ∧
      Exclude.excludes globs ("/".intercalate names) = false ∧
      (SetsAside analyzer options ⟨file.toString, text, tree⟩ ↔
        Exclude.LeftOut globs file.toString) ∧
      (Path.ofString argument = .here →
        ¬ SetsAside analyzer options ⟨file.toString, text, tree⟩) ∧
      ((∀ pattern ∈ config.exclude, Exclude.SpelledFloating pattern) →
        (∀ name ∈ names, FileName name) →
        (SetsAside analyzer options ⟨file.toString, text, tree⟩ ↔
          Exclude.LeftOut globs (Path.ofString argument).lead)) := by
  obtain ⟨names, globs, nonempty, rfl, read, missed⟩ := Scan.mem_sourcesAt isFolder collected member
  have written := Path.toString_join (Path.ofString argument) nonempty
  have kept : ¬ Exclude.LeftOut globs ("/".intercalate names) := by
    rw [← Exclude.excludes_iff, missed]
    exact Bool.false_ne_true
  refine ⟨names, globs, rfl, read, missed, setsAside_iff inForce read, ?_, ?_⟩
  · intro here
    rw [setsAside_iff inForce read, written, here]
    simpa [Path.lead, Path.here] using kept
  · intro spelled areNames
    rw [setsAside_iff inForce read, written]
    exact Exclude.leftOut_append_iff (Exclude.floating_of_readAll spelled read)
      (Path.closed_lead_ofString argument) (FileName.inside_intercalate nonempty areNames) kept

/-- A working folder with a file in each of two folders. -/
def twoFolders : Store :=
  let item : Item := .file (Text.encode "const data = foo();".toList)
  ⟨"/", ["work"], ["home"], [(["work"], .folder), (["work", "build"], .folder),
    (["work", "build", "a.js"], item), (["work", "src"], .folder),
    (["work", "src", "a.js"], item)]⟩

/-- The built-in detectors, every record with the same stamp. -/
def builtin : Analyzer :=
  .ofDetectors .standard (Detector.standard fun _ => ⟨"0", ⟨2024, 1, 1, 0, 0, 0, 0, none⟩⟩)

theorem not_setsAside_below_src :
    Scan.sourcesAt twoFolders Config.builtinExclude (.ofString "src") =
        .ok [⟨"", ["src", "a.js"]⟩] ∧
      ¬ SetsAside builtin {} ⟨"src/a.js", "const data = foo();".toList, none⟩ := by
  have inForce : builtin.config.withOverride ({} : AnalysisOptions).override =
      .ok Config.standard := rfl
  have isFolder : twoFolders.hasFile (.ofString "src") = false := by decide +kernel
  have collected : Scan.sourcesAt twoFolders Config.standard.exclude (.ofString "src") =
      .ok [⟨"", ["src", "a.js"]⟩] := by decide +kernel
  obtain ⟨names, globs, below, read, -, -, -, agree⟩ :=
    setsAside_collected_iff inForce isFolder collected List.mem_cons_self
      "const data = foo();".toList none
  obtain rfl : ["a.js"] = names := by
    have folder_eq : Path.ofString "src" = ⟨"", ["src"]⟩ := by decide +kernel
    rw [folder_eq] at below
    simpa [Path.join, Path.isAbsolute] using congrArg Path.parts below
  have isName : FileName "a.js" := ⟨by decide, by decide, by decide, by decide⟩
  have spared : Exclude.matchesAny Config.standard.exclude (Path.ofString "src").lead =
      .ok false := by decide +kernel
  rw [Exclude.matchesAny, read] at spared
  have kept : Exclude.excludes globs (Path.ofString "src").lead = false := Except.ok.inj spared
  refine ⟨collected, fun aside => ?_⟩
  have leftOut := (agree spelledFloating_builtin (by simpa using isName)).mp aside
  rw [← Exclude.excludes_iff, kept] at leftOut
  exact absurd leftOut Bool.false_ne_true

/-- Below a folder that the patterns leave out, a file is collected and then set aside. -/
theorem setsAside_below_build :
    Scan.sourcesAt twoFolders Config.builtinExclude (.ofString "build") =
        .ok [⟨"", ["build", "a.js"]⟩] ∧
      SetsAside builtin {} ⟨"build/a.js", "const data = foo();".toList, none⟩ := by
  have inForce : builtin.config.withOverride ({} : AnalysisOptions).override =
      .ok Config.standard := rfl
  have excluded : Exclude.matchesAny Config.standard.exclude "build/a.js" = .ok true := by
    decide +kernel
  refine ⟨by decide +kernel, ?_⟩
  rw [SetsAside, analyzeFile, inForce]
  simp only [excluded]

end Analyzer

end Hazard
