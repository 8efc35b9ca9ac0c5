import Hazard.Files.Exclude
import Hazard.Proofs.Regex.Fits

/-!
# Patterns that hold at any depth

A pattern that starts by crossing directories and then asks for one name floats: whether it matches a
path depends on the names of the path, not on where the path starts.  So a floating pattern that
misses a path matches it below a further folder exactly when it matches the folder.
-/

namespace Hazard
namespace Exclude

open Regex

/-- The expressions of which the expression of a name is made. -/
inductive NamePiece : Regex → Prop
  | char {c : Char} (ordinary : c ≠ '/') : NamePiece (char .exact c)
  | any : NamePiece noSlash
  | some : NamePiece (many noSlash)

/-- What has to follow a name: something below it, or else the end of the path. -/
inductive Finish where
  | below
  | whole

namespace Finish

/-- The expression at the end of a pattern. -/
def regex : Finish → Regex
  | .below => char .exact '/'
  | .whole => choice [char .exact '/', .at .lastLineEnd]

/-- What may follow the name. -/
def Ends : Finish → List Char → Prop
  | .below, rest => ∃ below, rest = '/' :: below
  | .whole, rest => (∃ below, rest = '/' :: below) ∨ rest = [] ∨ rest = ['\n']

end Finish

/-- The expression of a name at any depth. -/
def floatingRegex (name : List Regex) (finish : Finish) : Regex :=
  concat (leadingDirectories ++ (name ++ [finish.regex]))

/-- The pattern leaves files out by a name at any depth, which has at least one given character. -/
def Floating (glob : Glob) : Prop :=
  glob.excludes = true ∧ ∃ name finish, (∀ piece ∈ name, NamePiece piece) ∧
    (∃ c, char .exact c ∈ name) ∧ glob.regex = floatingRegex name finish

/-- Whole directories, each with the slash after it, on one line. -/
def Directories (text : List Char) : Prop :=
  text = [] ∨ ∃ names, names ≠ [] ∧ '\n' ∉ names ∧ text = names ++ ['/']

/-- The path has a name that fits, after whole directories and before what has to follow. -/
def Hits (name : List Regex) (finish : Finish) (text : List Char) : Prop :=
  ∃ lead middle rest, text = lead ++ (middle ++ rest) ∧ Directories lead ∧
    (concat name).Fits [] middle [] ∧ finish.Ends rest

/-! ## Names -/

theorem accepts_noSlash {c : Char} :
    (CharTest.set true (members "/") .exact).accepts c = true ↔ c ≠ '/' := by
  have code : c.toNat = 47 ↔ c = '/' := Char.toNat_inj (d := '/')
  simp [CharTest.accepts, ClassItem.accepts, ClassItem.oneAccepts, members, code]

/-- What fits a piece of a name has no slash and does not depend on its neighbours. -/
theorem NamePiece.fits {piece : Regex} (isPiece : NamePiece piece)
    {before text after : List Char} (fit : piece.Fits before text after) :
    '/' ∉ text ∧ ∀ before' after', piece.Fits before' text after' := by
  cases isPiece with
  | char ordinary =>
      rw [fits_char] at fit
      subst fit
      exact ⟨by simpa using ordinary.symm, fun _ _ => fits_char.mpr rfl⟩
  | any =>
      obtain ⟨c, rfl, accepted⟩ := fit
      exact ⟨by simpa using (accepts_noSlash.mp accepted).symm,
        fun _ _ => ⟨c, rfl, accepted⟩⟩
  | some =>
      rw [noSlash, noneOf, fits_many_one] at fit
      refine ⟨fun slash => accepts_noSlash.mp (fit _ slash) rfl, fun _ _ => ?_⟩
      rw [noSlash, noneOf, fits_many_one]
      exact fit

theorem fits_name {name : List Regex} (pieces : ∀ piece ∈ name, NamePiece piece)
    {before text after : List Char} (fit : (concat name).Fits before text after) :
    '/' ∉ text ∧ ∀ before' after', (concat name).Fits before' text after' := by
  induction name generalizing before text with
  | nil =>
      have empty : text = [] := fit
      subst empty
      exact ⟨by simp, fun _ _ => rfl⟩
  | cons piece name ih =>
      rw [List.forall_mem_cons] at pieces
      obtain ⟨head, tail, rfl, fitHead, fitTail⟩ := fits_concat_cons.mp fit
      obtain ⟨slashless, fitHead'⟩ := pieces.1.fits fitHead
      obtain ⟨slashless', fitTail'⟩ := ih pieces.2 fitTail
      refine ⟨by simp [slashless, slashless'], fun before' after' => fits_concat_cons.mpr ?_⟩
      exact ⟨head, tail, rfl, fitHead' _ _, fitTail' _ _⟩

/-- A given character of a name stands in whatever fits the name. -/
theorem mem_of_fits_name {name : List Regex} {c : Char} (given : char .exact c ∈ name)
    {before text after : List Char} (fit : (concat name).Fits before text after) : c ∈ text := by
  induction name generalizing before text with
  | nil => simp at given
  | cons piece name ih =>
      obtain ⟨head, tail, rfl, fitHead, fitTail⟩ := fits_concat_cons.mp fit
      rcases List.mem_cons.mp given with rfl | later
      · rw [fits_char] at fitHead
        simp [fitHead]
      · exact List.mem_append_right _ (ih later fitTail)

/-! ## What a floating pattern matches -/

theorem fits_leadingDirectories {before text after : List Char} :
    (concat leadingDirectories).Fits before text after ↔ before = [] ∧ Directories text := by
  have inner {before text after : List Char} :
      (concat [many1 anyChar, char .exact '/']).Fits before text after ↔
        ∃ names, names ≠ [] ∧ '\n' ∉ names ∧ text = names ++ ['/'] := by
    rw [fits_concat_cons]
    simp only [Then, anyChar, fits_many1_one, concat, fits_char, CharTest.accepts, bne_iff_ne]
    constructor
    · rintro ⟨names, _, rfl, ⟨nonempty, line⟩, rfl⟩
      exact ⟨names, nonempty, fun newline => line _ newline rfl, rfl⟩
    · rintro ⟨names, nonempty, line, rfl⟩
      exact ⟨names, ['/'], rfl, ⟨nonempty, fun c member newline => line (newline ▸ member)⟩, rfl⟩
  rw [leadingDirectories, fits_concat_cons, then_at, concat, fits_perhaps, inner]
  simp [Cursor.satisfies, Directories]

theorem fits_finish {finish : Finish} {before rest : List Char} :
    (∃ text after, rest = text ++ after ∧ finish.regex.Fits before text after) ↔
      finish.Ends rest := by
  cases finish with
  | below => simp [Finish.regex, Finish.Ends, fits_char]
  | whole =>
      simp only [Finish.regex, Finish.Ends, choice, Fits, fits_char, Cursor.satisfies]
      constructor
      · rintro ⟨_, after, rfl, rfl | ⟨rfl, ends⟩⟩
        · exact .inl ⟨after, rfl⟩
        · exact .inr (by simpa using ends)
      · rintro (⟨below, rfl⟩ | ends)
        · exact ⟨['/'], below, rfl, .inl rfl⟩
        · exact ⟨[], rest, rfl, .inr ⟨rfl, by simpa using ends⟩⟩

theorem plain_floatingRegex {name : List Regex} (pieces : ∀ piece ∈ name, NamePiece piece)
    (finish : Finish) : Plain (floatingRegex name finish) := by
  apply plain_concat
  simp only [List.forall_mem_append, List.forall_mem_singleton]
  refine ⟨?_, fun piece member => ?_, ?_⟩
  · have directories : Plain (perhaps (concat [many1 anyChar, char .exact '/'])) :=
      .greedy (fun _ _ => Nat.zero_le _) (.seq (.greedy nofun (.one _)) (.one _))
    simp [leadingDirectories, Plain.place, directories]
  · cases pieces piece member with
    | char => exact .one _
    | any => exact .one _
    | some => exact .greedy nofun (.one _)
  · cases finish with
    | below => exact .one _
    | whole => exact .alt (.one _) (.place _)

theorem fits_floatingRegex {name : List Regex} {finish : Finish} {before text after : List Char} :
    (floatingRegex name finish).Fits before text after ↔
      Then (concat leadingDirectories).Fits (Then (concat name).Fits finish.regex.Fits)
        before text after := by
  rw [floatingRegex, fits_concat_append]
  exact then_congr (fun _ _ _ => Iff.rfl) (fun _ _ _ => fits_concat_append)

/-- A floating pattern matches the paths that it hits. -/
theorem occursIn_floatingRegex {name : List Regex} (pieces : ∀ piece ∈ name, NamePiece piece)
    {finish : Finish} {text : List Char} :
    (floatingRegex name finish).occursIn text = true ↔ Hits name finish text := by
  rw [occursIn_iff (plain_floatingRegex pieces finish)]
  simp only [fits_floatingRegex]
  constructor
  · rintro ⟨front, _, rear, rfl, lead, _, rfl, fitLead, middle, last, rfl, fitMiddle, fitLast⟩
    obtain ⟨empty, directories⟩ := fits_leadingDirectories.mp fitLead
    rw [List.reverse_eq_nil_iff] at empty
    subst empty
    exact ⟨lead, middle, last ++ rear, by simp, directories, (fits_name pieces fitMiddle).2 _ _,
      fits_finish.mp ⟨last, rear, rfl, fitLast⟩⟩
  · rintro ⟨lead, middle, rest, rfl, directories, fitMiddle, ends⟩
    obtain ⟨last, rear, rfl, fitLast⟩ := fits_finish.mpr ends
    exact ⟨[], lead ++ (middle ++ last), rear, by simp, lead, middle ++ last, rfl,
      fits_leadingDirectories.mpr ⟨rfl, directories⟩, middle, last, rfl,
      (fits_name pieces fitMiddle).2 _ _, fitLast⟩

/-! ## Below a folder -/

/-- The text of a folder: empty, or with a slash at its end. -/
def Closed (text : List Char) : Prop := text = [] ∨ ∃ folder, text = folder ++ ['/']

theorem Closed.slash_mem {text front rear : List Char} (closed : Closed text)
    (split : text = front ++ rear) (nonempty : rear ≠ []) : '/' ∈ rear := by
  obtain ⟨initial, last, rfl⟩ := (List.eq_nil_or_concat' rear).resolve_left nonempty
  rcases closed with rfl | ⟨folder, rfl⟩
  · simp at split
  · rw [← List.append_assoc] at split
    have ends_eq : ['/'] = [last] := (List.append_inj' split rfl).2
    rw [← ends_eq]
    simp

theorem Directories.of_append {front rear : List Char} (directories : Directories (front ++ rear))
    (relative : rear.head? ≠ some '/') : Directories rear := by
  rcases List.eq_nil_or_concat' rear with rfl | ⟨initial, last, rfl⟩
  · exact .inl rfl
  · rcases directories with empty | ⟨names, -, line, split⟩
    · simp at empty
    · rw [← List.append_assoc] at split
      obtain ⟨rfl, ends_eq⟩ := List.append_inj' split rfl
      obtain rfl : last = '/' := by simpa using ends_eq
      refine .inr ⟨initial, ?_, fun newline => line (List.mem_append_right _ newline), rfl⟩
      rintro rfl
      exact relative rfl

theorem Finish.ends_slash (finish : Finish) (below : List Char) :
    finish.Ends ('/' :: below) := by
  cases finish with
  | below => exact ⟨below, rfl⟩
  | whole => exact .inl ⟨below, rfl⟩

theorem Finish.Ends.eq_slash {finish : Finish} {rest : List Char} (ends : finish.Ends rest)
    (slash : '/' ∈ rest) : ∃ below, rest = '/' :: below := by
  cases finish with
  | below => exact ends
  | whole =>
      rcases ends with below | rfl | rfl
      · exact below
      · simp at slash
      · simp at slash

/-- In the text of a folder a slash follows every name that fits. -/
theorem slash_mem_of_fits {name : List Regex} (pieces : ∀ piece ∈ name, NamePiece piece)
    (given : ∃ c, char .exact c ∈ name) {lead middle rest : List Char}
    (closed : Closed (lead ++ (middle ++ rest))) (fit : (concat name).Fits [] middle []) :
    '/' ∈ rest := by
  by_cases ended : rest = []
  · subst ended
    obtain ⟨c, member⟩ := given
    have nonempty : middle ≠ [] := List.ne_nil_of_mem (mem_of_fits_name member fit)
    rw [List.append_nil] at closed
    exact absurd (closed.slash_mem rfl nonempty) (fits_name pieces fit).1
  · rw [← List.append_assoc] at closed
    exact closed.slash_mem rfl ended

/-- A name that fits and ends below the folder stands below it. -/
theorem hits_of_covered {name : List Regex} (pieces : ∀ piece ∈ name, NamePiece piece)
    {finish : Finish} {folder lead middle past rest : List Char} (closed : Closed folder)
    (relative : (past ++ rest).head? ≠ some '/') (covered : lead ++ middle = folder ++ past)
    (directories : Directories lead) (fit : (concat name).Fits [] middle [])
    (ends : finish.Ends rest) : Hits name finish (past ++ rest) := by
  rcases List.append_eq_append_iff.mp covered with ⟨inner, rfl, rfl⟩ | ⟨outer, rfl, rfl⟩
  · -- The name would start in the folder, and hold the slash at its end.
    obtain rfl : inner = [] := by
      by_contra reaches
      have slash := closed.slash_mem rfl reaches
      exact (fits_name pieces fit).1 (List.mem_append_left _ slash)
    exact ⟨[], past, rest, rfl, .inl rfl, fit, ends⟩
  · refine ⟨outer, middle, rest, by simp, directories.of_append ?_, fit, ends⟩
    cases outer with
    | nil => simp
    | cons c outer => simpa using relative

/-- A floating pattern that misses a path hits it below a folder exactly when it hits the
folder. -/
theorem hits_append_iff {name : List Regex} (pieces : ∀ piece ∈ name, NamePiece piece)
    (given : ∃ c, char .exact c ∈ name) {finish : Finish} {folder text : List Char}
    (closed : Closed folder) (relative : text.head? ≠ some '/')
    (missed : ¬ Hits name finish text) :
    Hits name finish (folder ++ text) ↔ Hits name finish folder := by
  constructor
  · rintro ⟨lead, middle, rest, split, directories, fit, ends⟩
    rw [← List.append_assoc] at split
    rcases List.append_eq_append_iff.mp split with ⟨past, covered, rfl⟩ | ⟨below, rfl, rfl⟩
    · exact absurd (hits_of_covered pieces closed relative covered directories fit ends) missed
    · rw [List.append_assoc] at closed
      have slash := slash_mem_of_fits pieces given closed fit
      obtain ⟨further, further_eq⟩ := ends.eq_slash (List.mem_append_left _ slash)
      obtain ⟨c, below, rfl⟩ := List.exists_cons_of_ne_nil (List.ne_nil_of_mem slash)
      obtain rfl : c = '/' := by simpa using congrArg List.head? further_eq
      exact ⟨lead, middle, '/' :: below, by simp, directories, fit, finish.ends_slash below⟩
  · rintro ⟨lead, middle, rest, rfl, directories, fit, ends⟩
    obtain ⟨below, rfl⟩ := ends.eq_slash (slash_mem_of_fits pieces given closed fit)
    exact ⟨lead, middle, '/' :: (below ++ text), by simp, directories, fit, finish.ends_slash _⟩

/-! ## Lists of patterns -/

/-- A pattern that leaves files out matches the path, and none after it does. -/
def LeftOut (globs : List Glob) (path : String) : Prop :=
  ∃ earlier glob later, globs = earlier ++ glob :: later ∧ glob.excludes = true ∧
    glob.regex.occursIn (relative path) = true ∧
    ∀ other ∈ later, ¬ other.regex.occursIn (relative path) = true

theorem excludes_iff {globs : List Glob} {path : String} :
    excludes globs path = true ↔ LeftOut globs path := by
  rw [excludes]
  constructor
  · intro excluded
    split at excluded
    · rename_i glob found
      obtain ⟨hit, later, earlier, split, missed⟩ := List.find?_eq_some_iff_append.mp found
      refine ⟨earlier.reverse, glob, later.reverse, ?_, excluded, hit, ?_⟩
      · simpa using congrArg List.reverse split
      · simpa using missed
    · simp at excluded
  · rintro ⟨earlier, glob, later, rfl, leaves, hit, missed⟩
    have found : ((earlier ++ glob :: later).reverse.find?
        fun glob => glob.regex.occursIn (relative path)) = some glob := by
      refine List.find?_eq_some_iff_append.mpr ⟨hit, later.reverse, earlier.reverse, by simp, ?_⟩
      simpa using missed
    rw [found]
    exact leaves

/-- Of patterns that all leave files out, any match decides. -/
theorem leftOut_iff_exists {globs : List Glob} (leave : ∀ glob ∈ globs, glob.excludes = true)
    {path : String} :
    LeftOut globs path ↔ ∃ glob ∈ globs, glob.regex.occursIn (relative path) = true := by
  constructor
  · rintro ⟨earlier, glob, later, rfl, -, hit, -⟩
    exact ⟨glob, by simp, hit⟩
  · rintro ⟨glob, member, hit⟩
    have found : (globs.reverse.find? fun glob => glob.regex.occursIn (relative path)).isSome :=
      List.find?_isSome.mpr ⟨glob, by simpa using member, hit⟩
    obtain ⟨last, found⟩ := Option.isSome_iff_exists.mp found
    have last_mem : last ∈ globs := by simpa using List.mem_of_find?_eq_some found
    rw [← excludes_iff, excludes, found]
    exact leave last last_mem

/-! ## Paths as patterns see them -/

/-- A path seen from a folder: it has no backslash, and no root or current directory in front. -/
structure Inside (text : List Char) : Prop where
  plain : '\\' ∉ text
  rootless : text.head? ≠ some '/'
  dotless : ¬ ['.', '/'] <+: text

/-- The text without a root or the current directory in front. -/
def unrooted : List Char → List Char
  | '/' :: rest => rest
  | '.' :: '/' :: rest => rest
  | text => text

theorem relative_eq (path : String) :
    relative path = unrooted (Text.replaceChar '\\' '/' path.toList) := rfl

theorem unrooted_eq_self {text : List Char} (rootless : text.head? ≠ some '/')
    (dotless : ¬ ['.', '/'] <+: text) : unrooted text = text := by
  unfold unrooted
  split
  · exact absurd rfl rootless
  · exact absurd (List.prefix_append ['.', '/'] _) dotless
  · rfl

theorem Closed.unrooted_append {folder text : List Char} (closed : Closed folder)
    (inside : Inside text) : unrooted (folder ++ text) = unrooted folder ++ text := by
  rcases folder with _ | ⟨c, _ | ⟨d, rest⟩⟩
  · exact unrooted_eq_self inside.rootless inside.dotless
  · have slash := closed.slash_mem (List.nil_append [c]).symm (List.cons_ne_nil c [])
    obtain rfl : '/' = c := by simpa using slash
    rfl
  · by_cases rooted : c = '/'
    · subst rooted
      rfl
    · by_cases dotted : c = '.' ∧ d = '/'
      · obtain ⟨rfl, rfl⟩ := dotted
        rfl
      · have stays (tail : List Char) : unrooted (c :: d :: tail) = c :: d :: tail :=
          unrooted_eq_self (by simpa using rooted) (by simpa [eq_comm] using dotted)
        rw [List.cons_append, List.cons_append, stays, stays]
        rfl

theorem Closed.of_append {front rear : List Char} (closed : Closed (front ++ rear)) :
    Closed rear := by
  rcases List.eq_nil_or_concat' rear with rfl | ⟨initial, last, rfl⟩
  · exact .inl rfl
  · have slash := closed.slash_mem (List.append_assoc front initial [last]).symm (by simp)
    obtain rfl : '/' = last := by simpa using slash
    exact .inr ⟨initial, rfl⟩

theorem Closed.unrooted {folder : List Char} (closed : Closed folder) :
    Closed (unrooted folder) := by
  unfold Exclude.unrooted
  split
  · rename_i rest
    exact Closed.of_append (show Closed (['/'] ++ rest) from closed)
  · rename_i rest
    exact Closed.of_append (show Closed (['.', '/'] ++ rest) from closed)
  · exact closed

theorem Closed.replaceChar {folder : List Char} (closed : Closed folder) :
    Closed (Text.replaceChar '\\' '/' folder) := by
  rcases closed with rfl | ⟨folder, rfl⟩
  · exact .inl rfl
  · exact .inr ⟨Text.replaceChar '\\' '/' folder, by simp [Text.replaceChar]⟩

/-- What patterns see of a path below a folder is what they see of the folder, and then the path. -/
theorem relative_append {folder path : String} (closed : Closed folder.toList)
    (inside : Inside path.toList) :
    relative (folder ++ path) = relative folder ++ path.toList := by
  have kept : Text.replaceChar '\\' '/' path.toList = path.toList := by
    rw [Text.replaceChar, List.map_congr_left, List.map_id']
    intro c member
    have ordinary : c ≠ '\\' := fun backslash => inside.plain (backslash ▸ member)
    simp [ordinary]
  have split : Text.replaceChar '\\' '/' (folder ++ path).toList =
      Text.replaceChar '\\' '/' folder.toList ++ path.toList := by
    rw [← kept]
    simp [Text.replaceChar]
  rw [relative_eq, relative_eq, split, closed.replaceChar.unrooted_append inside]

theorem Closed.relative {folder : String} (closed : Closed folder.toList) :
    Closed (relative folder) := by
  rw [relative_eq]
  exact closed.replaceChar.unrooted

/-- Floating patterns that do not leave a path out leave it out below a folder exactly when they
leave the folder out. -/
theorem leftOut_append_iff {globs : List Glob} (floating : ∀ glob ∈ globs, Floating glob)
    {folder path : String} (closed : Closed folder.toList) (inside : Inside path.toList)
    (missed : ¬ LeftOut globs path) :
    LeftOut globs (folder ++ path) ↔ LeftOut globs folder := by
  have leave (glob : Glob) (member : glob ∈ globs) : glob.excludes = true :=
    (floating glob member).1
  have alone : relative path = path.toList := by
    have empty : Closed "".toList := .inl rfl
    simpa [relative_eq, Text.replaceChar, unrooted] using relative_append empty inside
  rw [leftOut_iff_exists leave, alone] at missed
  rw [leftOut_iff_exists leave, leftOut_iff_exists leave, relative_append closed inside]
  have each (glob : Glob) (member : glob ∈ globs) :
      glob.regex.occursIn (relative folder ++ path.toList) = true ↔
        glob.regex.occursIn (relative folder) = true := by
    obtain ⟨-, name, finish, pieces, given, regex_eq⟩ := floating glob member
    have misses : ¬ glob.regex.occursIn path.toList = true := fun hit =>
      missed ⟨glob, member, hit⟩
    rw [regex_eq, occursIn_floatingRegex pieces] at misses
    rw [regex_eq, occursIn_floatingRegex pieces, occursIn_floatingRegex pieces]
    exact hits_append_iff pieces given closed.relative inside.rootless misses
  constructor
  · rintro ⟨glob, member, hit⟩
    exact ⟨glob, member, (each glob member).mp hit⟩
  · rintro ⟨glob, member, hit⟩
    exact ⟨glob, member, (each glob member).mpr hit⟩

end Exclude
end Hazard
