import Hazard.Proofs.Files.Floating

/-!
# Patterns that spell a name

A pattern that gives one name, with or without two stars in front of it or after it, is read as a
floating one.  The expression of the name has one piece for each of its characters.
-/

namespace Hazard
namespace Exclude

open Regex

/-- What a character of a name stands for. -/
def pieceOf (c : Char) : Regex :=
  if c = '*' then many noSlash else if c = '?' then noSlash else char .exact c

/-- A name as patterns spell it: without brackets and escapes, with at least one character that
stands for itself, and with no blank at its end. -/
structure SpelledName (name : List Char) : Prop where
  slashless : '/' ∉ name
  unescaped : '\\' ∉ name
  unbracketed : '[' ∉ name
  literal : (name.any fun c => c != '*' && c != '?') = true
  solid : name.getLast?.any Text.isBlank = false

instance (name : List Char) : Decidable (SpelledName name) :=
  decidable_of_iff
    ('/' ∉ name ∧ '\\' ∉ name ∧ '[' ∉ name ∧ (name.any fun c => c != '*' && c != '?') = true ∧
      name.getLast?.any Text.isBlank = false)
    ⟨fun ⟨slashless, unescaped, unbracketed, literal, solid⟩ =>
      ⟨slashless, unescaped, unbracketed, literal, solid⟩,
     fun ⟨slashless, unescaped, unbracketed, literal, solid⟩ =>
      ⟨slashless, unescaped, unbracketed, literal, solid⟩⟩

/-- A pattern that asks for a name at any depth, or for what is below it. -/
inductive SpelledFloating (pattern : String) : Prop
  | whole {name : List Char} (isName : SpelledName name)
      (spelled : pattern.toList = anyDepth ++ '/' :: name)
  | below {name : List Char} (isName : SpelledName name)
      (spelled : pattern.toList = anyDepth ++ '/' :: (name ++ '/' :: anyDepth))
  | bare {name : List Char} (isName : SpelledName name)
      (start : name.head? ≠ some '#' ∧ name.head? ≠ some '!') (spelled : pattern.toList = name)
  | folder {name : List Char} (isName : SpelledName name)
      (start : name.head? ≠ some '#' ∧ name.head? ≠ some '!')
      (spelled : pattern.toList = name ++ ['/'])

/-! ## Names -/

/-- Some character of the name stands for itself. -/
theorem SpelledName.exists_literal {name : List Char} (isName : SpelledName name) :
    ∃ c ∈ name, c ≠ '*' ∧ c ≠ '?' := by
  simpa using isName.literal

theorem partWithin_eq_map {name : List Char} (unescaped : '\\' ∉ name) (unbracketed : '[' ∉ name)
    {steps : Nat} (enough : name.length ≤ steps) :
    partWithin steps name = .ok (name.map pieceOf) := by
  induction name generalizing steps with
  | nil => simp [partWithin]
  | cons c rest ih =>
      obtain ⟨steps, rfl⟩ : ∃ fewer, steps = fewer + 1 := ⟨steps - 1, by simp at enough; omega⟩
      rw [List.mem_cons, not_or] at unescaped unbracketed
      have more := ih unescaped.2 unbracketed.2 (Nat.le_of_succ_le_succ enough)
      by_cases star : c = '*'
      · subst star
        simp [partWithin, more, pieceOf, bind, Except.bind, pure, Except.pure]
      · by_cases mark : c = '?'
        · subst mark
          simp [partWithin, more, pieceOf, bind, Except.bind, pure, Except.pure]
        · rw [partWithin, more]
          · simp [pieceOf, star, mark, bind, Except.bind, pure, Except.pure]
          -- The side conditions say that the character is none of the marks.
          all_goals simp_all [eq_comm]

theorem SpelledName.part_eq {name : List Char} (isName : SpelledName name) :
    part name = .ok (name.map pieceOf) :=
  partWithin_eq_map isName.unescaped isName.unbracketed (Nat.le_refl _)

theorem namePiece_pieceOf {c : Char} (ordinary : c ≠ '/') : NamePiece (pieceOf c) := by
  rw [pieceOf]
  split
  · exact .some
  · split
    · exact .any
    · exact .char ordinary

/-- The expression of a spelled name makes a floating pattern. -/
theorem SpelledName.floating {name : List Char} (isName : SpelledName name) (finish : Finish) :
    Floating ⟨true, floatingRegex (name.map pieceOf) finish⟩ := by
  refine ⟨rfl, name.map pieceOf, finish, ?_, ?_, rfl⟩
  · intro piece member
    obtain ⟨c, spelled, rfl⟩ := List.mem_map.mp member
    exact namePiece_pieceOf fun slash => isName.slashless (slash ▸ spelled)
  · obtain ⟨c, spelled, star, mark⟩ := isName.exists_literal
    exact ⟨c, List.mem_map.mpr ⟨c, spelled, by simp [pieceOf, star, mark]⟩⟩

theorem SpelledName.ne_stars {name : List Char} (isName : SpelledName name) :
    name ≠ anyDepth ∧ name ≠ anyName := by
  obtain ⟨c, spelled, star, -⟩ := isName.exists_literal
  constructor
  · rintro rfl
    simp [anyDepth, star] at spelled
  · rintro rfl
    simp [anyName, star] at spelled

/-! ## Parts -/

theorem SpelledName.expression_whole {name : List Char} (isName : SpelledName name)
    (isDirectory : Bool) :
    expression isDirectory [anyDepth, name] =
      .ok (floatingRegex (name.map pieceOf) .whole) := by
  obtain ⟨notDepth, notName⟩ := isName.ne_stars
  simp [expression, partsFrom, notDepth, notName, isName.part_eq, bind, Except.bind, pure,
    Except.pure, Except.map, floatingRegex, Finish.regex]

theorem SpelledName.expression_below {name : List Char} (isName : SpelledName name)
    (isDirectory : Bool) :
    expression isDirectory [anyDepth, name, anyDepth] =
      .ok (floatingRegex (name.map pieceOf) .below) := by
  obtain ⟨notDepth, notName⟩ := isName.ne_stars
  simp [expression, partsFrom, notDepth, notName, isName.part_eq, bind, Except.bind, pure,
    Except.pure, Except.map, floatingRegex, Finish.regex]

theorem splitOn_of_notMem {separator : Char} {text : List Char} (absent : separator ∉ text) :
    Text.splitOn separator text = [text] := by
  induction text with
  | nil => rfl
  | cons c text ih =>
      rw [List.mem_cons, not_or] at absent
      have other : (c == separator) = false := by simpa using Ne.symm absent.1
      rw [Text.splitOn, other, ih absent.2]
      rfl

theorem splitOn_append {separator : Char} {front : List Char} (absent : separator ∉ front)
    (rear : List Char) :
    Text.splitOn separator (front ++ separator :: rear) = front :: Text.splitOn separator rear := by
  induction front with
  | nil => simp [Text.splitOn]
  | cons c front ih =>
      rw [List.mem_cons, not_or] at absent
      have other : (c == separator) = false := by simpa using Ne.symm absent.1
      rw [List.cons_append, Text.splitOn, other, ih absent.2]
      rfl

theorem SpelledName.exists_cons {name : List Char} (isName : SpelledName name) :
    ∃ c rest, name = c :: rest := by
  obtain ⟨c, spelled, -⟩ := isName.exists_literal
  exact List.exists_cons_of_ne_nil (List.ne_nil_of_mem spelled)

theorem SpelledName.normalize_single {name : List Char} (isName : SpelledName name) :
    normalize [name] = [anyDepth, name] ∧ normalize [anyDepth, name] = [anyDepth, name] := by
  obtain ⟨notDepth, -⟩ := isName.ne_stars
  obtain ⟨c, rest, rfl⟩ := isName.exists_cons
  have spelled : ¬ (c = '*' ∧ rest = ['*']) := by simpa [anyDepth] using notDepth
  constructor
  · simp [normalize, collapse, notDepth]
  · simpa [normalize, collapse, anyDepth] using spelled

theorem SpelledName.normalize_open {name : List Char} (isName : SpelledName name) :
    normalize [name, []] = [anyDepth, name, anyDepth] ∧
      normalize [anyDepth, name, anyDepth] = [anyDepth, name, anyDepth] := by
  obtain ⟨notDepth, -⟩ := isName.ne_stars
  obtain ⟨c, rest, rfl⟩ := isName.exists_cons
  have spelled : ¬ (c = '*' ∧ rest = ['*']) := by simpa [anyDepth] using notDepth
  constructor
  · simp [normalize, collapse, notDepth]
  · simp [normalize, collapse, anyDepth, spelled]

/-! ## Patterns -/

/-- A text that is a pattern as it stands: not empty, without a mark in front or a blank at its
end. -/
structure Unmarked (text : List Char) : Prop where
  nonempty : text ≠ []
  start : text.head? ≠ some '#' ∧ text.head? ≠ some '!'
  solid : text.getLast?.any Text.isBlank = false

theorem stripRight_eq_self {text : List Char}
    (solid : text.getLast?.any Text.isBlank = false) : Text.stripRight text = text := by
  rcases List.eq_nil_or_concat' text with rfl | ⟨initial, last, rfl⟩
  · rfl
  · have last_solid : Text.isBlank last = false := by simpa using solid
    simp [Text.stripRight, last_solid]

/-- A pattern without marks is read by the expression of its parts. -/
theorem Unmarked.read_eq {pattern : String} {text : List Char} (spelled : pattern.toList = text)
    (unmarked : Unmarked text) {first : List Char} {others : List (List Char)}
    (normal : normalize (Text.splitOn '/' text) = first :: others) {regex : Regex}
    (built : ∀ isDirectory, expression isDirectory (first :: others) = .ok regex) :
    read pattern = .ok (some ⟨true, regex⟩) := by
  have whole : trimmed pattern.toList = text := by
    rw [trimmed, spelled]
    split
    · rfl
    · exact stripRight_eq_self unmarked.solid
  have spoken : ¬ (text.isEmpty || text.head? == some '#') = true := by
    simpa using ⟨unmarked.nonempty, unmarked.start.1⟩
  obtain ⟨c, rest, rfl⟩ := List.exists_cons_of_ne_nil unmarked.nonempty
  have ordinary : c ≠ '!' := by simpa using unmarked.start.2
  rw [read]
  simp only [whole, if_neg spoken]
  simp [ordinary, normal, built]

theorem solid_of_append {front rear : List Char} (nonempty : rear ≠ [])
    (solid : rear.getLast?.any Text.isBlank = false) :
    (front ++ rear).getLast?.any Text.isBlank = false := by
  rwa [List.getLast?_append_of_ne_nil _ nonempty]

theorem SpelledFloating.exists_read {pattern : String} (spelled : SpelledFloating pattern) :
    ∃ glob, read pattern = .ok (some glob) ∧ Floating glob := by
  have depthless : '/' ∉ anyDepth := by decide
  cases spelled with
  | @whole name isName spelled =>
      have unmarked : Unmarked (anyDepth ++ '/' :: name) := by
        obtain ⟨c, rest, rfl⟩ := isName.exists_cons
        refine ⟨by simp, by simp [anyDepth], ?_⟩
        rw [← List.singleton_append, ← List.append_assoc]
        exact solid_of_append (by simp) isName.solid
      refine ⟨_, unmarked.read_eq spelled ?_ isName.expression_whole, isName.floating .whole⟩
      rw [splitOn_append depthless, splitOn_of_notMem isName.slashless]
      exact isName.normalize_single.2
  | @below name isName spelled =>
      have unmarked : Unmarked (anyDepth ++ '/' :: (name ++ '/' :: anyDepth)) := by
        refine ⟨by simp, by simp [anyDepth], ?_⟩
        rw [← List.cons_append, ← List.append_assoc]
        exact solid_of_append (by simp) (by decide)
      refine ⟨_, unmarked.read_eq spelled ?_ isName.expression_below, isName.floating .below⟩
      rw [splitOn_append depthless, splitOn_append isName.slashless, splitOn_of_notMem depthless]
      exact isName.normalize_open.2
  | bare isName start spelled =>
      obtain ⟨c, rest, rfl⟩ := isName.exists_cons
      have unmarked : Unmarked (c :: rest) := ⟨by simp, start, isName.solid⟩
      refine ⟨_, unmarked.read_eq spelled ?_ isName.expression_whole, isName.floating .whole⟩
      rw [splitOn_of_notMem isName.slashless]
      exact isName.normalize_single.1
  | folder isName start spelled =>
      obtain ⟨c, rest, rfl⟩ := isName.exists_cons
      have unmarked : Unmarked (c :: rest ++ ['/']) :=
        ⟨by simp, by simpa using start, solid_of_append (by simp) (by decide)⟩
      refine ⟨_, unmarked.read_eq spelled ?_ isName.expression_below, isName.floating .below⟩
      rw [splitOn_append isName.slashless]
      exact isName.normalize_open.1

/-- Patterns that spell names are all read as floating ones. -/
theorem floating_of_readAll {patterns : List String}
    (spelled : ∀ pattern ∈ patterns, SpelledFloating pattern) {globs : List Glob}
    (read_eq : readAll patterns = .ok globs) : ∀ glob ∈ globs, Floating glob := by
  have all : ∃ found, patterns.mapM read = .ok found ∧
      ∀ glob ∈ found.filterMap id, Floating glob := by
    clear read_eq
    induction patterns with
    | nil => exact ⟨[], rfl, by simp⟩
    | cons pattern patterns ih =>
        rw [List.forall_mem_cons] at spelled
        obtain ⟨glob, read_eq, floating⟩ := spelled.1.exists_read
        obtain ⟨found, more, others⟩ := ih spelled.2
        refine ⟨some glob :: found, ?_, ?_⟩
        · rw [List.mapM_cons, read_eq, more]
          rfl
        · simpa [floating] using others
  obtain ⟨found, ran, floating⟩ := all
  rw [readAll, ran] at read_eq
  obtain rfl := Except.ok.inj read_eq
  exact floating

end Exclude
end Hazard
