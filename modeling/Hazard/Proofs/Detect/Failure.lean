import Hazard.Proofs.Detect.WellFormed
import Hazard.Proofs.Number.Literal

/-!
# Failing detectors

A detector that fails gives none of its findings.  The detectors of lost errors and of risks never fail,
since whatever they look at is there.  The one that looks at numbers has to show those it finds, and fails
just when one of them is an integer with too many digits.  The one that looks at names follows patterns
into patterns, and fails just when one of them is deeper than there is room for.
-/

namespace Hazard

/-! ## Traversals -/

/-- The failure of a traversal is that of an item. -/
theorem exists_of_mapM_error {α β ε : Type} {f : α → Except ε β} {items : List α} {failure : ε}
    (mapped : items.mapM f = .error failure) : ∃ item ∈ items, f item = .error failure := by
  induction items with
  | nil => contradiction
  | cons item items ih =>
      rw [List.mapM_cons] at mapped
      cases first : f item with
      | error other =>
          rw [first] at mapped
          obtain rfl := Except.error.inj mapped
          exact ⟨item, List.mem_cons_self, first⟩
      | ok head =>
          cases rest : items.mapM f with
          | error other =>
              rw [first, rest] at mapped
              obtain rfl := Except.error.inj mapped
              obtain ⟨origin, listed, origin_eq⟩ := ih rest
              exact ⟨origin, List.mem_cons_of_mem item listed, origin_eq⟩
          | ok tail =>
              rw [first, rest] at mapped
              contradiction

/-- A traversal with an item that fails does not succeed. -/
theorem mapM_ne_ok {α β ε : Type} {f : α → Except ε β} {items : List α} {item : α} {failure : ε}
    (listed : item ∈ items) (fails : f item = .error failure) (results : List β) :
    items.mapM f ≠ .ok results := by
  induction items generalizing results with
  | nil => exact absurd listed List.not_mem_nil
  | cons head items ih =>
      intro mapped
      rw [List.mapM_cons] at mapped
      cases first : f head with
      | error other =>
          rw [first] at mapped
          contradiction
      | ok result =>
          cases rest : items.mapM f with
          | error other =>
              rw [first, rest] at mapped
              contradiction
          | ok tail =>
              rcases List.mem_cons.mp listed with rfl | listed
              · rw [first] at fails
                contradiction
              · exact ih listed tail rest

/-! ## Numbers -/

namespace MagicNumber

variable {source : Source}

/-- The literal needs an explanation that would have to show an integer with too many digits. -/
def Unshowable (source : Source) (literal : Site) : Prop :=
  isExempt source literal = false ∧
    ∃ n, Numeral.ofLiteral? (source.textOf literal) = some (.whole n) ∧ 0 ≤ n ∧
      Numeral.IsOverlong n

theorem unexplained?_eq_some_iff {literal : Site} {value : Numeral} :
    unexplained? source literal = some value ↔
      Numeral.ofLiteral? (source.textOf literal) = some value ∧ value.isMagic = true ∧
        isExempt source literal = false := by
  rw [unexplained?]
  cases Numeral.ofLiteral? (source.textOf literal) with
  | none => simp
  | some other =>
      simp only [Bool.and_eq_true, Bool.not_eq_true', Option.ite_none_right_eq_some,
        Option.some.injEq]
      constructor
      · rintro ⟨magic, rfl⟩
        exact ⟨rfl, magic⟩
      · rintro ⟨rfl, magic⟩
        exact ⟨magic, rfl⟩

theorem examine_eq_error_iff {literal : Site} {failure : Failure} :
    examine source literal = .error failure ↔
      failure = .integerTooLong ∧ Unshowable source literal := by
  constructor
  · intro examined
    rw [examine] at examined
    split at examined
    · contradiction
    · rename_i value unexplained
      obtain ⟨read, magic, needed⟩ := unexplained?_eq_some_iff.mp unexplained
      split at examined
      · contradiction
      · rename_i hidden
        obtain ⟨n, rfl, overlong⟩ := (Numeral.show?_eq_none_iff read).mp hidden
        exact ⟨(Except.error.inj examined).symm, needed, n, read,
          Numeral.nonneg_of_isMagic magic, overlong⟩
  · rintro ⟨rfl, needed, n, read, nonneg, overlong⟩
    have unexplained : unexplained? source literal = some (.whole n) :=
      unexplained?_eq_some_iff.mpr ⟨read, Numeral.isMagic_of_overlong nonneg overlong, needed⟩
    have hidden := (Numeral.show?_eq_none_iff read).mpr ⟨n, rfl, overlong⟩
    simp only [examine, unexplained, hidden]

theorem check_eq_error_iff {failure : Failure} :
    check source = .error failure ↔
      failure = .integerTooLong ∧ ∃ literal ∈ source.ofKinds ["number"],
        Unshowable source literal := by
  rw [check_eq_mapM]
  cases traversed : (source.ofKinds ["number"]).mapM (examine source) with
  | ok found =>
      constructor
      · intro checked
        contradiction
      · rintro ⟨-, literal, listed, unshowable⟩
        have fails := examine_eq_error_iff.mpr ⟨rfl, unshowable⟩
        exact absurd traversed (mapM_ne_ok listed fails found)
  | error other =>
      obtain ⟨literal, listed, fails⟩ := exists_of_mapM_error traversed
      obtain ⟨rfl, unshowable⟩ := examine_eq_error_iff.mp fails
      constructor
      · intro checked
        exact ⟨(Except.error.inj checked).symm, literal, listed, unshowable⟩
      · rintro ⟨rfl, -⟩
        rfl

/-- Of literals that start as numbers do, the sign need not be looked at. -/
theorem unshowable_iff_of_startsPlain {literal : Site}
    (starts : Numeral.StartsPlain (source.textOf literal)) :
    Unshowable source literal ↔
      isExempt source literal = false ∧
        ∃ n, Numeral.ofLiteral? (source.textOf literal) = some (.whole n) ∧
          Numeral.IsOverlong n := by
  refine and_congr_right fun _ => exists_congr fun n => and_congr_right fun read => ?_
  exact and_iff_right (Numeral.nonneg_of_startsPlain starts read)

end MagicNumber

/-! ## Detectors -/

namespace Detector

variable (stamps : Nat → Stamp) (vocabulary : Vocabulary) (source : Source)

theorem naming_fails_iff (room : Nat) (failure : Failure) :
    (naming stamps room).examine vocabulary (.ok source) = .error failure ↔
      failure = .tooDeep ∧ room < Binding.callsFor source := by
  rw [naming_examine]
  exact Binding.within_eq_error_iff

theorem naming_returns_iff (room : Nat) :
    (∃ records, (naming stamps room).examine vocabulary (.ok source) = .ok records) ↔
      Binding.callsFor source ≤ room := by
  rw [naming_examine]
  simp only [Binding.within_eq_ok_iff, exists_and_left, exists_eq', and_true]

theorem codeQuality_fails_iff (failure : Failure) :
    (codeQuality stamps).examine vocabulary (.ok source) = .error failure ↔
      failure = .integerTooLong ∧ ∃ literal ∈ source.ofKinds ["number"],
        MagicNumber.Unshowable source literal := by
  rw [codeQuality_examine, ← MagicNumber.check_eq_error_iff]
  cases MagicNumber.check source <;> simp [Except.map]

/-- Which built-in detectors fail on a source, and when.  Those of lost errors and of risks never do.
That of names fails just when a pattern takes more nested calls than there is room for, so never where the
tree is lower than the room.  That of numbers fails just when an integer that it has to show has too many
digits, and such an integer is not written in base ten. -/
theorem standard_fails_iff (stamps : Nat → Stamp) (vocabulary : Vocabulary) (source : Source)
    (room : Nat) :
    (∀ detector ∈ [errorHandling stamps, security stamps],
        ∃ records, detector.examine vocabulary (.ok source) = .ok records) ∧
      (∀ failure, (naming stamps room).examine vocabulary (.ok source) = .error failure ↔
        failure = .tooDeep ∧ room < Binding.callsFor source) ∧
      ((∃ records, (naming stamps room).examine vocabulary (.ok source) = .ok records) ↔
        Binding.callsFor source ≤ room) ∧
      (source.tree.height < room → Binding.callsFor source ≤ room) ∧
      (∀ failure, (codeQuality stamps).examine vocabulary (.ok source) = .error failure ↔
        failure = .integerTooLong ∧ ∃ literal ∈ source.ofKinds ["number"],
          MagicNumber.Unshowable source literal) ∧
      ((∀ literal ∈ source.ofKinds ["number"], ¬ MagicNumber.Unshowable source literal) →
        ∃ records, (codeQuality stamps).examine vocabulary (.ok source) = .ok records) ∧
      (∀ literal ∈ source.ofKinds ["number"], Numeral.StartsPlain (source.textOf literal) →
        (MagicNumber.Unshowable source literal ↔
          MagicNumber.isExempt source literal = false ∧
            ∃ n, Numeral.ofLiteral? (source.textOf literal) = some (.whole n) ∧
              Numeral.IsOverlong n)) ∧
      ∀ text n, Numeral.ofLiteral? text = some (.whole n) → Numeral.IsOverlong n →
        ∃ mark ∈ Numeral.baseMarks, ∃ digits,
          (Numeral.takeSign (Numeral.trim (Numeral.plainText text))).2 =
            '0' :: mark :: digits := by
  refine ⟨?_, naming_fails_iff stamps vocabulary source room,
    naming_returns_iff stamps vocabulary source room, fun low =>
    (Binding.callsFor_le_height source).trans low, codeQuality_fails_iff stamps vocabulary source,
    fun shown => ?_, fun _ _ starts => MagicNumber.unshowable_iff_of_startsPlain starts,
    fun text n read overlong =>
    Numeral.exists_mark_of_integer? (Numeral.ofLiteral?_eq_whole_iff.mp read) overlong⟩
  · intro detector quiet
    simp only [List.mem_cons, List.not_mem_nil, or_false] at quiet
    rcases quiet with rfl | rfl
    · exact ⟨_, errorHandling_examine stamps vocabulary source⟩
    · exact ⟨_, security_examine stamps vocabulary source⟩
  · cases examined : (codeQuality stamps).examine vocabulary (.ok source) with
    | ok records => exact ⟨records, rfl⟩
    | error failure =>
        obtain ⟨-, literal, listed, unshowable⟩ :=
          (codeQuality_fails_iff stamps vocabulary source failure).mp examined
        exact absurd unshowable (shown literal listed)

/-- The detector of names fails on a name inside eleven hundred array patterns. -/
theorem naming_fails_nestedDeclaration :
    (naming fixedStamps).examine oneName (.ok (Binding.nestedDeclaration 1100)) =
      .error .tooDeep := by
  refine (naming_fails_iff fixedStamps oneName _ Binding.usualRoom .tooDeep).mpr ⟨rfl, ?_⟩
  exact Nat.lt_of_lt_of_le (by decide) (Binding.le_callsFor_nestedDeclaration 1100)

/-- A source that is one hexadecimal number of 3600 digits. -/
def hugeNumber : Source where
  path := "src/a.js"
  grammar := .javascript
  text := '0' :: 'x' :: List.replicate 3600 'f'
  tree :=
    .node ⟨0, "program", "", true, ⟨0, 3602⟩⟩
      [.node ⟨1, "expression_statement", "", true, ⟨0, 3602⟩⟩
        [.node ⟨2, "number", "", true, ⟨0, 3602⟩⟩ []]]

/-- The detector of numbers fails on the huge number, which starts as numbers do. -/
theorem codeQuality_fails_hugeNumber :
    (codeQuality fixedStamps).examine oneName (.ok hugeNumber) = .error .integerTooLong ∧
      ∃ literal ∈ hugeNumber.ofKinds ["number"],
        Numeral.StartsPlain (hugeNumber.textOf literal) ∧
          MagicNumber.isExempt hugeNumber literal = false ∧
          ∃ n, Numeral.ofLiteral? (hugeNumber.textOf literal) = some (.whole n) ∧
            Numeral.IsOverlong n := by
  obtain ⟨-, -, -, -, fails_iff, -, unshowable_iff, -⟩ :=
    standard_fails_iff fixedStamps oneName hugeNumber Binding.usualRoom
  set literal : Site :=
    ⟨.node ⟨2, "number", "", true, ⟨0, 3602⟩⟩ [], [hugeNumber.tree.children.headD hugeNumber.tree,
      hugeNumber.tree]⟩
  have numbers : hugeNumber.ofKinds ["number"] = [literal] := rfl
  have listed : literal ∈ hugeNumber.ofKinds ["number"] := numbers ▸ List.mem_singleton_self literal
  have text_eq : hugeNumber.textOf literal = '0' :: 'x' :: List.replicate 3600 'f' := by
    decide +kernel
  have starts : Numeral.StartsPlain (hugeNumber.textOf literal) := by
    rw [text_eq]
    rintro c ⟨rfl⟩
    exact .inl (by decide)
  have needed : MagicNumber.isExempt hugeNumber literal = false := by decide +kernel
  have read : Numeral.ofLiteral? (hugeNumber.textOf literal) =
      some (.whole (Nat.pow 16 3600 - 1 : Nat)) := by
    decide +kernel
  have overlong : Numeral.IsOverlong (Nat.pow 16 3600 - 1 : Nat) := by
    rw [Numeral.isOverlong_iff]
    decide +kernel
  have shown : ∃ n, Numeral.ofLiteral? (hugeNumber.textOf literal) = some (.whole n) ∧
      Numeral.IsOverlong n := ⟨_, read, overlong⟩
  have unshowable := (unshowable_iff literal listed starts).mpr ⟨needed, shown⟩
  exact ⟨(fails_iff _).mpr ⟨rfl, literal, listed, unshowable⟩, literal, listed, starts, needed, shown⟩

end Detector
end Hazard
