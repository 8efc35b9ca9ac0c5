import Hazard.Proofs.Number.Literal

/-!
# Loading what was written

A value is written unless an integer of it has too many digits, and what is written is loaded again,
as deep as it is nested: the reader stops at the same integers as the writer.
-/

namespace Hazard.Json

/-! ## Writing -/

/-- The scalar is no integer with too many digits. -/
def CanShow (value : Scalar) : Prop := scalarFits value = true

theorem canShow_int_iff {n : Int} : CanShow (.int n) ↔ ¬ Numeral.IsOverlong n := by
  rw [CanShow, scalarFits, ← Numeral.showInt?_eq_none_iff, Option.isSome_iff_ne_none]

theorem itemsFit_iff {items : List Value} : itemsFit items ↔ ∀ item ∈ items, fits item := by
  induction items with
  | nil => simp [itemsFit]
  | cons item items ih => rw [itemsFit, Bool.and_eq_true, ih, List.forall_mem_cons]

theorem entriesFit_iff {entries : List (String × Value)} :
    entriesFit (entries.map fun entry => (.str entry.1, entry.2)) ↔
      ∀ entry ∈ entries, fits entry.2 := by
  induction entries with
  | nil => simp [entriesFit]
  | cons entry entries ih =>
      have key : scalarFits (.str entry.1) = true := rfl
      rw [List.map_cons, entriesFit, key, Bool.true_and, Bool.and_eq_true, ih,
        List.forall_mem_cons]

/-- A value is written if and only if all its integers can be shown. -/
theorem fits_iff {condition : Scalar → Prop} {value : Value} (regular : value.Regular condition) :
    fits value ↔ value.Regular CanShow := by
  induction regular with
  | scalar => rw [fits, Value.regular_scalar_iff, CanShow]
  | list _ each =>
      rw [fits, itemsFit_iff, Value.regular_list_iff]
      exact forall₂_congr each
  | record distinct _ each =>
      rw [Value.regular_record_iff, and_iff_right distinct, Value.record, fits, entriesFit_iff]
      exact forall₂_congr each

/-! ## Loading -/

theorem overlongDigits?_eq_none_iff {value : Scalar} :
    overlongDigits? (.scalar value) = none ↔ CanShow value := by
  cases value with
  | int n =>
      rw [canShow_int_iff, Numeral.isOverlong_iff, Nat.not_le, overlongDigits?]
      split <;> simp_all
  | _ => exact ⟨fun _ => rfl, fun _ => rfl⟩

/-- What stops a reading that has come so far among tokens. -/
def obstacleAmong (room : Option Nat) : Reading → List Token → Option LoadError
  | _, [] => none
  | reading, token :: tokens =>
    (reading.advance token).bind fun further =>
      match overlongDigits? token with
      | some digits => some (.overlong digits)
      | none => if further.exceeds room then some .tooDeep else obstacleAmong room further tokens

/-- A text stops a reading where its tokens do. -/
theorem Scans.obstacleWithin_eq {text rest : List Char} {tokens : List Token}
    (scans : Scans text tokens rest) (blank : ∀ c ∈ rest, isSpace c) {steps : Nat}
    (enough : text.length ≤ steps) (room : Option Nat) (reading : Reading) :
    obstacleWithin room steps reading text = obstacleAmong room reading tokens := by
  induction scans generalizing steps reading with
  | nil text =>
      have none_left : text.dropWhile isSpace = [] := List.dropWhile_eq_nil_iff.mpr blank
      cases steps with
      | zero => rfl
      | succ steps =>
          rw [obstacleWithin, none_left]
          rfl
  | @cons spaces piece after _ token tokens spaces_blank spells _ ih =>
      have dropped := spells.dropWhile_append spaces_blank
      obtain ⟨c, more, piece_eq, no_space⟩ := spells.solid
      simp only [List.length_append, piece_eq, List.length_cons] at enough
      cases steps with
      | zero => omega
      | succ steps =>
          rw [obstacleWithin, dropped, spells.taken, obstacleAmong]
          refine congrArg (Option.bind (reading.advance token)) (funext fun further => ?_)
          cases overlongDigits? token with
          | some digits => rfl
          | none =>
              have later := ih blank (by omega : after.length ≤ steps) further
              exact congrArg (fun rest => if further.exceeds room then some .tooDeep else rest) later

/-- Where nesting is not bounded, only a long integer stops a reading. -/
theorem obstacleAmong_eq_none {tokens : List Token}
    (short : ∀ token ∈ tokens, overlongDigits? token = none) (reading : Reading) :
    obstacleAmong none reading tokens = none := by
  induction tokens generalizing reading with
  | nil => rfl
  | cons token tokens ih =>
      rw [List.forall_mem_cons] at short
      rw [obstacleAmong]
      cases reading.advance token with
      | none => rfl
      | some further =>
          simp only [Option.bind_some, short.1]
          exact ih short.2 further

variable {style : Style} {value : Value} {after : List Char}

/-- The text of a value stops a reading where the tokens of the value do. -/
theorem load_valueText_of_obstacle (narrow : style.decimals.greatestPoint < Numeral.digitLimit)
    (regular : value.Regular HasForm) (blank : ∀ c ∈ after, isSpace c) {room : Option Nat}
    {fault : LoadError} (stopped : obstacleAmong room .start (tokensOf value) = some fault) :
    load (valueText style 0 value ++ after) room = .error fault := by
  have scans := scanned_of_regular narrow regular 0 after (breaks_of_blank blank)
  rw [load, obstacle?, scans.obstacleWithin_eq blank (le_refl _), stopped]

/-- A value whose integers can be shown is loaded from its text. -/
theorem load_valueText (narrow : style.decimals.greatestPoint < Numeral.digitLimit)
    (regular : value.Regular HasForm) (shown : value.Regular CanShow)
    (blank : ∀ c ∈ after, isSpace c) : load (valueText style 0 value ++ after) = .ok value := by
  have scans := scanned_of_regular narrow regular 0 after (breaks_of_blank blank)
  have cut : tokens? (valueText style 0 value ++ after) = some (tokensOf value) :=
    scans.tokensWithin_eq blank (le_refl _)
  have short : ∀ token ∈ tokensOf value, overlongDigits? token = none := by
    rw [forall_mem_tokensOf (by decide) (fun _ => rfl) regular]
    simpa only [overlongDigits?_eq_none_iff] using shown
  have whole : ∀ token ∈ tokensOf value, token.mended = id token := by
    rw [forall_mem_tokensOf (by decide) (fun _ => rfl) regular]
    exact regular.mono fun _ _ => rfl
  have unstopped : obstacle? none (valueText style 0 value ++ after) = none :=
    (scans.obstacleWithin_eq blank (le_refl _) none .start).trans (obstacleAmong_eq_none short .start)
  rw [load, unstopped, cut]
  simp only [Option.bind_some, List.map_congr_left whole, List.map_id,
    wholeValue?_tokensOf regular]

end Hazard.Json
