import Hazard.Proofs.Regex.Progress

/-!
# Whole words

An expression for words with a word edge on either side finds a word exactly if it stands alone, in
capitals or not: no word character comes right before it or right after it.  This needs that
whatever agrees with the first or the last letter of a word, case ignored, is itself a word
character.
-/

namespace Hazard

namespace Text

theorem eq_toNat_of_ofNat {code : Nat} {c : Char} (same : Char.ofNat code = c)
    (visible : c.toNat ≠ 0) : code = c.toNat := by
  subst same
  by_cases valid : code.isValidChar
  · rw [Char.ofNat, dif_pos valid]
    rfl
  · rw [Char.ofNat, dif_neg valid] at visible
    contradiction

/-- A character is among those that have its lower case. -/
theorem mem_lowerPreimages {c d : Char} (lowered : lowerChar d = c) (visible : c.toNat ≠ 0) :
    d ∈ lowerPreimages c := by
  have small : (List.range 128).all fun code =>
      (lowerPreimages (Char.ofNat code).toLower).contains (Char.ofNat code) := by
    decide +kernel
  by_cases ascii : d.toNat < 128
  · have listed := List.all_eq_true.mp small d.toNat (List.mem_range.mpr ascii)
    rw [lowerChar, if_pos ascii] at lowered
    rw [Char.ofNat_toNat, lowered, List.contains_iff_mem] at listed
    exact listed
  · have mapped : mapByRuns lowerRuns d = c := (if_neg ascii).symm.trans lowered
    rw [lowerPreimages, List.mem_append]
    rw [mapByRuns] at mapped
    split at mapped
    · rename_i run found
      have image := eq_toNat_of_ofNat mapped visible
      have code : ((c.toNat : Int) - run.shift).toNat = d.toNat := by
        rw [CaseRun.apply] at image
        omega
      refine .inl (List.mem_filterMap.mpr ⟨run, List.mem_of_find?_eq_some found, ?_⟩)
      have covered := List.find?_some found
      beta_reduce at covered
      simp only [code, covered, image, BEq.rfl, Bool.and_self, if_true, Char.ofNat_toNat]
    · subst mapped
      refine .inr ?_
      rw [lowered, if_pos BEq.rfl]
      exact List.mem_singleton_self d

/-- All that agrees with the letter, case ignored, are word characters. -/
def isLetter (c : Char) : Bool :=
  (lowerChar c :: siblings (lowerChar c)).all fun lowered =>
    lowered.toNat != 0 && (lowerPreimages lowered).all isWord

theorem isWord_of_agrees {c d : Char} (letter : isLetter c = true)
    (agrees : ClassItem.oneAccepts .unicode c.toNat d = true) : isWord d = true := by
  simp only [ClassItem.oneAccepts, Char.ofNat_toNat, Bool.and_eq_true, Bool.or_eq_true,
    beq_iff_eq, List.contains_iff_mem] at agrees
  have listed : lowerChar d ∈ lowerChar c :: siblings (lowerChar c) := List.mem_cons.mpr agrees.2
  have both := List.all_eq_true.mp letter _ listed
  obtain ⟨visible, words⟩ := Bool.and_eq_true_iff.mp both
  exact List.all_eq_true.mp words d (mem_lowerPreimages rfl (bne_iff_ne.mp visible))

end Text

namespace Regex

open Text

/-- The words, in capitals or not, with a word edge on either side. -/
def standing (texts : List String) : Regex :=
  concat [wordEdge, .group 1 (words .unicode texts), wordEdge]

/-- One of the words stands in the text, in capitals or not, and no word character touches it. -/
def StandsAlone (texts : List String) (text : List Char) : Prop :=
  ∃ front word rear, text = front ++ word ++ rear ∧
    (∃ wanted ∈ texts, Spells .unicode wanted.toList word) ∧
    front.getLast?.any isWord = false ∧ rear.head?.any isWord = false

/-- The words begin and end with letters. -/
def lettered (texts : List String) : Bool :=
  texts.all fun text => text.toList.head?.any isLetter && text.toList.getLast?.any isLetter

theorem fits_choice {choices : List Regex} {before text after : List Char} :
    (choice choices).Fits before text after ↔ ∃ r ∈ choices, r.Fits before text after := by
  induction choices with
  | nil => simp [choice, Fits]
  | cons r rest ih =>
      cases rest with
      | nil => simp [choice]
      | cons second rest =>
          rw [List.exists_mem_cons_iff, ← ih]
          rfl

theorem fits_words {fold : Fold} {texts : List String} {before text after : List Char} :
    (words fold texts).Fits before text after ↔
      ∃ wanted ∈ texts, Spells fold wanted.toList text := by
  rw [words, fits_choice]
  simp only [List.mem_map, exists_exists_and_eq_and, literal, chars, fits_chars]

/-! ## Edges -/

/-- A word edge has a word character on one side only. -/
theorem satisfies_edge_iff {position : Nat} {before after : List Char}
    {groups : List (Nat × Capture)} :
    Cursor.satisfies ⟨position, before, after, groups⟩ (.boundary false false) = true ↔
      before.head?.any isWord ≠ after.head?.any isWord := by
  cases before <;> cases after <;> simp [Cursor.satisfies, Category.contains]

/-- The expression fits where a word starts and ends at an edge. -/
theorem run_standing_iff {texts : List String} (plain : (words .unicode texts).isPlain = true)
    {cursor : Cursor} :
    (standing texts).run some cursor ≠ none ↔
      cursor.satisfies (.boundary false false) = true ∧
        ∃ word rear, cursor.after = word ++ rear ∧
          (words .unicode texts).Fits cursor.before word rear ∧
            (cursor.past word).satisfies (.boundary false false) = true := by
  have edge (origin c : Cursor) : (wordEdge.run some (c.capture 1 origin)).isSome =
      c.satisfies (.boundary false false) := by
    have same : (c.capture 1 origin).satisfies (.boundary false false) =
        c.satisfies (.boundary false false) := rfl
    rw [wordEdge, run, same]
    cases c.satisfies (.boundary false false) <;> rfl
  have unfolded : (standing texts).run some cursor =
      if cursor.satisfies (.boundary false false) then
        (words .unicode texts).run (fun c => wordEdge.run some (c.capture 1 cursor)) cursor
      else none := rfl
  rw [unfolded, ← Option.isSome_iff_ne_none]
  split
  · rename_i holds
    rw [(plain_of_isPlain plain).realizes, Accepts]
    simp only [edge, holds, true_and]
  · rename_i fails
    simp [fails]

theorem Spells.exists_head {wanted word : List Char} (spelled : Spells .unicode wanted word)
    (letter : wanted.head?.any isLetter = true) : ∃ d rest, word = d :: rest ∧ isWord d = true := by
  cases spelled with
  | nil => contradiction
  | cons agrees _ => exact ⟨_, _, rfl, isWord_of_agrees letter agrees⟩

/-- A word that begins and ends with letters has edges at both ends if it stands alone. -/
theorem edges_iff {texts : List String} (letters : lettered texts = true) {wanted : String}
    (listed : wanted ∈ texts) {front word rear : List Char}
    (spelled : Spells .unicode wanted.toList word) :
    (front.reverse.head?.any isWord ≠ (word ++ rear).head?.any isWord ∧
        (word.reverse ++ front.reverse).head?.any isWord ≠ rear.head?.any isWord) ↔
      front.getLast?.any isWord = false ∧ rear.head?.any isWord = false := by
  obtain ⟨initial, final⟩ := Bool.and_eq_true_iff.mp (List.all_eq_true.mp letters wanted listed)
  obtain ⟨d, rest, word_eq, isWord_d⟩ := spelled.exists_head initial
  rw [← List.head?_reverse] at final
  have reversed : Spells .unicode wanted.toList.reverse word.reverse :=
    List.forall₂_reverse_iff.mpr spelled
  obtain ⟨e, rest', reverse_eq, isWord_e⟩ := reversed.exists_head final
  rw [reverse_eq, word_eq, List.head?_reverse, List.cons_append, List.cons_append, List.head?_cons,
    List.head?_cons, Option.any_some, Option.any_some, isWord_d, isWord_e]
  cases front.getLast?.any isWord <;> cases rear.head?.any isWord <;> decide

/-- The expression finds a word exactly if it stands alone. -/
theorem occursIn_standing_iff {texts : List String} (letters : lettered texts = true)
    (plain : (words .unicode texts).isPlain = true) {text : List Char} :
    (standing texts).occursIn text = true ↔ StandsAlone texts text := by
  rw [occursIn_iff_fitsIn, FitsIn, StandsAlone]
  simp only [run_standing_iff plain, Cursor.place, Cursor.past, satisfies_edge_iff, fits_words]
  constructor
  · rintro ⟨position, within, left, word, rear, ahead, ⟨wanted, listed, spelled⟩, right⟩
    have split : text = text.take position ++ word ++ rear := by
      rw [List.append_assoc, ← ahead, List.take_append_drop]
    rw [ahead] at left right
    rw [List.drop_left] at right
    exact ⟨_, word, rear, split, ⟨wanted, listed, spelled⟩,
      (edges_iff letters listed spelled).mp ⟨left, right⟩⟩
  · rintro ⟨front, word, rear, rfl, ⟨wanted, listed, spelled⟩, alone⟩
    obtain ⟨left, right⟩ := (edges_iff letters listed spelled).mpr alone
    refine ⟨front.length, by simp, ?_⟩
    rw [List.append_assoc, List.take_left, List.drop_left]
    refine ⟨left, word, rear, rfl, ⟨wanted, listed, spelled⟩, ?_⟩
    rw [List.drop_left]
    exact right

end Regex

end Hazard
