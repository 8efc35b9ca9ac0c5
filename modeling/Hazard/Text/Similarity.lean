/-!
How much two texts have in common, to suggest a known word for an unknown one. The longest common
stretch counts, and so do the longest ones on either side of it.
-/

namespace Hazard.Text

/-- The length of the longest common start of two texts. -/
def commonStart : List Char → List Char → Nat
  | a :: s, b :: t => if a == b then commonStart s t + 1 else 0
  | _, _ => 0

/-- A stretch that two texts share. -/
structure SharedStretch where
  first : Nat
  second : Nat
  length : Nat
deriving DecidableEq, Repr

/-- The longest stretch that two texts share; of equally long ones the first in the first text, then
the first in the second text. -/
def longestShared (s t : List Char) : SharedStretch :=
  let places := (List.range s.length).flatMap fun i => (List.range t.length).map fun j => (i, j)
  places.foldl (fun best (i, j) =>
    let length := commonStart (s.drop i) (t.drop j)
    if best.length < length then ⟨i, j, length⟩ else best) ⟨0, 0, 0⟩

/-- How many characters two texts have in common; the first number bounds the steps. -/
def sharedWithin : Nat → List Char → List Char → Nat
  | 0, _, _ => 0
  | steps + 1, s, t =>
    let found := longestShared s t
    if found.length == 0 then 0
    else
      sharedWithin steps (s.take found.first) (t.take found.second) + found.length +
        sharedWithin steps (s.drop (found.first + found.length))
          (t.drop (found.second + found.length))

/-- How many characters two texts have in common. -/
def sharedLength (s t : List Char) : Nat := sharedWithin (s.length + 1) s t

/-- The words that share at least three fifths of their characters with a text, at most three. The
closest come first. -/
def closeWords (words : List String) (text : String) : List String :=
  let scored := words.filterMap fun word =>
    let shared := sharedLength word.toList text.toList
    let total := word.length + text.length
    if 3 * total ≤ 10 * shared then some (word, shared, total) else none
  let sorted := scored.mergeSort fun (w, a, m) (v, b, n) =>
    b * m < a * n || (b * m == a * n && v ≤ w)
  (sorted.take 3).map (·.1)

end Hazard.Text
