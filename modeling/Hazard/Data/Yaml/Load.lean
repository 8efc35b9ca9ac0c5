import Hazard.Data.Yaml.Node
import Hazard.Data.Yaml.Scalar

/-!
Values of YAML texts. A merge key brings the entries of other mappings in front of the entries that
a mapping has itself, so that its own ones win. Values are built in rounds: a sequence or a mapping
that comes up in a round is filled in the next one. So the fault that is told is one of those that come
up first, and not the first one in the text.
-/

namespace Hazard.Yaml

/-- A value, or what keeps it from being built and how many rounds later that comes up. -/
abbrev Built (α : Type) := Except (Nat × ReadError) α

namespace Built

/-- What is built, or a fault that comes up at once. -/
def atOnce {α : Type} (read : Except ReadError α) : Built α := read.mapError fun fault => (0, fault)

/-- A text with such a part is malformed, which comes up at once. -/
def malformed {α : Type} : Built α := .error (0, .malformed)

/-- What is built one round later. -/
def later {α : Type} (built : Built α) : Built α :=
  built.mapError fun fault => (fault.1 + 1, fault.2)

/-- Two values that are built in the same rounds; of two faults in one round the first counts. -/
def both {α β γ : Type} (f : α → β → γ) : Built α → Built β → Built γ
  | .ok a, .ok b => .ok (f a b)
  | .ok _, .error fault => .error fault
  | .error fault, .ok _ => .error fault
  | .error first, .error second => .error (if second.1 < first.1 then second else first)

end Built

/-- The entries of a mapping. -/
structure MergedEntries where
  /-- A merge is one with something other than mappings. -/
  refused : Bool
  /-- The entries that merges bring. -/
  brought : Built (List (Scalar × Value))
  /-- The entries that the mapping has itself. -/
  own : Built (List (Scalar × Value))

/-- All entries in order; the later of two with one key counts. Merges are looked at first. -/
def MergedEntries.all (entries : MergedEntries) : Built (List (Scalar × Value)) :=
  if entries.refused then .malformed else .both (· ++ ·) entries.brought entries.own

/-- A value as the key of an entry. Lists and mappings are none, whatever they are filled with. -/
def keyOf : Built Value → Built Scalar
  | .ok (.scalar .recurring) => .malformed
  | .ok (.scalar key) => .ok key
  | .ok _ => .malformed
  | .error (0, fault) => .error (0, fault)
  | .error (_ + 1, _) => .malformed

/-- The value of a node whose tag is not for such nodes: it comes up late that it cannot be filled. -/
def misfit (tag : Tag) : Built Value :=
  if [Tag.seq, .omap, .pairs, .map, .set].contains tag then .later .malformed else .malformed

mutual

/-- The text of a scalar, or of the value that stands for a whole mapping. -/
def scalarText : Node → Option (List Char)
  | .scalar _ text => some text
  | .sequence _ _ => none
  | .mapping _ entries => defaultText entries
  | .recurring => none

/-- The text of the first value that stands for its mapping. -/
def defaultText : List (Node × Node) → Option (List Char)
  | [] => none
  | (key, value) :: rest => if key.tag == .default then scalarText value else defaultText rest

end

mutual

/-- The value of a node. -/
def valueOf : Node → Built Value
  | .scalar tag text =>
    match scalarValue tag text with
    | .error .malformed => misfit tag
    | read => .atOnce (read.map .scalar)
  | .sequence tag items =>
    match tag with
    | .seq => (valuesOf items).later.map .list
    | .omap => (pairsOf items).later.map .list
    | .pairs => (pairsOf items).later.map .list
    | _ => misfit tag
  | .mapping tag entries =>
    match tag with
    | .map => (entriesOf entries).all.later.map fun all => .map (Value.ofEntries all)
    | .set => (entriesOf entries).all.later.map fun all =>
        .list ((Value.ofEntries all).map fun entry => .scalar entry.1)
    | .seq => misfit tag
    | .omap => misfit tag
    | .pairs => misfit tag
    | _ =>
      match defaultText entries with
      | some text => .atOnce ((scalarValue tag text).map .scalar)
      | none => misfit tag
  | .recurring => .ok (.scalar .recurring)

/-- The values of nodes in order. -/
def valuesOf : List Node → Built (List Value)
  | [] => .ok []
  | node :: rest => .both List.cons (valueOf node) (valuesOf rest)

/-- Pairs of a key and a value, each written as a mapping of one entry. -/
def pairsOf : List Node → Built (List Value)
  | [] => .ok []
  | .mapping _ [(key, item)] :: rest =>
    let pair := Built.both (fun first second => .list [first, second]) (valueOf key) (valueOf item)
    .both List.cons pair (pairsOf rest)
  | _ :: _ => .malformed

/-- The entries of a mapping. -/
def entriesOf : List (Node × Node) → MergedEntries
  | [] => ⟨false, .ok [], .ok []⟩
  | (key, item) :: rest =>
    let merged := entriesOf rest
    if key.tag == .merge then
      match broughtBy item with
      | some first => { merged with brought := .both (· ++ ·) first merged.brought }
      | none => { merged with refused := true }
    else
      let name : Built Scalar := match key with
        | .scalar .default text => .ok (.str (String.ofList text))
        | other => keyOf (valueOf other)
      let entry := Built.both Prod.mk name (valueOf item)
      { merged with own := .both List.cons entry merged.own }

/-- The entries that a merge with a mapping, or with a list of mappings, brings. A mapping that is
merged with what it is part of gets nothing from it. -/
def broughtBy : Node → Option (Built (List (Scalar × Value)))
  | .mapping _ entries =>
    let merged := entriesOf entries
    if merged.refused then none else some merged.all
  | .sequence _ items => broughtByAll items
  | .scalar _ _ => none
  | .recurring => some (.ok [])

/-- The entries of several mappings; those of an earlier mapping count more and stand last. -/
def broughtByAll : List Node → Option (Built (List (Scalar × Value)))
  | [] => some (.ok [])
  | .mapping _ entries :: rest =>
    let first := entriesOf entries
    if first.refused then none
    else (broughtByAll rest).map fun later => .both (· ++ ·) later first.all
  | .recurring :: rest => broughtByAll rest
  | _ :: _ => none

end

/-- The value of a YAML text; an empty text has none. -/
def read (text : List Char) : Except ReadError Value :=
  match Node.parse text with
  | .error fault => .error fault
  | .ok none => .ok .null
  | .ok (some node) => (valueOf node).mapError (·.2)

end Hazard.Yaml
