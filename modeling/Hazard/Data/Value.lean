import Hazard.Number.Binary64

/-!
Values of data files: scalars, lists and mappings. A mapping keeps its entries in the order in which
their keys were first written, and a later value of a key replaces the earlier one.
-/

namespace Hazard

/-- Values without parts. Dates are kept as they were written. -/
inductive Scalar where
  | null
  | bool (value : Bool)
  | int (value : Int)
  | float (value : Binary64)
  | str (value : String)
  | bytes (value : List UInt8)
  | date (text : String)
  | instant (text : String)
  /-- A list or a mapping, where it recurs inside itself. -/
  | recurring
deriving DecidableEq, Repr

namespace Scalar

/-- The integer that a key counts as: truth values count as one and zero, and so do whole decimals. -/
def asInt? : Scalar → Option Int
  | .bool value => some (if value then 1 else 0)
  | .int value => some value
  | .float value => value.toInt?
  | _ => none

/-- Two scalars name one entry of a mapping. -/
def sameKey (a b : Scalar) : Bool :=
  a == b || match a.asInt?, b.asInt? with
    | some m, some n => m == n
    | _, _ => false

end Scalar

/-- Values of data files. -/
inductive Value where
  | scalar (value : Scalar)
  | list (items : List Value)
  | map (entries : List (Scalar × Value))
deriving Repr

namespace Value

/-- No value. -/
@[match_pattern] abbrev null : Value := .scalar .null

/-- A truth value. -/
@[match_pattern] abbrev bool (value : Bool) : Value := .scalar (.bool value)

/-- An integer. -/
@[match_pattern] abbrev int (value : Int) : Value := .scalar (.int value)

/-- A decimal of 64 bits. -/
@[match_pattern] abbrev float (value : Binary64) : Value := .scalar (.float value)

/-- A text. -/
@[match_pattern] abbrev str (value : String) : Value := .scalar (.str value)

/-- A mapping whose keys are texts. -/
def record (entries : List (String × Value)) : Value :=
  .map (entries.map fun (key, value) => (.str key, value))

/-- A value, or none at all. -/
def ofOption {α : Type} (toValue : α → Value) : Option α → Value
  | some a => toValue a
  | none => null

/-- Sets a key of a mapping; a new key goes to the end. -/
def put (key : Scalar) (value : Value) : List (Scalar × Value) → List (Scalar × Value)
  | [] => [(key, value)]
  | (known, old) :: rest =>
    if known.sameKey key then (known, value) :: rest else (known, old) :: put key value rest

/-- The mapping of entries in order; of equal keys the last value counts. -/
def ofEntries (entries : List (Scalar × Value)) : List (Scalar × Value) :=
  entries.foldl (fun known entry => put entry.1 entry.2 known) []

/-- The value of a key. -/
def find? (key : Scalar) (entries : List (Scalar × Value)) : Option Value :=
  (entries.find? fun entry => entry.1.sameKey key).map (·.2)

/-- The value under a text in a mapping. -/
def field? (name : String) : Value → Option Value
  | .map entries => find? (.str name) entries
  | _ => none

end Value

end Hazard
