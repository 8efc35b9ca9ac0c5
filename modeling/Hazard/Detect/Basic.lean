import Hazard.Finding.Record
import Hazard.Syntax.Function
import Hazard.Vocabulary

/-!
Detectors: what they look for, in which languages, and how they examine a file. A detector may fail;
its failure says why and carries no findings.
-/

namespace Hazard

/-- Why a detector gave no findings. All but the last two are errors, which whoever started the detector
can handle. -/
inductive Failure where
  /-- No grammar reads the file of this path. -/
  | noGrammar (path : String)
  /-- An integer has too many digits to be shown. -/
  | integerTooLong
  /-- Calls are nested deeper than there is room for. -/
  | tooDeep
  /-- A part was asked for of something that is not there. -/
  | nothingThere
  /-- An item was asked for of a list that does not have it. -/
  | noItem
  /-- A record would break a rule of records. -/
  | invalidRecord
  /-- Any other error, in words. -/
  | other (message : String)
  /-- The signal that an iteration is over; it cannot be handed from one task to another. -/
  | exhausted
  /-- A signal to leave, which no handler of errors sees. -/
  | interrupt (name : String)
deriving DecidableEq, Repr

namespace Failure

/-- The failure in words. -/
def message : Failure → String
  | .noGrammar path => "No JavaScript/TypeScript grammar for file: " ++ path
  | .integerTooLong =>
    "Exceeds the limit (4300 digits) for integer string conversion; " ++
      "use sys.set_int_max_str_digits() to increase the limit"
  | .tooDeep => "maximum recursion depth exceeded"
  | .nothingThere => "there is nothing to take a part of"
  | .noItem => "list index out of range"
  | .invalidRecord => "a record breaks a rule of records"
  | .other message => message
  | .exhausted => "the iteration is over"
  | .interrupt name => name

/-- The failure is an error, not a signal. -/
def isError : Failure → Bool
  | .exhausted | .interrupt _ => false
  | _ => true

end Failure

/-! Operations that fail where there is nothing to work on. -/

namespace Access

/-- What is taken to be there. -/
def present {α : Type} : Option α → Except Failure α
  | some a => .ok a
  | none => .error .nothingThere

/-- Something is there and passes a test. -/
def passes {α : Type} (thing : Option α) (test : α → Bool) : Except Failure Bool := do
  if thing.isNone then pure false
  else
    let thing ← present thing
    pure (test thing)

/-- The first item of a list that is taken to have one. -/
def first {α : Type} : List α → Except Failure α
  | a :: _ => .ok a
  | [] => .error .noItem

/-- The first item that a search is taken to find. -/
def firstSuch {α : Type} (holds : α → Bool) (items : List α) : Except Failure α :=
  match items.find? holds with
  | some a => .ok a
  | none => .error .exhausted

/-- What a look at each item finds, unless one of them fails. -/
def collect {α β : Type} (look : α → Except Failure (Option β)) : List α → Except Failure (List β)
  | [] => .ok []
  | a :: rest => do
    let found ← look a
    let others ← collect look rest
    pure (found.toList ++ others)

@[simp] theorem pure_eq_ok {α : Type} (a : α) : (pure a : Except Failure α) = .ok a := rfl

@[simp] theorem ok_bind {α β : Type} (a : α) (next : α → Except Failure β) :
    (.ok a >>= next) = next a := rfl

@[simp] theorem present_some {α : Type} (a : α) : present (some a) = .ok a := rfl

@[simp] theorem passes_eq_ok {α : Type} (thing : Option α) (test : α → Bool) :
    passes thing test = .ok (thing.any test) := by
  cases thing <;> rfl

@[simp] theorem first_cons {α : Type} (a : α) (items : List α) : first (a :: items) = .ok a := rfl

theorem firstSuch_eq_ok {α : Type} {holds : α → Bool} {items : List α} {a : α}
    (found : items.find? holds = some a) : firstSuch holds items = .ok a := by
  rw [firstSuch, found]

/-- Looks that do not fail find what there is. -/
theorem collect_eq_ok {α β : Type} {look : α → Except Failure (Option β)} {items : List α}
    {found : α → Option β} (looks : ∀ a ∈ items, look a = .ok (found a)) :
    collect look items = .ok (items.filterMap found) := by
  induction items with
  | nil => rfl
  | cons a rest ih =>
      obtain ⟨here, there⟩ := List.forall_mem_cons.mp looks
      rw [collect, here, ih there, List.filterMap_cons]
      cases found a <;> rfl

end Access

/-- A detector: its name, the kinds of findings it makes, the languages it knows, and its
examination of a file, given what opening the file came to. -/
structure Detector where
  id : String
  kinds : List Kind
  languages : List String
  examine : Vocabulary → Except Failure Source → Except Failure (List Record)

namespace Detector

/-- The languages of the built-in detectors. -/
def scriptLanguages : List String := ["typescript", "javascript"]

/-- Marks the drafts of one file, each with a stamp of its own. -/
def stampAll (id path : String) (stamps : Nat → Stamp) (drafts : List Draft) : List Record :=
  drafts.mapIdx fun index draft => draft.toRecord id path (stamps index)

/-- Makes the records of the drafts of one file, unless one of them would break a rule. -/
def recordAll (id path : String) (stamps : Nat → Stamp) (drafts : List Draft) :
    Except Failure (List Record) :=
  if drafts.all Draft.isRecordable then .ok (stampAll id path stamps drafts)
  else .error .invalidRecord

/-- The detector that makes records of the drafts of a check. -/
def ofCheck (id : String) (kinds : List Kind) (stamps : Nat → Stamp)
    (check : Vocabulary → Source → Except Failure (List Draft)) : Detector :=
  { id := id
    kinds := kinds
    languages := scriptLanguages
    examine := fun vocabulary opened => do
      let source ← opened
      let drafts ← check vocabulary source
      recordAll id source.path stamps drafts }

end Detector

end Hazard
