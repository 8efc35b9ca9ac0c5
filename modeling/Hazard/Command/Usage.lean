import Hazard.Text.Quoted
import Hazard.Text.Similarity
import Hazard.Text.Slice

/-!
The arguments of a command: switches, which may take a value, and everything else. A switch has long
names with two dashes and short ones with one dash and one letter; short ones may stand together. A
value follows its switch, or is joined to it.
-/

namespace Hazard.Command

/-- What is wrong with arguments. -/
inductive UsageError where
  | unknownSwitch (name : String) (similar : List String)
  | missingValue (name : String)
  | unexpectedValue (name : String)
  | invalidValue (names : List String) (reason : String)
  | unknownCommand (name : String) (similar : List String)
  | missingCommand
  | extraArguments (arguments : List String)
deriving DecidableEq, Repr

namespace UsageError

/-- Words that may have been meant. -/
def suggestion : List String → String
  | [] => ""
  | [word] => " Did you mean " ++ Text.quotedString word ++ "?"
  | words =>
    let sorted := words.mergeSort fun a b => a ≤ b
    " (Possible options: " ++ ", ".intercalate (sorted.map Text.quotedString) ++ ")"

/-- The error in words. -/
def message : UsageError → String
  | .unknownSwitch name similar =>
    "No such option " ++ Text.quotedString name ++ "." ++ suggestion similar
  | .missingValue name => "Option " ++ Text.quotedString name ++ " requires an argument."
  | .unexpectedValue name => "Option " ++ Text.quotedString name ++ " does not take a value."
  | .invalidValue names reason =>
    "Invalid value for " ++ " / ".intercalate (names.map fun name => "'" ++ name ++ "'") ++ ": " ++
      reason
  | .unknownCommand name similar =>
    "No such command " ++ Text.quotedString name ++ "." ++ suggestion similar
  | .missingCommand => "Missing command."
  | .extraArguments arguments =>
    let noun := if arguments.length == 1 then "argument" else "arguments"
    "Got unexpected extra " ++ noun ++ " (" ++ " ".intercalate arguments ++ ")"

/-- The error is told together with how the command is used. -/
def showsUsage : UsageError → Bool
  | .missingValue _ => false
  | .unexpectedValue _ => false
  | _ => true

/-- What is told about an error: `path` are the words that call the command, and `form` is what goes
after them. -/
def report (path form : String) (error : UsageError) : String :=
  let usage :=
    if error.showsUsage then
      "Usage: " ++ path ++ " " ++ form ++ "\nTry '" ++ path ++ " --help' for help.\n\n"
    else ""
  usage ++ "Error: " ++ error.message ++ "\n"

end UsageError

/-- A switch, and what it means. -/
structure Switch (α : Type) where
  meaning : α
  names : List String
  takesValue : Bool
deriving DecidableEq, Repr

/-- A name of one dash and one letter. -/
def isShort (name : String) : Bool := name.length == 2

/-- The long names of switches. -/
def longNames {α : Type} (switches : List (Switch α)) : List String :=
  switches.flatMap fun switch => switch.names.filter fun name => !isShort name

/-- The switch of a name. -/
def switchNamed? {α : Type} (switches : List (Switch α)) (name : String) : Option (Switch α) :=
  switches.find? fun switch => switch.names.contains name

/-- Switches in the order of their use, with their values, and whether the last of them took the next
argument as its value. -/
structure Uses (α : Type) where
  uses : List (α × Option String)
  tookNext : Bool
deriving Repr

/-- The use of a switch that takes a value: the one joined to it, or the next argument. -/
def useWithValue {α : Type} (switch : Switch α) (name : String) (joined next : Option String) :
    Except UsageError (Uses α) :=
  match joined, next with
  | some value, _ => .ok ⟨[(switch.meaning, some value)], false⟩
  | none, some value => .ok ⟨[(switch.meaning, some value)], true⟩
  | none, none => .error (.missingValue name)

/-- Short switches that stand together, after their dash; what follows one that takes a value is its
value. -/
def shortUses {α : Type} (switches : List (Switch α)) (next : Option String) :
    List Char → Except UsageError (Uses α)
  | [] => .ok ⟨[], false⟩
  | c :: rest =>
    let name := String.ofList ['-', c]
    match switchNamed? switches name with
    | none => .error (.unknownSwitch name [])
    | some switch =>
      if switch.takesValue then
        useWithValue switch name (if rest.isEmpty then none else some (String.ofList rest)) next
      else do
        let others ← shortUses switches next rest
        pure { others with uses := (switch.meaning, none) :: others.uses }

/-- A long name, and the value that is joined to it by an equals sign. -/
def splitValue (text : String) : String × Option String :=
  match Text.cutAt? ['='] text.toList with
  | some (name, value) => (String.ofList name, some (String.ofList value))
  | none => (text, none)

/-- The switches of one argument. -/
def usesOf {α : Type} (switches : List (Switch α)) (text : String) (next : Option String) :
    Except UsageError (Uses α) :=
  let (name, joined) := splitValue text
  match if isShort name then none else switchNamed? switches name with
  | some switch =>
    if switch.takesValue then useWithValue switch name joined next
    else if joined.isSome then .error (.unexpectedValue name)
    else .ok ⟨[(switch.meaning, none)], false⟩
  | none =>
    if text.toList.take 2 == ['-', '-'] then
      .error (.unknownSwitch name (Text.closeWords (longNames switches) name))
    else shortUses switches next (text.toList.drop 1)

/-- Arguments that are read: the switches in order, and all else. -/
structure Arguments (α : Type) where
  uses : List (α × Option String)
  others : List String
deriving Repr

/-- The argument is a switch. -/
def isSwitch (text : String) : Bool := text.toList.head? == some '-' && 1 < text.length

/-- Reads arguments, the first of which may be taken already. -/
def readFrom {α : Type} (switches : List (Switch α)) (mixed taken : Bool) :
    List String → Except UsageError (Arguments α)
  | [] => .ok ⟨[], []⟩
  | text :: rest =>
    if taken then readFrom switches mixed false rest
    else if text == "--" then .ok ⟨[], rest⟩
    else if isSwitch text then do
      let found ← usesOf switches text rest.head?
      let more ← readFrom switches mixed found.tookNext rest
      pure { more with uses := found.uses ++ more.uses }
    else if mixed then do
      let more ← readFrom switches mixed false rest
      pure { more with others := text :: more.others }
    else .ok ⟨[], text :: rest⟩

/-- Reads arguments. Two dashes end the switches, and so does the first other argument unless
switches may be `mixed` with others. -/
def readArguments {α : Type} (switches : List (Switch α)) (mixed : Bool)
    (arguments : List String) : Except UsageError (Arguments α) :=
  readFrom switches mixed false arguments

/-- Every switch that is used, in the order of the first uses, with its last value. -/
def settled {α : Type} [BEq α] (uses : List (α × Option String)) : List (α × Option String) :=
  uses.foldl (fun known (meaning, value) =>
    if known.any fun entry => entry.1 == meaning then
      known.map fun entry => if entry.1 == meaning then (meaning, value) else entry
    else known ++ [(meaning, value)]) []

/-- The complaint about a word that is none of the allowed ones. -/
def notAmong (words : List String) (word : String) : String :=
  Text.quotedString word ++ " is not one of " ++ ", ".intercalate (words.map Text.quotedString) ++
    "."

end Hazard.Command
