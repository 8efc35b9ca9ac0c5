import Hazard.Regex.Match
import Hazard.Regex.Parser

/-!
The words and patterns that detectors look for: the built-in ones, always, and those that the
configuration adds.
-/

namespace Hazard

/-- What a configuration adds to the built-in vocabulary. -/
structure Extensions where
  genericNames : List String := []
  loopNames : List String := []
  coordinateNames : List String := []
  errorMessages : List String := []
  secretPatterns : List String := []
deriving DecidableEq, Repr

/-- A pattern of secrets, as it is written and as it is matched. -/
structure SecretPattern where
  text : String
  regex : Regex
deriving DecidableEq, Repr

namespace SecretPattern

open Regex

/-- A name, a colon or an equals sign, and a value in quotes. -/
def assigned (names : Regex) : Regex :=
  concat
    [names, many blank, oneOf .unicode (members ":="), many blank, oneOf .unicode (members "'\""),
      many1 (noneOf .unicode (members "'\"")), oneOf .unicode (members "'\"")]

/-- A part of a bearer token. -/
def tokenPart : Regex :=
  many1 (oneOf .exact [span 'A' 'Z', span 'a' 'z', span '0' '9', .one 45, .one 95])

/-- The built-in patterns. -/
def builtin : List SecretPattern :=
  [⟨"(?:api[_-]?key|apikey)\\s*[:=]\\s*['\"][^'\"]+['\"]",
      assigned (choice [concat (chars .unicode "api" ++
        [perhaps (oneOf .unicode (members "_-"))] ++ chars .unicode "key"),
        literal .unicode "apikey"])⟩,
    ⟨"(?:secret|password|passwd|pwd)\\s*[:=]\\s*['\"][^'\"]+['\"]",
      assigned (words .unicode ["secret", "password", "passwd", "pwd"])⟩,
    ⟨"(?:token|auth)\\s*[:=]\\s*['\"][^'\"]+['\"]", assigned (words .unicode ["token", "auth"])⟩,
    ⟨"(?:private[_-]?key)\\s*[:=]\\s*['\"][^'\"]+['\"]",
      assigned (concat (chars .unicode "private" ++
        [perhaps (oneOf .unicode (members "_-"))] ++ chars .unicode "key"))⟩,
    ⟨"Bearer\\s+[A-Za-z0-9\\-_]+\\.[A-Za-z0-9\\-_]+\\.[A-Za-z0-9\\-_]+",
      concat (chars .exact "Bearer" ++
        [many1 blank, tokenPart, char .exact '.', tokenPart, char .exact '.', tokenPart])⟩,
    ⟨"-----BEGIN\\s+(?:RSA\\s+)?PRIVATE\\s+KEY-----",
      concat (chars .exact "-----BEGIN" ++
        [many1 blank, perhaps (concat (chars .exact "RSA" ++ [many1 blank]))] ++
        chars .exact "PRIVATE" ++ [many1 blank] ++ chars .exact "KEY-----")⟩]

end SecretPattern

/-- A way to read patterns. -/
abbrev PatternReader := String → Except Regex.ParseError Regex

/-- The words and patterns of one analysis; patterns that cannot be read are kept aside. -/
structure Vocabulary where
  /-- Names that say nothing, in small letters. -/
  genericNames : List (List Char)
  /-- Short names that are good in loops. -/
  loopNames : List (List Char)
  /-- Short names that are good for coordinates. -/
  coordinateNames : List (List Char)
  /-- Messages that say nothing, in small letters. -/
  errorMessages : List (List Char)
  /-- Patterns of secrets, the built-in ones first. -/
  secretPatterns : List SecretPattern
  /-- Patterns of a configuration that cannot be read. -/
  rejectedPatterns : List String
deriving DecidableEq, Repr

namespace Vocabulary

/-- Names that say nothing. -/
def builtinGenericNames : List String :=
  ["data", "result", "results", "response", "res", "resp", "value", "val", "item", "items",
    "element", "elem", "temp", "tmp", "foo", "bar", "baz", "obj", "object", "thing", "stuff", "arr",
    "array", "list", "str", "string", "num", "number", "ret", "return", "output", "out"]

/-- Names that are fine for what counts a loop. -/
def builtinLoopNames : List String := ["i", "j", "k", "n", "m"]

/-- Names that are fine for coordinates. -/
def builtinCoordinateNames : List String := ["x", "y", "z", "w"]

/-- Messages that tell nothing about an error. -/
def builtinErrorMessages : List String :=
  ["an error occurred", "something went wrong", "error", "failed", "oops", "unknown error",
    "internal error", "unexpected error"]

/-- The list without later repetitions. -/
def distinct (texts : List (List Char)) : List (List Char) :=
  texts.foldl (fun kept text => if kept.contains text then kept else kept ++ [text]) []

/-- The pattern of a text, in which case does not count. -/
def readPattern : PatternReader := Regex.parse { ignoreCase := true }

/-- Reads the patterns that a configuration adds: the readable ones, and the malformed ones aside. -/
def readPatterns (compile : PatternReader) :
    List String → Except Regex.ParseError (List SecretPattern × List String)
  | [] => .ok ([], [])
  | pattern :: rest =>
    match compile pattern with
    | .ok regex => do
      let (read, rejected) ← readPatterns compile rest
      pure (⟨pattern, regex⟩ :: read, rejected)
    | .error fault =>
      if fault.isMalformed then do
        let (read, rejected) ← readPatterns compile rest
        pure (read, pattern :: rejected)
      else .error fault

/-- The built-in vocabulary with extensions after it. Generic names and messages are compared in
lower case. -/
def extend (extensions : Extensions) (compile : PatternReader := readPattern) :
    Except Regex.ParseError Vocabulary := do
  let (patterns, rejected) ← readPatterns compile extensions.secretPatterns
  pure
    { genericNames := distinct
        ((builtinGenericNames ++ extensions.genericNames).map fun name => Text.lower name.toList)
      loopNames := distinct ((builtinLoopNames ++ extensions.loopNames).map String.toList)
      coordinateNames := distinct
        ((builtinCoordinateNames ++ extensions.coordinateNames).map String.toList)
      errorMessages := distinct
        ((builtinErrorMessages ++ extensions.errorMessages).map fun m => Text.lower m.toList)
      secretPatterns := SecretPattern.builtin ++ patterns
      rejectedPatterns := rejected }

end Vocabulary

end Hazard
