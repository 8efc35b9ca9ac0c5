import Hazard.Detect.Body
import Hazard.Detect.ErrorHandling
import Hazard.Detect.Injection
import Hazard.Detect.MagicNumber
import Hazard.Detect.Naming
import Hazard.Detect.Remark
import Hazard.Detect.Secret

/-!
The built-in detectors.
-/

namespace Hazard.Detector

/-- Looks at names, with so much room for nested calls. -/
def naming (stamps : Nat → Stamp) (room : Nat := Binding.usualRoom) : Detector :=
  ofCheck "naming" [.genericVariableName, .inconsistentNaming] stamps (Naming.check room)

/-- Looks for errors that are lost or hidden. -/
def errorHandling (stamps : Nat → Stamp) : Detector :=
  ofCheck "error_handling"
    [.emptyCatchBlock, .swallowedError, .missingErrorBoundary, .genericErrorMessage,
      .tryWithoutCatch]
    stamps ErrorHandling.check

/-- Looks for credentials, and then for text that runs. -/
def securityCheck (vocabulary : Vocabulary) (source : Source) : Except Failure (List Draft) := do
  let secrets ← Secret.look vocabulary source
  let injections ← Injection.look source
  pure (secrets ++ injections)

/-- Looks for credentials, injections and weak random numbers. -/
def security (stamps : Nat → Stamp) : Detector :=
  ofCheck "security" [.hardcodedSecret, .sqlConcatenation, .unsafeEval, .insecureRandom] stamps
    securityCheck

/-- Looks at numbers, remarks and bodies. -/
def qualityCheck (source : Source) : Except Failure (List Draft) := do
  let numbers ← MagicNumber.check source
  let remarks ← Remark.look source
  let bodies ← Body.look source
  pure (numbers ++ remarks ++ bodies)

/-- Looks for what makes code hard to keep. -/
def codeQuality (stamps : Nat → Stamp) : Detector :=
  ofCheck "code_quality"
    [.magicNumber, .todoWithoutContext, .commentedOutCode, .overlyComplexFunction,
      .placeholderImplementation]
    stamps fun _ => qualityCheck

/-- The built-in detectors, in the order in which they report. -/
def standard (stamps : Nat → Stamp) : List Detector :=
  [naming stamps, errorHandling stamps, security stamps, codeQuality stamps]

end Hazard.Detector
