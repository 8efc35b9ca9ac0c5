import Hazard.Analysis.Result
import Hazard.Finding.Codec

/-!
Results as values of data files.
-/

namespace Hazard

/-- Reads a result; `now` is the time of what does not tell it. -/
def Result.ofValue (now : Timestamp) : Value → Checked Result
  | .map entries =>
    let build (file : String) (language : Option String) (records : List Record)
        (_ : Timestamp) (duration : Binary64) : Result :=
      ⟨file, language, records, duration⟩
    Checked.start build
      |>.both (Read.field ["file"] Read.string none entries)
      |>.both (Read.field ["language"] (Read.optional Read.string) (some none) entries)
      |>.both (Read.field ["patterns"] (Read.list (Record.ofValue now)) (some []) entries)
      |>.both (Read.field ["analyzed_at"] Timestamp.ofValue (some now) entries)
      |>.both (Read.field ["duration_ms"] Read.float (some .zero) entries)
  | _ => Checked.issue .modelType

end Hazard
