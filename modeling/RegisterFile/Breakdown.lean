import RegisterFile.Files.Search
import RegisterFile.Text.Padding

set_option autoImplicit false

/-!
# Breakdowns

Why a run breaks off. Unlike a failure, a breakdown has no causes that explain it, and nothing is
told about the run but its wording.

## Main definitions

* `Breakdown`, `Breakdown.message` - why a run breaks off, and its wording.
-/

namespace RegisterFile

/-- Why a run breaks off. -/
inductive Breakdown where
  /-- A field would be wider than any field may be. -/
  | fieldTooWide (cause : Text.FieldTooWide)
  /-- A template computes with a number beyond all finite ones. -/
  | numberTooLarge
  /-- The files of a template directory cannot be searched for. -/
  | search (cause : Files.SearchFault)
  /-- A loop has no item left where one is looked at. -/
  | itemMissing
  deriving DecidableEq, Repr

/-- The wording of a breakdown. -/
def Breakdown.message : Breakdown → String
  | .fieldTooWide _ => "Formatting argument out of range"
  | .numberTooLarge => "called `Option::unwrap()` on a `None` value"
  | .search cause => "called `Result::unwrap()` on an `Err` value: " ++ cause.message
  | .itemMissing => "Value"

end RegisterFile
