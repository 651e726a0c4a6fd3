import BackgroundWork.Json.Value
import BackgroundWork.Uuid

set_option autoImplicit false

/-!
How an export can end well, and how callers see an export on its way.
-/

namespace BackgroundWork.Export

open Json (Value)

/-- How an export ended. -/
inductive Outcome where
  /-- There was nothing to export. -/
  | noSelection
  | exported (job : Uuid) (path : String) (totalEntities : Int64)
  /-- The job completed without having written anything. -/
  | noRecordsExported (job : Uuid) (path : String)
  deriving DecidableEq

namespace Outcome

/-- Whether records were exported. -/
def isSuccess : Outcome → Bool
  | exported .. => true
  | noSelection | noRecordsExported .. => false

/-- The wording of an outcome. -/
def message : Outcome → String
  | noSelection => "Nothing selected"
  | exported _ _ total => s!"Exported {String.ofList (Numeric.intText total.toInt)} records"
  | noRecordsExported .. => "No records exported"

/-- An outcome as data. -/
def toJson : Outcome → Value
  | noSelection => .string "NoSelection"
  | exported job path total =>
    .object [("Exported", .object
      [("job_id", .string job.text), ("path", .string path),
        ("total_entities", .number (.integer total.toInt))])]
  | noRecordsExported job path =>
    .object [("NoRecordsExported", .object
      [("job_id", .string job.text), ("path", .string path)])]

end Outcome

/-- How callers see an export. -/
inductive Phase where
  | idle
  | submitting
  /-- Before the status check of the given number. -/
  | polling (attempt : UInt32)
  | succeeded
  | failed
  | timedOut
  deriving DecidableEq, Repr

/-- A phase as data. -/
def Phase.toJson : Phase → Value
  | idle => .string "Idle"
  | submitting => .string "Submitting"
  | polling attempt =>
    .object [("Polling", .object [("attempt", .number (.integer attempt.toNat))])]
  | succeeded => .string "Succeeded"
  | failed => .string "Failed"
  | timedOut => .string "TimedOut"

end BackgroundWork.Export
