import BackgroundWork.Export.Process

set_option autoImplicit false

/-!
The coordinator of the exports of one domain. It lets one export run at a time; whoever ends or
abandons the export that runs makes room for the next.
-/

namespace BackgroundWork.Export

/-- What exports of one domain share. -/
structure Coordinator where
  /-- Whether an export is running. -/
  isBusy : Bool
  /-- How callers see the export that is running or ran last. -/
  phase : Phase
  deriving DecidableEq, Repr

/-- What becomes of a wish to export. -/
inductive Entry where
  /-- Answered at once, and nothing is done. -/
  | answered (result : Except ServiceError Outcome)
  /-- An export is to be run. -/
  | entered (coordinator : Coordinator)

namespace Coordinator

/-- No export so far. -/
def new : Coordinator := ⟨false, .idle⟩

/-- Lets an export in if something is selected and no other is running. -/
def enter (coordinator : Coordinator) (selection : Selection) : Entry :=
  if selection.isEmpty then .answered (.ok .noSelection)
  else if coordinator.isBusy then .answered (.error .exportInProgress)
  else .entered { coordinator with isBusy := true }

/-- How callers see an export that ended. -/
def lastPhase : Except ServiceError Outcome → Phase
  | .ok _ => .succeeded
  | .error (.timeout ..) => .timedOut
  | .error _ => .failed

/-- The coordinator after the running export ended. -/
def finish (coordinator : Coordinator) (result : Except ServiceError Outcome) : Coordinator :=
  { coordinator with isBusy := false, phase := lastPhase result }

/-- The coordinator after the running export was abandoned on its way. Callers still see it as it
was then. -/
def abandon (coordinator : Coordinator) : Coordinator :=
  { coordinator with isBusy := false }

/-- Tells callers how the running export stands. -/
def publish (coordinator : Coordinator) (phase : Phase) : Coordinator :=
  { coordinator with phase }

end Coordinator
end BackgroundWork.Export
