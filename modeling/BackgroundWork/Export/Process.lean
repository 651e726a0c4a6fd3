import BackgroundWork.Export.Job
import BackgroundWork.Export.Outcome
import BackgroundWork.Export.Path
import BackgroundWork.Export.Request
import BackgroundWork.Export.Selection
import BackgroundWork.Program
import BackgroundWork.ServiceError
import BackgroundWork.Settings

set_option autoImplicit false

/-!
One export from its submission to its end. The job is submitted once, and while it is not done its
status is checked after one interval each, up to a greatest number of checks. When the job
completes the selection is cleared, and the file is shown to the user if it holds records.
-/

namespace BackgroundWork.Export

namespace Surroundings

/-- What an export asks of its surroundings. -/
inductive Op where
  /-- The current second, as it is written in names of files. -/
  | stamp
  | createDirectory (path : String)
  | publish (phase : Phase)
  | sleep (milliseconds : Nat)
  | clearSelection
  /-- Shows a file to the user. -/
  | reveal (path : String)
  deriving DecidableEq, Repr

/-- What an export asks of its surroundings. A directory may fail to be created. -/
@[reducible] def interface : Interface where
  Op := Op
  Answer
    | .stamp => String
    | .createDirectory _ => Except String Unit
    | .publish _ | .sleep _ | .clearSelection | .reveal _ => Unit

end Surroundings

namespace Capability

/-- What an export asks of whatever runs its job. -/
inductive Op where
  | submit (request : Request)
  | poll (job : Uuid)
  deriving DecidableEq

/-- What an export asks of whatever runs its job. -/
@[reducible] def interface : Interface where
  Op := Op
  Answer _ := Except ServiceError Job

end Capability

/-- What one export is about. -/
structure Assignment where
  /-- The directory below which exports are written. -/
  documents : String
  domain : Domain
  selection : Selection
  includeBlobs : Bool
  format : Format
  authToken : String
  deriving DecidableEq

/-- An export on its way. -/
abbrev Process :=
  Program (Surroundings.interface.sum Capability.interface) (Except ServiceError Outcome)

namespace Process

/-- Ends with a completed job. -/
def finish (path : String) (job : Job) : Process :=
  .ask (.inl .clearSelection) fun _ =>
    match job.totalEntities with
    | some total =>
      if 0 < total then
        .ask (.inl (.reveal path)) fun _ => .done (.ok (.exported job.id path total))
      else .done (.ok (.noRecordsExported job.id path))
    | none => .done (.ok (.noRecordsExported job.id path))

/-- What is said of a job that failed without saying why. -/
def unexplained : String := "export failed without a message"

/-- Follows a job after `attempts` status checks, with `left` more to come at most. -/
def follow (intervalMs : Nat) (path : String) (attempts : UInt32) : Nat → Job → Process
  | left, job =>
    match job.status with
    | .completed => finish path job
    | .failed => .done (.error (.jobFailed job.id (job.errorMessage.getD unexplained)))
    | .requested | .inProgress =>
      match left with
      | 0 => .done (.error (.timeout job.id attempts))
      | left + 1 =>
        .ask (.inl (.publish (.polling (attempts + 1)))) fun _ =>
          .ask (.inl (.sleep intervalMs)) fun _ =>
            .ask (.inr (.poll job.id)) fun (answer : Except ServiceError Job) =>
              match answer with
              | .error error => .done (.error error)
              | .ok job => follow intervalMs path (attempts + 1) left job

/-- Submits a request and follows its job. -/
def submit (settings : PollSettings) (request : Request) : Process :=
  .ask (.inl (.publish .submitting)) fun _ =>
    .ask (.inr (.submit request)) fun (answer : Except ServiceError Job) =>
      match answer with
      | .error error => .done (.error error)
      | .ok job =>
        follow settings.intervalMs request.targetPath 0 settings.maxAttempts.toNat job

/-- Exports what an assignment is about. -/
def start (settings : PollSettings) (assignment : Assignment) : Process :=
  .ask (.inl .stamp) fun (stamp : String) =>
    let directory := Path.directory assignment.documents assignment.domain
    .ask (.inl (.createDirectory directory)) fun (created : Except String Unit) =>
      match created with
      | .error message => .done (.error (.io message))
      | .ok () =>
        submit settings
          { ids := assignment.selection.ids
            includeBlobs := assignment.includeBlobs
            format := assignment.format
            targetPath := Path.file assignment.documents assignment.domain assignment.format stamp
            authToken := assignment.authToken }

end Process
end BackgroundWork.Export
