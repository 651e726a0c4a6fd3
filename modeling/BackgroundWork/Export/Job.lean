import BackgroundWork.Json.Record
import BackgroundWork.Timestamp
import BackgroundWork.Uuid

set_option autoImplicit false

/-!
Export jobs as the engine reports them.
-/

namespace BackgroundWork.Export

open Json

/-- How far a job is. -/
inductive JobStatus where
  | requested
  | inProgress
  | completed
  | failed
  deriving DecidableEq, Repr

namespace JobStatus

/-- The spelling of a status. -/
def name : JobStatus → String
  | requested => "Requested"
  | inProgress => "InProgress"
  | completed => "Completed"
  | failed => "Failed"

/-- The statuses by name. The engine has several names for jobs that are not done. -/
def enumeration : Enumeration JobStatus where
  names := [("Pending", requested), ("Queued", requested), ("Requested", requested),
    ("InProgress", inProgress), ("Running", inProgress), ("Completed", completed),
    ("Failed", failed)]
  name := name

/-- Whether a job is done. -/
def isTerminal : JobStatus → Bool
  | completed | failed => true
  | requested | inProgress => false

end JobStatus

/-- An export job. -/
structure Job where
  id : Uuid
  status : JobStatus
  totalEntities : Option Int64
  errorMessage : Option String
  localPath : Option String
  totalBytes : Option Int64
  requestedAt : Option Timestamp
  deriving DecidableEq

namespace Job

/-- A job as a record. -/
def record : Record Job where
  name := "ExportJob"
  types := [Uuid, JobStatus, Option Int64, Option String, Option String, Option Int64,
    Option Timestamp]
  fields :=
    .cons (.required "id" Uuid.codec) <|
    .cons (.required "status" JobStatus.enumeration.codec) <|
    .cons (.optional "total_entities" .int64) <|
    .cons (.optional "error_message" .string) <|
    .cons (.optional "local_path" .string) <|
    .cons (.optional "total_bytes" .int64) <|
    .cons (.optional "requested_at" Timestamp.codec) .nil
  make := fun (id, status, totalEntities, errorMessage, localPath, totalBytes, requestedAt, ()) =>
    { id, status, totalEntities, errorMessage, localPath, totalBytes, requestedAt }
  parts job := (job.id, job.status, job.totalEntities, job.errorMessage, job.localPath,
    job.totalBytes, job.requestedAt, ())
  isClosed := false

/-- A job in the answer to a submission or a status check. -/
def envelope : Record Job where
  name := "JobEnvelope"
  types := [Job]
  fields := .cons (.required "job" record.codec) .nil
  make := fun (job, ()) => job
  parts job := (job, ())
  isClosed := false

end Job
end BackgroundWork.Export
