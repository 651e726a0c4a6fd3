import BackgroundWork.Uuid
import BackgroundWork.Validation

set_option autoImplicit false

/-!
The errors that callers of the services see, their wording, and their form as data.
-/

namespace BackgroundWork

open Json (Value)

/-- Why the engine did not queue a document. -/
inductive QueueRejection where
  | invalidId
  | notFound
  /-- A status that queueing does not define. -/
  | unknown (status : Int32)
  deriving DecidableEq, Repr

namespace QueueRejection

/-- The wording of a rejection. -/
def message : QueueRejection → String
  | invalidId => "invalid document id"
  | notFound => "document not found"
  | unknown status => s!"unknown status {status.toInt}"

/-- A rejection as data. -/
def toJson : QueueRejection → Value
  | invalidId => .string "InvalidId"
  | notFound => .string "NotFound"
  | unknown status => .object [("Unknown", .number (.integer status.toInt))]

end QueueRejection

/-- What a service call may fail with. Engine calls are named by their symbols. -/
inductive ServiceError where
  | validation (cause : ValidationError)
  | encode (call message : String)
  | engineRejected (call : String) (code : Int32) (message : String)
  /-- The call did not come back from the engine. -/
  | transport (call message : String)
  | decode (call message : String)
  | queueRejected (documentId : String) (reason : QueueRejection) (message : String)
  | jobFailed (jobId : Uuid) (message : String)
  /-- A job was still running at the last status check. -/
  | timeout (jobId : Uuid) (attempts : UInt32)
  | exportInProgress
  | resourceBudgetExpired
  | coordinatorUnavailable (message : String)
  | configuration (message : String)
  | io (message : String)
  | unknown (message : String)
  deriving DecidableEq

namespace ServiceError

/-- The wording of an error. -/
def message : ServiceError → String
  | validation cause => s!"Validation error: {cause.message}"
  | encode call message => s!"Failed to encode {call} request: {message}"
  | engineRejected call code message => s!"Engine rejected {call} (status {code.toInt}): {message}"
  | transport call message => s!"Engine call {call} failed: {message}"
  | decode call message => s!"Failed to decode {call} response: {message}"
  | queueRejected documentId reason message =>
    s!"Queue request for {documentId} rejected ({reason.message}): {message}"
  | jobFailed jobId message => s!"Export job {jobId.text} failed: {message}"
  | timeout jobId attempts =>
    s!"Export job {jobId.text} still running after {attempts.toNat} status checks; " ++
      "it may still complete"
  | exportInProgress => "An export is already running on this coordinator"
  | resourceBudgetExpired => "Background execution window has closed"
  | coordinatorUnavailable message => s!"Coordinator unavailable: {message}"
  | configuration message => s!"Configuration error: {message}"
  | io message => s!"I/O error: {message}"
  | unknown message => s!"Unknown error: {message}"

/-- The kind of an error. -/
def kind : ServiceError → String
  | validation .. => "Validation"
  | encode .. => "Encode"
  | engineRejected .. => "EngineRejected"
  | transport .. => "Transport"
  | decode .. => "Decode"
  | queueRejected .. => "QueueRejected"
  | jobFailed .. => "JobFailed"
  | timeout .. => "Timeout"
  | exportInProgress => "ExportInProgress"
  | resourceBudgetExpired => "ResourceBudgetExpired"
  | coordinatorUnavailable .. => "CoordinatorUnavailable"
  | configuration .. => "Configuration"
  | io .. => "Io"
  | unknown .. => "Unknown"

/-- The parts of an error, unless its kind says all. -/
def parts? : ServiceError → Option Value
  | validation cause => some cause.toJson
  | encode call message | transport call message | decode call message =>
    some (.object [("call", .string call), ("message", .string message)])
  | engineRejected call code message =>
    some (.object [("call", .string call), ("code", .number (.integer code.toInt)),
      ("message", .string message)])
  | queueRejected documentId reason message =>
    some (.object [("document_id", .string documentId), ("message", .string message),
      ("reason", reason.toJson)])
  | jobFailed jobId message =>
    some (.object [("job_id", .string jobId.text), ("message", .string message)])
  | timeout jobId attempts =>
    some (.object [("attempts", .number (.integer attempts.toNat)), ("job_id", .string jobId.text)])
  | exportInProgress | resourceBudgetExpired => none
  | coordinatorUnavailable message | configuration message | io message | unknown message =>
    some (.string message)

/-- An error as data: its kind, with its parts if it has any. -/
def toJson (error : ServiceError) : Value :=
  match error.parts? with
  | some parts => .object [(error.kind, parts)]
  | none => .string error.kind

/-- Whether the job behind the error may still finish on its own. -/
def mayStillComplete : ServiceError → Bool
  | timeout .. => true
  | _ => false

/-- Whether input was refused before it reached the engine. -/
def isValidation : ServiceError → Bool
  | validation .. => true
  | _ => false

end ServiceError
end BackgroundWork
