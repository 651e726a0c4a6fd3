import BackgroundWork.Json.Codec

set_option autoImplicit false

/-!
The status codes of the engine, and the table of its own by which queueing a document reports.
-/

namespace BackgroundWork.Engine

/-- A status that the engine defines. -/
inductive ErrorCode where
  | success
  | unknown
  | invalidArgument
  | nullPointer
  | invalidUtf8
  | invalidUuid
  | internalError
  | databaseGeneral
  | databaseNotFound
  | domainGeneral
  | entityNotFound
  | authorizationFailed
  | validationFailed
  | fileError
  | compressionError
  | serviceGeneral
  | authenticationFailed
  | sessionExpired
  | permissionDenied
  | serviceUnavailable
  deriving DecidableEq, Repr

namespace ErrorCode

/-- All codes, in the order of their numbers. -/
def all : List ErrorCode :=
  [success, unknown, invalidArgument, nullPointer, invalidUtf8, invalidUuid, internalError,
    databaseGeneral, databaseNotFound, domainGeneral, entityNotFound, authorizationFailed,
    validationFailed, fileError, compressionError, serviceGeneral, authenticationFailed,
    sessionExpired, permissionDenied, serviceUnavailable]

/-- The number of a code. -/
def status : ErrorCode → Int32
  | success => 0
  | unknown => 1
  | invalidArgument => 2
  | nullPointer => 3
  | invalidUtf8 => 4
  | invalidUuid => 5
  | internalError => 6
  | databaseGeneral => 100
  | databaseNotFound => 101
  | domainGeneral => 200
  | entityNotFound => 201
  | authorizationFailed => 202
  | validationFailed => 204
  | fileError => 207
  | compressionError => 208
  | serviceGeneral => 300
  | authenticationFailed => 303
  | sessionExpired => 304
  | permissionDenied => 305
  | serviceUnavailable => 309

/-- The spelling of a code. -/
def name : ErrorCode → String
  | success => "Success"
  | unknown => "Unknown"
  | invalidArgument => "InvalidArgument"
  | nullPointer => "NullPointer"
  | invalidUtf8 => "InvalidUtf8"
  | invalidUuid => "InvalidUuid"
  | internalError => "InternalError"
  | databaseGeneral => "DatabaseGeneral"
  | databaseNotFound => "DatabaseNotFound"
  | domainGeneral => "DomainGeneral"
  | entityNotFound => "EntityNotFound"
  | authorizationFailed => "AuthorizationFailed"
  | validationFailed => "ValidationFailed"
  | fileError => "FileError"
  | compressionError => "CompressionError"
  | serviceGeneral => "ServiceGeneral"
  | authenticationFailed => "AuthenticationFailed"
  | sessionExpired => "SessionExpired"
  | permissionDenied => "PermissionDenied"
  | serviceUnavailable => "ServiceUnavailable"

/-- The codes by name. -/
def enumeration : Json.Enumeration ErrorCode where
  names := all.map fun code => (code.name, code)
  name := name

/-- The code with the given number. -/
def ofStatus? (status : Int32) : Option ErrorCode :=
  all.find? (·.status == status)

/-- A status for people: its name and number, or its number alone. -/
def describe (status : Int32) : String :=
  match ofStatus? status with
  | some code => s!"{code.name} ({status.toInt})"
  | none => s!"status {status.toInt}"

end ErrorCode

/-- What the engine did with a document that was to be queued. -/
inductive QueueStatus where
  | queued
  | invalidId
  | notFound
  | alreadyQueued
  | other (status : Int32)
  deriving DecidableEq, Repr

namespace QueueStatus

/-- The meaning of a status. -/
def ofStatus (status : Int32) : QueueStatus :=
  if status = 0 then queued
  else if status = 1 then invalidId
  else if status = 2 then notFound
  else if status = 3 then alreadyQueued
  else other status

/-- The spelling of a meaning. -/
def text : QueueStatus → String
  | queued => "Queued"
  | invalidId => "InvalidId"
  | notFound => "NotFound"
  | alreadyQueued => "AlreadyQueued"
  | other status => s!"Other({status.toInt})"

end QueueStatus
end BackgroundWork.Engine
