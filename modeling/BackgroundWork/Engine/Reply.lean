import BackgroundWork.Engine.Call
import BackgroundWork.Engine.Status
import BackgroundWork.Json.Record
import BackgroundWork.ServiceError

set_option autoImplicit false

/-!
Replies of the engine and what they mean. A reply is a failure if its status is not zero or if its
body is an error envelope; else its body is the data that was asked for.
-/

namespace BackgroundWork.Engine

open Json

/-- An error that the engine writes into the body of a reply. -/
structure Envelope where
  code : Value
  message : String
  details : Option String

namespace Envelope

/-- An envelope as a record; a body with any further member is data. -/
def record : Record Envelope where
  name := "EngineErrorPayload"
  types := [Value, String, Option String]
  fields :=
    .cons (.required "code" .value) <|
    .cons (.required "message" .string) <|
    .cons (.optional "details" .string) .nil
  make := fun (code, message, details, ()) => { code, message, details }
  parts envelope := (envelope.code, envelope.message, envelope.details, ())
  isClosed := true

/-- Whether the code reports success: by its name, or as the integer zero. -/
def isSuccess (envelope : Envelope) : Bool :=
  match envelope.code with
  | .string name => name == "Success"
  | .number (.integer code) => code == 0
  | _ => false

/-- The envelope in a body; none if the body is data or reports success. -/
def ofBody? (body : String) : Option Envelope :=
  match record.codec.ofText body with
  | .error _ => none
  | .ok envelope => if envelope.isSuccess then none else some envelope

/-- The status that the code names or is; any other code counts as unknown. -/
def status (envelope : Envelope) : Int32 :=
  match envelope.code with
  | .number (.integer code) =>
    if -2147483648 ≤ code && code < 2147483648 then .ofInt code else ErrorCode.unknown.status
  | .string name => ((ErrorCode.enumeration.ofName? name).getD .unknown).status
  | _ => ErrorCode.unknown.status

/-- The message, with the details in parentheses if there are any. -/
def fullMessage (envelope : Envelope) : String :=
  match envelope.details with
  | some details => s!"{envelope.message} ({details})"
  | none => envelope.message

end Envelope

/-- A reply of the engine whose body was read. -/
structure Reply where
  call : Call
  status : Int32
  body : Option String
  lastError : Option String

namespace Reply

/-- The error envelope in the body, if it holds one. -/
def envelope? (reply : Reply) : Option Envelope :=
  reply.body.bind Envelope.ofBody?

/-- Status zero, and no error envelope. -/
def isSuccess (reply : Reply) : Bool :=
  reply.status = 0 && reply.envelope?.isNone

/-- The best message there is for a failure: the envelope's, else the engine's last error unless
it is blank, else the name of the status. -/
def bestMessage (reply : Reply) : String :=
  match reply.envelope? with
  | some envelope => envelope.fullMessage
  | none =>
    match reply.lastError with
    | some detail => if Text.allBlank detail then ErrorCode.describe reply.status else detail
    | none => ErrorCode.describe reply.status

/-- The code of a failure: the status, or the envelope's if the status is zero. -/
def rejectionCode (reply : Reply) : Int32 :=
  match reply.envelope? with
  | some envelope => if reply.status = 0 then envelope.status else reply.status
  | none => reply.status

/-- The failure that a reply stands for. -/
def rejection (reply : Reply) : ServiceError :=
  .engineRejected reply.call.symbol reply.rejectionCode reply.bestMessage

/-- The data in the body of a reply. -/
def decode {α : Type} (codec : Codec α) (reply : Reply) : Except ServiceError α :=
  if !reply.isSuccess then .error reply.rejection
  else
    match reply.body with
    | none => .error (.decode reply.call.symbol "engine returned no response body")
    | some body =>
      (codec.ofText body).mapError fun fault => .decode reply.call.symbol fault.message

end Reply
end BackgroundWork.Engine
