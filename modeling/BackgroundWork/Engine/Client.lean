import BackgroundWork.Engine.Bridge
import BackgroundWork.Engine.Reply
import BackgroundWork.TaskFailure

set_option autoImplicit false

/-!
Calls to the engine: a request goes in as JSON, the response is copied out and its buffer given
back, and the reply is classified and its data decoded. The last error is asked for only after a
failure.
-/

namespace BackgroundWork.Engine.Client

/-- A request as JSON text, or why it has none. -/
abbrev Request := Except String String

/-- The text of a request to an entry point. -/
def encode (call : Call) (request : Request) : Except ServiceError String :=
  request.mapError fun reason => .encode call.symbol reason

/-- The reply behind a raw one: the body is read and its buffer given back first. -/
def receive (call : Call) (raw : RawReply) :
    Program Bridge.interface (Except ServiceError Reply) := do
  let body : Except Text.Utf8.Fault (Option String) ←
    match raw.buffer with
    | none => pure (.ok none)
    | some buffer => (Bridge.takeText buffer).bind fun text => pure (text.map some)
  match body with
  | .error fault =>
    return .error (.decode call.symbol s!"response is not valid UTF-8: {fault.message}")
  | .ok body =>
    let lastError ← if raw.status = 0 then pure none else Bridge.lastError
    return .ok { call, status := raw.status, body, lastError }

/-- Sends a request and brings back the reply, whatever it says. -/
def send (call : Call) (payload : String) (token : Option String) :
    Program Bridge.interface (Except ServiceError Reply) := do
  match ← Bridge.invoke call payload token with
  | .error panic =>
    let failure := TaskFailure.panicked panic
    return .error (.transport call.symbol s!"engine task did not complete: {failure.message}")
  | .ok raw => receive call raw

/-- Sends a request and decodes the data of the reply. -/
def sendFor {α : Type} (codec : Json.Codec α) (call : Call) (payload : String)
    (token : Option String) : Program Bridge.interface (Except ServiceError α) := do
  match ← send call payload token with
  | .error error => return .error error
  | .ok reply => return reply.decode codec

/-- Encodes a request, sends it and decodes the data of the reply. -/
def callJson {α : Type} (codec : Json.Codec α) (call : Call) (request : Request)
    (token : Option String) : Program Bridge.interface (Except ServiceError α) :=
  match encode call request with
  | .error error => pure (.error error)
  | .ok payload => sendFor codec call payload token

/-- Decodes the data of an entry point that takes no request. -/
def fetch {α : Type} (codec : Json.Codec α) (call : Call) :
    Program Bridge.interface (Except ServiceError α) :=
  sendFor codec call "" none

/-- Encodes a request and sends it to an entry point whose status is all that matters. -/
def callStatus (call : Call) (request : Request) :
    Program Bridge.interface (Except ServiceError Unit) :=
  match encode call request with
  | .error error => pure (.error error)
  | .ok payload => do
    match ← send call payload none with
    | .error error => return .error error
    | .ok reply => return if reply.isSuccess then .ok () else .error reply.rejection

end BackgroundWork.Engine.Client
