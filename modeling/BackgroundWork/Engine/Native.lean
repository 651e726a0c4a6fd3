import BackgroundWork.Engine.Bridge
import BackgroundWork.Engine.Status
import BackgroundWork.Json.Value

set_option autoImplicit false

/-!
The boundary in terms of the functions that the engine exports. Each is known by its symbol and has
arguments of its own: requests and tokens are handed over as terminated texts, and the address of a
response comes back in a place that is handed over empty. A request that has no such form is
refused without entering the engine.
-/

namespace BackgroundWork.Engine.Native

open Text (Terminated)

/-- An argument of an exported function. -/
inductive Argument where
  | text (content : Terminated)
  /-- An empty place for the address of a response. -/
  | place
  deriving DecidableEq

/-- What can be asked of the engine's symbols. -/
inductive Op where
  /-- Enters at a symbol. -/
  | enter (symbol : String) (arguments : List Argument)
  | read (address : Nat)
  | free (deallocator : Deallocator) (address : Nat)
  /-- The address of a text about the last failure. -/
  | getLastError
  deriving DecidableEq

/-- The symbols of the engine. Entering answers with a status, and with the address that was left in
the place for one, if any. -/
@[reducible] def interface : Interface where
  Op := Op
  Answer
    | .enter .. => Int32 × Option Nat
    | .read _ => Terminated
    | .free .. => Unit
    | .getLastError => Option Nat

/-- The job that a request for an export's status names. -/
def jobId? (payload : String) : Option String :=
  match Json.Value.ofText payload with
  | .error _ => none
  | .ok value => (value.get? "job_id").bind Json.Value.asString?

/-- The text handed to an entry point for a request: the bare job for an export's status, and the
request itself for all others. -/
def argument? (call : Call) (payload : String) : Option Terminated :=
  match call with
  | .getExportStatus => (jobId? payload).bind Terminated.ofText?
  | _ => Terminated.ofText? payload

/-- The symbol of an exported function, and its arguments. -/
structure Entrance where
  symbol : String
  arguments : List Argument
  deriving DecidableEq

/-- The function that a call enters by, applied to what it takes of the request and the token. -/
def entrance (request token : Terminated) : Call → Entrance
  | .queueDocument => ⟨"compression_queue_document", [.text request]⟩
  | .updatePriority => ⟨"compression_update_priority", [.text request, .place]⟩
  | .compressDocument => ⟨"compression_compress_document", [.text request, .place]⟩
  | .cancel => ⟨"compression_cancel", [.text request, .place]⟩
  | .getDocumentStatus => ⟨"compression_get_document_status", [.text request, .place]⟩
  | .getComprehensiveStatus => ⟨"compression_get_comprehensive_ios_status", [.place]⟩
  | .getQueueStatus => ⟨"compression_get_queue_status", [.place]⟩
  | .getStats => ⟨"compression_get_stats", [.place]⟩
  | .updateDeviceState => ⟨"compression_update_ios_state", [.text request]⟩
  | .handleBackgroundTaskExtension =>
    ⟨"compression_handle_background_task_extension", [.text request]⟩
  | .handleEnhancedMemoryWarning =>
    ⟨"compression_handle_enhanced_memory_warning", [.text request]⟩
  | .handleContentVisibility => ⟨"compression_handle_content_visibility", [.text request]⟩
  | .handleAppLifecycleEvent => ⟨"compression_handle_app_lifecycle_event", [.text request]⟩
  | .detectDeviceCapabilities => ⟨"compression_detect_ios_capabilities", [.place]⟩
  | .exportByIds domain =>
    match domain with
    | .strategicGoals =>
      ⟨"export_strategic_goals_by_ids", [.text request, .text token, .place]⟩
    | .projects => ⟨"export_projects_by_ids", [.text request, .text token, .place]⟩
    | .participants => ⟨"export_participants_by_ids", [.text request, .text token, .place]⟩
    | .activities => ⟨"export_activities_by_ids", [.text request, .text token, .place]⟩
  | .getExportStatus => ⟨"export_get_status", [.text request, .place]⟩

variable (request token : Terminated)

/-- Each call enters at its own symbol. -/
theorem entrance_symbol (call : Call) : (entrance request token call).symbol = call.symbol := by
  cases call with
  | exportByIds domain => cases domain <;> rfl
  | _ => rfl

/-- The request is handed over if the call takes one, and a place if it has a response; between the
two comes the token, for exports by ids only. -/
theorem entrance_arguments (call : Call) :
    (entrance request token call).arguments =
      (if call.takesPayload then [.text request] else []) ++
        (match call with
          | .exportByIds _ => [.text token]
          | _ => []) ++
        (if call.returnsPayload then [.place] else []) := by
  cases call with
  | exportByIds domain => cases domain <;> rfl
  | _ => rfl

/-- Enters the engine, unless the request or the token has no terminated form. -/
def invoke (call : Call) (payload : String) (token : Option String) :
    Program interface (Except String RawReply) :=
  match argument? call payload, Terminated.ofText? (token.getD "") with
  | some request, some token =>
    let entrance := entrance request token call
    .ask (.enter entrance.symbol entrance.arguments) fun (status, address) =>
      let address := if .place ∈ entrance.arguments then address else none
      .done (.ok ⟨status, address.map fun address => ⟨address, call.deallocator⟩⟩)
  | _, _ => .done (.ok (.statusOnly ErrorCode.invalidArgument.status))

/-- The engine's text about the last failure, given back once it is read. -/
def lastError : Program interface (Option String) :=
  .ask .getLastError fun
    | none => .done none
    | some address =>
      .ask (.read address) fun content =>
        .ask (.free .errorText address) fun () => .done content.text.toOption

/-- What each operation at the boundary does to the engine's symbols. -/
def meaning : (op : Bridge.interface.Op) → Program interface (Bridge.interface.Answer op)
  | .invoke call payload token => invoke call payload token
  | .read buffer => .ask (.read buffer.address) .done
  | .release buffer => .ask (.free buffer.deallocator buffer.address) .done
  | .lastError => lastError

/-- A program at the boundary, in terms of the engine's symbols. -/
def bridged {α : Type} (program : Program Bridge.interface α) : Program interface α :=
  program.translate meaning

end BackgroundWork.Engine.Native
