import BackgroundWork.Compression.Coordinator
import BackgroundWork.Program

set_option autoImplicit false

/-!
What callers do with the coordinator. A request goes to the worker and is waited for until the
worker has answered it or is gone; a caller that shuts the worker down also waits for its end.
-/

namespace BackgroundWork.Compression

/-- What callers can ask for. Reports and announcements are not among it. -/
inductive CallerRequest where
  | start
  | stop
  | lifecycle (event : LifecycleEvent)
  | snapshot
  | shutdown

/-- The command that a request sends. -/
def CallerRequest.command : CallerRequest → Command
  | start => .dispatch .start
  | stop => .dispatch .stop
  | lifecycle event => .dispatch (.lifecycle event)
  | snapshot => .snapshot
  | shutdown => .shutdown

/-- What an answer says of an event. -/
def Answer.outcome (answer : Answer) : Except ServiceError Unit :=
  match answer.error? with
  | some error => .error error
  | none => .ok ()

/-- What an answer shows. One that shows nothing counts as none. -/
def Answer.shown : Answer → Except ServiceError Snapshot
  | snapshot copy => .ok copy
  | answer => .error (answer.error?.getD (.coordinatorUnavailable "worker dropped the request"))

namespace Handle

/-- What callers do with the coordinator. -/
inductive Op where
  /-- Sends a request and waits for what becomes of it. -/
  | ask (request : CallerRequest)
  /-- Waits for the end of the worker. -/
  | join

/-- What callers do with the coordinator. -/
@[reducible] def interface : Interface where
  Op := Op
  Answer
    | .ask _ => Answer
    | .join => Except ServiceError Unit

/-- Has the worker handle an event. -/
def dispatch (request : CallerRequest) : Program interface (Except ServiceError Unit) :=
  .ask (.ask request) fun (answer : Answer) => .done answer.outcome

/-- Asks for a copy of the worker's state. -/
def snapshot : Program interface (Except ServiceError Snapshot) :=
  .ask (.ask .snapshot) fun (answer : Answer) => .done answer.shown

/-- Shuts the worker down and waits for its end. That there is nobody to shut down is no
failure. -/
def shutDown : Program interface (Except ServiceError Unit) :=
  .ask (.ask .shutdown) fun _ => .ask .join .done

end Handle
end BackgroundWork.Compression
