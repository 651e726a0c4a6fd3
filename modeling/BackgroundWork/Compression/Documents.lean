import BackgroundWork.Background.Budget
import BackgroundWork.Compression.Request
import BackgroundWork.Compression.StatusCache
import BackgroundWork.Compression.Summary
import BackgroundWork.Engine.Client

set_option autoImplicit false

/-!
What callers can have done to documents, and the reports they can ask for. A document's name is
validated before anything else. A report that was brought in is also handed to the worker.
-/

namespace BackgroundWork.Compression

open Background (BudgetPhase)
open Engine (Call Client.callJson Client.fetch Client.send Client.sendFor Reply)

namespace Documents

/-- What requests ask of the worker's side. -/
inductive Op where
  /-- How the execution in the background stands. -/
  | phase
  /-- Hands a report to the worker. -/
  | post (update : CacheUpdate)
  deriving DecidableEq

/-- What requests ask of the worker's side. -/
@[reducible] def coordination : Interface where
  Op := Op
  Answer
    | .phase => BudgetPhase
    | .post _ => Unit

/-- A request: it asks the worker's side and the engine. -/
abbrev Action (α : Type) :=
  Program (coordination.sum Engine.Bridge.interface) (Except ServiceError α)

variable {α : Type}

/-- A request that only asks the engine. -/
def atEngine (program : Program Engine.Bridge.interface (Except ServiceError α)) : Action α :=
  program.inRight

/-- The rest of a request, unless it has failed. -/
def Action.andThen {β : Type} (action : Action α) (next : α → Action β) : Action β :=
  action.bind fun
    | .error error => .done (.error error)
    | .ok value => next value

/-- A request about a document with a validated name. -/
def named (documentId : String) (request : DocumentId → Action α) : Action α :=
  match DocumentId.ofText documentId with
  | .error error => .done (.error (.validation error))
  | .ok id => request id

/-- Hands a report to the worker. -/
def post (update : CacheUpdate) : Action Unit :=
  .ask (.inl (.post update)) fun () => .done (.ok ())

/-- Changes a document's priority; the answer is whether the engine did. -/
def sendPriority (id : DocumentId) (priority : Priority) : Action Bool :=
  atEngine (Client.callJson updatedAnswer.codec .updatePriority
    (.ok (Request.priority id priority).render) none)

/-- Why the engine did not queue a document. -/
def rejected (id : DocumentId) (reason : QueueRejection) (reply : Reply) : ServiceError :=
  .queueRejected id.text reason (reply.lastError.getD reason.message)

/-- Queues a document; if it is queued already, changes its priority. -/
def queue (documentId : String) (priority : Priority) : Action QueueOutcome :=
  named documentId fun id =>
    (atEngine (Client.send .queueDocument (Request.priority id priority).render none)).andThen
      fun reply =>
        match Engine.QueueStatus.ofStatus reply.status with
        | .queued => .done (.ok .queued)
        | .alreadyQueued =>
          (sendPriority id priority).andThen fun updated =>
            .done (.ok (.priorityUpdated updated))
        | .invalidId => .done (.error (rejected id .invalidId reply))
        | .notFound => .done (.error (rejected id .notFound reply))
        | .other status => .done (.error (rejected id (.unknown status) reply))

/-- Changes a document's priority; the answer is whether the engine did. -/
def updatePriority (documentId : String) (priority : Priority) : Action Bool :=
  named documentId fun id => sendPriority id priority

/-- Brings in the engine's statistics for the worker. That they fail to come is no failure. -/
def refreshStats : Action Unit :=
  (atEngine (Client.fetch Stats.record.codec .getStats)).bind fun
    | .error _ => .done (.ok ())
    | .ok stats => post (.stats stats)

/-- Compresses a document, unless the window in the background has closed or the request is larger
than `maxBytes`. The log is told of the saved bytes, `Summary.bytesSaved`, before the statistics
are brought in. They wrap, so that telling it neither fails nor changes anything; a build that
checks arithmetic for overflow would crash there on lengths whose difference has no 64 bits. -/
def compress (maxBytes : Nat) (documentId : String) (config : Option Config) : Action Summary :=
  named documentId fun id =>
    .ask (.inl .phase) fun (phase : BudgetPhase) =>
      if phase = .expired then .done (.error .resourceBudgetExpired)
      else
        let call := Call.compressDocument
        let payload := (Request.compress id config).render
        match ensurePayloadWithin call.symbol payload maxBytes with
        | .error error => .done (.error (.validation error))
        | .ok () =>
          (atEngine (Client.sendFor Summary.record.codec call payload none)).andThen
            fun summary => refreshStats.andThen fun () => .done (.ok summary)

/-- Cancels a document's compression; the answer is whether the engine did. -/
def cancel (documentId : String) : Action Bool :=
  named documentId fun id =>
    atEngine (Client.callJson cancelledAnswer.codec .cancel (.ok (Request.document id).render)
      none)

/-- Asks what happened to a document so far. -/
def status (documentId : String) : Action DocumentHistory :=
  named documentId fun id =>
    atEngine (Client.callJson DocumentHistory.record.codec .getDocumentStatus
      (.ok (Request.document id).render) none)

/-- Brings in all of the engine's status. -/
def refreshStatus : Action ComprehensiveStatus :=
  (atEngine (Client.fetch ComprehensiveStatus.record.codec .getComprehensiveStatus)).andThen
    fun status => (post (.status status)).andThen fun () => .done (.ok status)

/-- Brings in the state of the engine's queue. -/
def refreshQueue : Action QueueStatus :=
  (atEngine (Client.fetch QueueStatus.record.codec .getQueueStatus)).andThen
    fun status => (post (.queue status)).andThen fun () => .done (.ok status)

end Documents
end BackgroundWork.Compression
