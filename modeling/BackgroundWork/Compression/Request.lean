import BackgroundWork.Compression.Config
import BackgroundWork.Compression.Priority
import BackgroundWork.DocumentId

set_option autoImplicit false

/-!
Requests about documents, as the engine takes them, and the plain answers to some of them.
-/

namespace BackgroundWork.Compression

open Json

/-- A request about a document. -/
inductive Request where
  | document (id : DocumentId)
  | priority (id : DocumentId) (urgency : Priority)
  /-- Without a configuration the engine uses its own. -/
  | compress (id : DocumentId) (config : Option Config)
  deriving DecidableEq, Repr

namespace Request

/-- The members of a request, in order. -/
def members : Request → List (String × List Char)
  | document id => [("document_id", DocumentId.codec.encode id)]
  | priority id urgency =>
    [("document_id", DocumentId.codec.encode id),
      ("priority", Priority.enumeration.codec.encode urgency)]
  | compress id config =>
    ("document_id", DocumentId.codec.encode id) ::
      config.toList.map fun config => ("config", Config.record.codec.encode config)

/-- A request as JSON. -/
def render (request : Request) : String :=
  String.ofList (objectText request.members)

end Request

/-- Whether a priority was changed. -/
def updatedAnswer : Record Bool where
  name := "UpdatedResponse"
  types := [Bool]
  fields := .cons (.required "updated" .bool) .nil
  make := fun (updated, ()) => updated
  parts updated := (updated, ())
  isClosed := false

/-- Whether a document's compression was cancelled. -/
def cancelledAnswer : Record Bool where
  name := "CancelledResponse"
  types := [Bool]
  fields := .cons (.required "cancelled" .bool) .nil
  make := fun (cancelled, ()) => cancelled
  parts cancelled := (cancelled, ())
  isClosed := false

/-- How queueing a document ended well. -/
inductive QueueOutcome where
  | queued
  /-- The document was queued before, and its priority was to be changed instead. -/
  | priorityUpdated (updated : Bool)
  deriving DecidableEq, Repr

/-- The outcome as data. -/
def QueueOutcome.toJson : QueueOutcome → Value
  | queued => .string "Queued"
  | priorityUpdated updated =>
    .object [("PriorityUpdated", .object [("updated", .bool updated)])]

end BackgroundWork.Compression
