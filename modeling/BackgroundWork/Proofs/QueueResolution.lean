import BackgroundWork.Proofs.DocumentCalls
import BackgroundWork.Proofs.RequestEncoding
import BackgroundWork.Proofs.StatusPropagation

set_option autoImplicit false

/-!
What becomes of a document that is to be queued. Queueing has statuses of its own and no response;
one status makes the client change the document's priority instead, with the same request. Main
statement: each status has one outcome, and the engine is entered once, or a second time for a
document that was queued already.
-/

namespace BackgroundWork

open Engine (Invocation Reply)
open Program (handleRight)

/-! ### Bare statuses -/

namespace Engine

/-- A bare status always comes back to the client. -/
theorem Client.send_statusOnly {σ : Type} (handle : Bridge.interface.Handler σ) {state after : σ}
    {call : Call} {payload : String} {token : Option String} {status : Int32}
    (entered : handle (.invoke call payload token) state = (.ok (.statusOnly status), after)) :
    ∃ reply, ((send call payload token).run handle state).1 = .ok reply ∧
      reply.status = status := by
  obtain ⟨reply, received, _, same⟩ :
      ∃ reply, ((receive call (.statusOnly status)).run handle after).1 = .ok reply ∧
        reply.call = call ∧ reply.status = status := run_receive_of_readable call nofun
  exact ⟨reply, by rw [run_send entered, received], same⟩

/-- Queueing has no response: whatever the engine leaves at the address of one, its status is all
that comes back. -/
theorem Native.meaning_queueDocument {τ : Type} {payload : String}
    (printed : Text.Printed payload.toList) (engine : interface.Handler τ) (state : τ) :
    (meaning (.invoke .queueDocument payload none)).run engine state =
      let (answer, after) := engine (.enter "compression_queue_document"
        [.text ⟨Text.Utf8.encode payload, printed.zero_not_mem⟩]) state
      (.ok (.statusOnly answer.1), after) := by
  have argument : argument? .queueDocument payload = some ⟨_, printed.zero_not_mem⟩ :=
    printed.ofText?
  have noToken : Text.Terminated.ofText? ((none : Option String).getD "") = some ⟨_, _⟩ :=
    (by decide : Text.Printed "".toList).ofText?
  simp only [meaning, invoke, argument, noToken]
  rfl

end Engine

/-! ### Queueing -/

namespace Compression.Documents

open Engine (Client.entries_send Client.send Client.send_statusOnly)

/-- Why a document was not queued, by the status of queueing. -/
inductive Rejects : Int32 → QueueRejection → Prop
  | invalidId : Rejects 1 .invalidId
  | notFound : Rejects 2 .notFound
  | unknown {status : Int32} (other : status ∉ [0, 1, 2, 3]) : Rejects status (.unknown status)

theorem rejects_of_ne {status : Int32} (zero : status ≠ 0) (three : status ≠ 3) :
    ∃ reason, Rejects status reason := by
  by_cases one : status = 1
  · exact ⟨.invalidId, one ▸ .invalidId⟩
  by_cases two : status = 2
  · exact ⟨.notFound, two ▸ .notFound⟩
  · exact ⟨.unknown status, .unknown (by simp [zero, one, two, three])⟩

/-- An entry into the engine with a document and a priority. -/
def entry (call : Engine.Call) (documentId : String) (priority : Priority) : Invocation :=
  ⟨call, (Request.priority ⟨documentId⟩ priority).render, none⟩

/-- How a document is dealt with by a status of queueing: what the engine is asked, and the result,
given what a change of the document's priority would bring back. -/
structure Resolves (documentId : String) (priority : Priority) (status : Int32)
    (asked : List Invocation) (update : Except ServiceError Reply)
    (result : Except ServiceError QueueOutcome) : Prop where
  queued : status = 0 →
    asked = [entry .queueDocument documentId priority] ∧ result = .ok .queued
  updated : status = 3 →
    asked = [entry .queueDocument documentId priority,
      entry .updatePriority documentId priority] ∧
    result = (update.bind (Reply.decode updatedAnswer.codec)).map .priorityUpdated
  rejected : ∀ reason, Rejects status reason →
    asked = [entry .queueDocument documentId priority] ∧
      ∃ message, result = .error (.queueRejected documentId reason message)

section

variable {σ : Type} {handle : Surroundings.Handler σ} {state after : σ}
  {documentId : String} {priority : Priority}

/-- What is done with a reply. -/
def resolve (id : DocumentId) (priority : Priority) (reply : Reply) : Action QueueOutcome :=
  match Engine.QueueStatus.ofStatus reply.status with
  | .queued => .done (.ok .queued)
  | .alreadyQueued =>
    (sendPriority id priority).andThen fun updated => .done (.ok (.priorityUpdated updated))
  | .invalidId => .done (.error (rejected id .invalidId reply))
  | .notFound => .done (.error (rejected id .notFound reply))
  | .other status => .done (.error (rejected id (.unknown status) reply))

theorem queue_of_sound (sound : ∀ fault, ¬NameFault documentId fault) (priority : Priority) :
    queue documentId priority =
      (atEngine (Client.send .queueDocument (Request.priority ⟨documentId⟩ priority).render
        none)).andThen (resolve ⟨documentId⟩ priority) := by
  rw [queue, named, DocumentId.ofText_of_sound sound]
  rfl

/-- If no reply comes back, nothing further is asked. -/
theorem queue_of_lost (sound : ∀ fault, ¬NameFault documentId fault) {error : ServiceError}
    (lost : ((Client.send .queueDocument (Request.priority ⟨documentId⟩ priority).render
      none).run (handleRight handle) state).1 = .error error) :
    entries ((queue documentId priority).events handle state) =
        [entry .queueDocument documentId priority] ∧
      ((queue documentId priority).run handle state).1 = .error error := by
  rw [queue_of_sound sound]
  obtain ⟨run, events⟩ := andThen_of_error (resolve ⟨documentId⟩ priority)
    ((run_atEngine handle state _).trans (Prod.ext lost rfl))
  rw [run, events, (events_atEngine handle state _).1, Client.entries_send]
  exact ⟨rfl, rfl⟩

theorem queue_of_reply (sound : ∀ fault, ¬NameFault documentId fault) {reply : Reply}
    (received : (Client.send .queueDocument (Request.priority ⟨documentId⟩ priority).render
      none).run (handleRight handle) state = (.ok reply, after)) :
    entries ((queue documentId priority).events handle state) =
        entry .queueDocument documentId priority ::
          entries ((resolve ⟨documentId⟩ priority reply).events handle after) ∧
      (queue documentId priority).run handle state =
        (resolve ⟨documentId⟩ priority reply).run handle after := by
  rw [queue_of_sound sound]
  obtain ⟨run, events⟩ := andThen_of_ok (resolve ⟨documentId⟩ priority)
    ((run_atEngine handle state _).trans received)
  rw [run, events, entries_append, (events_atEngine handle state _).1, Client.entries_send]
  exact ⟨rfl, rfl⟩

theorem resolve_queued {reply : Reply} (status : reply.status = 0) :
    resolve ⟨documentId⟩ priority reply = .done (.ok .queued) := by
  rw [resolve, status]
  rfl

theorem resolve_rejected {reply : Reply} {reason : QueueRejection}
    (rejects : Rejects reply.status reason) :
    resolve ⟨documentId⟩ priority reply =
      .done (.error (rejected ⟨documentId⟩ reason reply)) := by
  generalize known : reply.status = status at rejects
  cases rejects with
  | invalidId =>
    rw [resolve, known]
    rfl
  | notFound =>
    rw [resolve, known]
    rfl
  | unknown other =>
    simp only [List.mem_cons, List.not_mem_nil, or_false, not_or] at other
    obtain ⟨zero, one, two, three⟩ := other
    have meaning : Engine.QueueStatus.ofStatus status = .other status := by
      simp only [Engine.QueueStatus.ofStatus, zero, one, two, three, ↓reduceIte]
    rw [resolve, known, meaning]

/-- A document that is queued already has its priority changed, with the same request. -/
theorem resolve_alreadyQueued (documentId : String) (priority : Priority)
    (handle : Surroundings.Handler σ) (state : σ) {reply : Reply} (status : reply.status = 3) :
    entries ((resolve ⟨documentId⟩ priority reply).events handle state) =
        [entry .updatePriority documentId priority] ∧
      ((resolve ⟨documentId⟩ priority reply).run handle state).1 =
        (((Client.send .updatePriority (Request.priority ⟨documentId⟩ priority).render none).run
          (handleRight handle) state).1.bind (Reply.decode updatedAnswer.codec)).map
            .priorityUpdated := by
  have resolved : resolve ⟨documentId⟩ priority reply =
      (sendPriority ⟨documentId⟩ priority).andThen fun updated =>
        .done (.ok (.priorityUpdated updated)) := by
    rw [resolve, status]
    rfl
  have asked : entries ((sendPriority ⟨documentId⟩ priority).events handle state) =
      [entry .updatePriority documentId priority] := (events_sendFor ..).1
  have ran : (sendPriority ⟨documentId⟩ priority).run handle state = _ := run_sendFor ..
  obtain ⟨run, events⟩ := andThen_pure handle state (sendPriority ⟨documentId⟩ priority)
    QueueOutcome.priorityUpdated
  rw [resolved, run, events, asked, ran]
  exact ⟨rfl, rfl⟩

/-- A document is dealt with by the status of the reply that came back. -/
theorem resolves_of_reply (sound : ∀ fault, ¬NameFault documentId fault) {reply : Reply}
    (received : (Client.send .queueDocument (Request.priority ⟨documentId⟩ priority).render
      none).run (handleRight handle) state = (.ok reply, after)) :
    Resolves documentId priority reply.status
      (entries ((queue documentId priority).events handle state))
      ((Client.send .updatePriority (Request.priority ⟨documentId⟩ priority).render none).run
        (handleRight handle) after).1
      ((queue documentId priority).run handle state).1 := by
  obtain ⟨asked, run⟩ := queue_of_reply sound received
  rw [asked, run]
  refine ⟨fun zero => ?_, fun three => ?_, fun reason rejects => ?_⟩
  · rw [resolve_queued zero]
    exact ⟨rfl, rfl⟩
  · obtain ⟨updating, result⟩ := resolve_alreadyQueued documentId priority handle after three
    rw [updating, result]
    exact ⟨rfl, rfl⟩
  · rw [resolve_rejected rejects]
    exact ⟨rfl, _, rfl⟩

/-- Queueing a document with a sound name enters the engine with it, and only for a document that
is queued already a second time, to change its priority by the same request. Every status that the
engine can answer has its outcome, and so has every reply, whatever else it carries; if no reply
comes back, that is the failure. The engine's own entry point answers with nothing but a status. -/
theorem queue_resolves_every_status (sound : ∀ fault, ¬NameFault documentId fault)
    (priority : Priority) (handle : Surroundings.Handler σ) (state : σ) :
    let payload := (Request.priority ⟨documentId⟩ priority).render
    let asked := entries ((queue documentId priority).events handle state)
    let result := ((queue documentId priority).run handle state).1
    let received := (Client.send .queueDocument payload none).run (handleRight handle) state
    let update := (Client.send .updatePriority payload none).run (handleRight handle) received.2
    (asked = [entry .queueDocument documentId priority] ∨
      asked = [entry .queueDocument documentId priority,
        entry .updatePriority documentId priority]) ∧
      (∀ status after,
        handle (.inr (.invoke .queueDocument payload none)) state =
            (.ok (.statusOnly status), after) →
          Resolves documentId priority status asked update.1 result) ∧
      (∀ reply, received.1 = .ok reply →
        Resolves documentId priority reply.status asked update.1 result) ∧
      (∀ error, received.1 = .error error →
        asked = [entry .queueDocument documentId priority] ∧ result = .error error) ∧
      ∃ request : Text.Terminated, request.bytes = Text.Utf8.encode payload ∧
        ∀ {τ : Type} (engine : Engine.Native.interface.Handler τ) (start : τ),
          (Engine.Native.meaning (.invoke .queueDocument payload none)).run engine start =
            let (answer, after) :=
              engine (.enter "compression_queue_document" [.text request]) start
            (.ok (.statusOnly answer.1), after) := by
  intro payload asked result received update
  have resolves : ∀ reply, received.1 = .ok reply →
      Resolves documentId priority reply.status asked update.1 result :=
    fun reply answered => resolves_of_reply sound (Prod.ext answered rfl)
  have lost : ∀ error, received.1 = .error error →
      asked = [entry .queueDocument documentId priority] ∧ result = .error error :=
    fun error failed => queue_of_lost sound failed
  refine ⟨?_, fun status after entered => ?_, resolves, lost, ⟨_, _⟩, rfl,
    Engine.Native.meaning_queueDocument (Request.printed _)⟩
  · cases answer : received.1 with
    | error error => exact .inl (lost error answer).1
    | ok reply =>
      have resolved := resolves reply answer
      by_cases zero : reply.status = 0
      · exact .inl (resolved.queued zero).1
      by_cases three : reply.status = 3
      · exact .inr (resolved.updated three).1
      · obtain ⟨reason, rejects⟩ := rejects_of_ne zero three
        exact .inl (resolved.rejected reason rejects).1
  · obtain ⟨reply, answered, same⟩ := Client.send_statusOnly (handleRight handle) entered
    exact same ▸ resolves reply answered

/-- An engine that has every document in its queue and changes every priority. -/
def holding : Surroundings.Handler Unit
  | .inl .phase, state => (.foreground, state)
  | .inl (.post _), state => ((), state)
  | .inr (.invoke .queueDocument _ _), state => (.ok (.statusOnly 3), state)
  | .inr (.invoke _ _ _), state => (.ok { status := 0, buffer := some ⟨1, .compression⟩ }, state)
  | .inr (.read _), state =>
    (Text.Terminated.cut (Text.Utf8.encode "\x7b\"updated\":true\x7d"), state)
  | .inr (.release _), state => ((), state)
  | .inr .lastError, state => (none, state)

theorem queue_resolves_every_status_queued_already :
    (∀ fault, ¬NameFault "doc-1" fault) ∧
      entries ((queue "doc-1" .high).events holding ()) =
        [entry .queueDocument "doc-1" .high, entry .updatePriority "doc-1" .high] ∧
      ((queue "doc-1" .high).run holding ()).1.toOption = some (.priorityUpdated true) := by
  have sound : ∀ fault, ¬NameFault "doc-1" fault := by
    intro fault faulty
    have refused := DocumentId.ofText_of_fault faulty
    rw [show DocumentId.ofText "doc-1" = .ok ⟨"doc-1"⟩ from rfl] at refused
    cases refused
  have resolves := (queue_resolves_every_status sound .high holding ()).2.1 3 () rfl
  obtain ⟨asked, result⟩ := resolves.updated rfl
  refine ⟨sound, asked, ?_⟩
  rw [result]
  decide +kernel

end

end Compression.Documents
end BackgroundWork
