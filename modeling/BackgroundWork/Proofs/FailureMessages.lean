import BackgroundWork.Proofs.QueueResolution

set_option autoImplicit false

/-!
What the message of a failure says. A rejected call takes its message from the envelope in the
body, else from the last error unless that is blank, else from the status; a rejected document
takes the last error, else the reason. Main statement: where each message comes from, and that it
is blank exactly if the envelope has no details and a blank message, or, for a document, if there
is a last error and it is blank.
-/

namespace BackgroundWork

/-! ### Texts that are not blank -/

namespace Text

/-- A text with a character that is not blank. -/
def Shows (text : String) : Prop :=
  ∃ c ∈ text.toList, isBlank c = false

theorem shows_append {first later : String} :
    Shows (first ++ later) ↔ Shows first ∨ Shows later := by
  simp only [Shows, String.toList_append, List.mem_append, or_and_right, exists_or]

theorem allBlank_iff {text : String} : allBlank text = true ↔ ¬Shows text := by
  simp [allBlank, Shows]

end Text

namespace Engine

open Text (Shows shows_append)

theorem ErrorCode.describe_shows (status : Int32) : Shows (describe status) := by
  unfold describe
  split
  · have opened : Shows (toString " (") := ⟨'(', by decide, by decide⟩
    simp [shows_append, opened]
  · have named : Shows (toString "status ") := ⟨'s', by decide, by decide⟩
    simp [shows_append, named]

/-! ### Rejected calls -/

namespace Envelope

theorem fullMessage_shows_iff (envelope : Envelope) :
    Shows envelope.fullMessage ↔ (envelope.details = none → Shows envelope.message) := by
  unfold fullMessage
  split
  next details present =>
    have opened : Shows (toString " (") := ⟨'(', by decide, by decide⟩
    simp [shows_append, opened, present]
  next absent => simp [absent]

end Envelope

namespace Reply

variable {reply : Reply} {message : String}

/-- Where the best message for a failure comes from. -/
inductive Best (reply : Reply) : String → Prop
  | envelope {envelope : Envelope} (found : reply.envelope? = some envelope) :
      Best reply envelope.fullMessage
  | detail {detail : String} (none : reply.envelope? = none)
      (told : reply.lastError = some detail) (shows : Shows detail) : Best reply detail
  | status (none : reply.envelope? = none)
      (silent : ∀ detail, reply.lastError = some detail → ¬Shows detail) :
      Best reply (ErrorCode.describe reply.status)

theorem best (reply : Reply) : Best reply reply.bestMessage := by
  unfold bestMessage
  split
  next envelope found => exact .envelope found
  next none =>
    split
    next detail told =>
      split
      next blank =>
        refine .status none fun other held => ?_
        obtain rfl := Option.some.inj (told.symm.trans held)
        exact Text.allBlank_iff.1 blank
      next shows =>
        exact .detail none told (Classical.not_not.1 fun blank => shows (Text.allBlank_iff.2 blank))
    next silent => exact .status none fun detail told => absurd (silent.symm.trans told) nofun

/-- Only an envelope can leave a failure without words. -/
theorem Best.shows_iff (best : Best reply message) :
    Shows message ↔ ∀ envelope, reply.envelope? = some envelope →
      envelope.details = none → Shows envelope.message := by
  cases best with
  | @envelope envelope found =>
    rw [envelope.fullMessage_shows_iff, found]
    simp
  | detail none told shows => simp [none, shows]
  | status none silent => simp [none, ErrorCode.describe_shows]

end Reply
end Engine

/-! ### Rejected documents -/

theorem QueueRejection.message_shows (reason : QueueRejection) : Text.Shows reason.message := by
  cases reason with
  | invalidId => exact ⟨'i', by decide, by decide⟩
  | notFound => exact ⟨'d', by decide, by decide⟩
  | unknown status =>
    have named : Text.Shows (toString "unknown status ") := ⟨'u', by decide, by decide⟩
    simp [message, Text.shows_append, named]

/-- Only a blank last error can leave a rejected document without words. -/
theorem QueueRejection.words_show_iff (reason : QueueRejection) (lastError : Option String) :
    Text.Shows (lastError.getD reason.message) ↔
      ∀ detail, lastError = some detail → Text.Shows detail := by
  cases lastError with
  | none => simp [reason.message_shows]
  | some detail => simp

namespace Engine

/-- A result that is no rejection of a document. -/
def Undeclined {α : Type} (result : Except ServiceError α) : Prop :=
  ∀ documentId reason message, result ≠ .error (.queueRejected documentId reason message)

theorem Client.Sending.undeclined {call : Call} {payload : String} {token : Option String}
    {events : List Client.Event} {answer : Except ServiceError Reply}
    (sending : Client.Sending call payload token events answer) : Undeclined answer := by
  cases sending with
  | panicked panic => exact nofun
  | received receiving => cases receiving <;> exact nofun

theorem Reply.decode_undeclined {α : Type} (codec : Json.Codec α) (reply : Reply) :
    Undeclined (reply.decode codec) := by
  have way := decoding codec reply
  generalize reply.decode codec = result at way
  cases way <;> exact nofun

end Engine

namespace Compression.Documents

open Engine (Client.goes_send Client.send Reply Undeclined)
open Program (goes_run handleRight)

section

variable {σ : Type} {handle : Surroundings.Handler σ} {state : σ} {documentId id message : String}
  {priority : Priority} {reason : QueueRejection}

/-- What is sent comes back as a reply or fails, which is no rejection. -/
theorem send_undeclined (handle : Engine.Bridge.interface.Handler σ) (state : σ)
    (call : Engine.Call) (payload : String) :
    Undeclined ((Client.send call payload none).run handle state).1 :=
  (Client.goes_send (goes_run handle _ state)).undeclined

/-- A document that is queued already is not rejected, whatever becomes of its priority. -/
theorem update_undeclined {update : Except ServiceError Reply} (plain : Undeclined update) :
    Undeclined ((update.bind (Reply.decode updatedAnswer.codec)).map
      QueueOutcome.priorityUpdated) := by
  intro id reason message declined
  cases update with
  | error error => exact plain id reason message (congrArg Except.error (Except.error.inj declined))
  | ok reply =>
    cases decoded : reply.decode updatedAnswer.codec with
    | error error =>
      rw [Except.bind, decoded] at declined
      exact reply.decode_undeclined _ id reason message
        (decoded.trans (congrArg Except.error (Except.error.inj declined)))
    | ok updated =>
      rw [Except.bind, decoded] at declined
      cases declined

/-- A document is rejected exactly by a reply whose status rejects it. -/
theorem queue_declined_iff :
    ((queue documentId priority).run handle state).1 = .error (.queueRejected id reason message) ↔
      (∀ fault, ¬NameFault documentId fault) ∧ id = documentId ∧ ∃ reply : Reply,
        ((Client.send .queueDocument (Request.priority ⟨documentId⟩ priority).render none).run
          (handleRight handle) state).1 = .ok reply ∧
        Rejects reply.status reason ∧ message = reply.lastError.getD reason.message := by
  constructor
  · intro declined
    have sound : ∀ fault, ¬NameFault documentId fault := by
      intro fault faulty
      rw [queue, named, DocumentId.ofText_of_fault faulty] at declined
      cases declined
    have plain := send_undeclined (handleRight handle) state .queueDocument
      (Request.priority ⟨documentId⟩ priority).render
    generalize ran : (Client.send .queueDocument (Request.priority ⟨documentId⟩ priority).render
      none).run (handleRight handle) state = outcome at plain
    obtain ⟨answer, after⟩ := outcome
    cases answer with
    | error error =>
      rw [(queue_of_lost sound (congrArg Prod.fst ran)).2] at declined
      cases declined
      exact absurd rfl (plain _ _ _)
    | ok reply =>
      have resolved := resolves_of_reply sound ran
      rw [declined] at resolved
      by_cases zero : reply.status = 0
      · cases (resolved.queued zero).2
      by_cases three : reply.status = 3
      · have updated := (resolved.updated three).2.symm
        exact absurd updated (update_undeclined (send_undeclined _ _ _ _) _ _ _)
      · obtain ⟨cause, rejects⟩ := rejects_of_ne zero three
        rw [(queue_of_reply sound ran).2, resolve_rejected rejects] at declined
        cases declined
        exact ⟨sound, rfl, reply, rfl, rejects, rfl⟩
  · rintro ⟨sound, rfl, reply, received, rejects, rfl⟩
    rw [(queue_of_reply sound (Prod.ext received rfl)).2, resolve_rejected rejects]
    rfl

end

/-- The message of a rejected call is the envelope's with its details, else the last error unless
that is blank, else the name of the status, and it is blank exactly if there is an envelope with a
blank message and no details. A document is rejected exactly for a sound name and a reply whose
status rejects it; the message is the last error, else the reason, and it is blank exactly if there
is a last error and that is blank. -/
theorem failures_worded {σ : Type} (reply : Reply) (handle : Surroundings.Handler σ) (state : σ)
    (documentId : String) (priority : Priority) :
    reply.rejection =
        .engineRejected reply.call.symbol reply.rejectionCode reply.bestMessage ∧
      reply.Best reply.bestMessage ∧
      (Text.Shows reply.bestMessage ↔ ∀ envelope, reply.envelope? = some envelope →
        envelope.details = none → Text.Shows envelope.message) ∧
      (∀ id reason message,
        ((queue documentId priority).run handle state).1 =
            .error (.queueRejected id reason message) ↔
          (∀ fault, ¬NameFault documentId fault) ∧ id = documentId ∧ ∃ answer : Reply,
            ((Client.send .queueDocument (Request.priority ⟨documentId⟩ priority).render none).run
              (handleRight handle) state).1 = .ok answer ∧
            Rejects answer.status reason ∧ message = answer.lastError.getD reason.message) ∧
      ∀ (reason : QueueRejection) (lastError : Option String),
        Text.Shows (lastError.getD reason.message) ↔
          ∀ detail, lastError = some detail → Text.Shows detail :=
  ⟨rfl, reply.best, reply.best.shows_iff, fun _ _ _ => queue_declined_iff,
    QueueRejection.words_show_iff⟩

/-- An engine that queues no document and whose last error is a blank. -/
def curt : Surroundings.Handler Unit
  | .inl .phase, state => (.foreground, state)
  | .inl (.post _), state => ((), state)
  | .inr (.invoke ..), state => (.ok (.statusOnly 1), state)
  | .inr (.read _), state => (Text.Terminated.cut [], state)
  | .inr (.release _), state => ((), state)
  | .inr .lastError, state => (some " ", state)

/-- A blank message of an envelope hides the last error, and a blank last error the reason. -/
theorem blank_words :
    let reply : Reply :=
      ⟨.cancel, 208, some "\x7b\"code\":\"CompressionError\",\"message\":\" \"\x7d",
        some "worker is shutting down"⟩
    ¬Text.Shows " " ∧ reply.isSuccess = false ∧ reply.bestMessage = " " ∧
      ((queue "doc-1" .high).run curt ()).1 = .error (.queueRejected "doc-1" .invalidId " ") := by
  intro reply
  refine ⟨Text.allBlank_iff.1 (by decide), by decide +kernel, by decide +kernel, ?_⟩
  rfl

end Compression.Documents

end BackgroundWork
