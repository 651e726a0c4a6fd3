import BackgroundWork.Compression.Request
import BackgroundWork.Proofs.ReplyClassification
import BackgroundWork.Proofs.Utf8Reading

set_option autoImplicit false

/-!
What becomes of a status that is not zero on its way to the caller. The response is read before
anything else, so the status gets through exactly if there is no response or its bytes are those
of a text; the content of the text does not matter. Main statement: when a call fails with the
status the engine gave it, and that it fails as malformed otherwise.
-/

namespace BackgroundWork.Engine.Client

open Text (Terminated)

section

variable {σ : Type} {handle : Bridge.interface.Handler σ} {state after : σ} {raw : RawReply}

theorem run_send {call : Call} {payload : String} {token : Option String}
    (entered : handle (.invoke call payload token) state = (.ok raw, after)) :
    (send call payload token).run handle state = (receive call raw).run handle after := by
  simp only [send, bind, Bridge.invoke, Program.bind, Program.run, entered]

theorem run_receive_of_broken (call : Call) {buffer : Buffer} {fault : Text.Utf8.Fault}
    (held : raw.buffer = some buffer)
    (broken : Terminated.text (handle (.read buffer) state).1 = .error fault) :
    ∃ message, ((receive call raw).run handle state).1 = .error (.decode call.symbol message) := by
  simp only [receive, held, bind, Bridge.takeText, Program.bind, Program.run, broken, Except.map]
  exact ⟨_, rfl⟩

theorem run_receive_of_readable (call : Call)
    (readable : ∀ buffer, raw.buffer = some buffer →
      ∃ text, Terminated.text (handle (.read buffer) state).1 = .ok text) :
    ∃ reply, ((receive call raw).run handle state).1 = .ok reply ∧ reply.call = call ∧
      reply.status = raw.status := by
  unfold receive
  extract_lets classify
  have classified : ∀ (body : Option String) (state : σ),
      ∃ reply, ((classify (.ok body)).run handle state).1 = .ok reply ∧ reply.call = call ∧
        reply.status = raw.status := by
    intro body state
    by_cases success : raw.status = 0
    · simp only [classify, success, ↓reduceIte]
      exact ⟨_, rfl, rfl, rfl⟩
    · simp only [classify, success, ↓reduceIte]
      exact ⟨_, rfl, rfl, rfl⟩
  cases held : raw.buffer with
  | none => exact classified none state
  | some buffer =>
    obtain ⟨text, read⟩ := readable buffer held
    simp only [bind, Bridge.takeText, Program.bind, Program.run, read, Except.map]
    exact classified _ _

end

/-- How a program answers for the status of its call. -/
def KeepsStatus {α : Type} (call : Call) (payload : String) (token : Option String)
    (program : Program Bridge.interface (Except ServiceError α)) : Prop :=
  ∀ {σ : Type} (handle : Bridge.interface.Handler σ) (state after : σ) (raw : RawReply),
    handle (.invoke call payload token) state = (.ok raw, after) → raw.status ≠ 0 →
      let result := (program.run handle state).1
      let Readable := ∀ buffer, raw.buffer = some buffer →
        ∃ text, Terminated.bytes (handle (.read buffer) after).1 = Text.Utf8.encode text
      ((∃ message, result = .error (.engineRejected call.symbol raw.status message)) ↔
        Readable) ∧
      ((∃ message, result = .error (.decode call.symbol message)) ↔ ¬Readable)

theorem keepsStatus_of_rejects {α : Type} {classify : Reply → Except ServiceError α}
    (rejects : ∀ reply, reply.isSuccess = false → classify reply = .error reply.rejection)
    (call : Call) (payload : String) (token : Option String) :
    KeepsStatus call payload token (classified classify call payload token) := by
  intro σ handle state after raw entered failed result Readable
  have ended : result = ((receive call raw).run handle after).1.bind classify := by
    rw [← run_send entered]
    exact run_classified classify call payload token handle state
  -- The status is looked at only after the response was read.
  by_cases readable : Readable
  · have texts : ∀ buffer, raw.buffer = some buffer →
        ∃ text, Terminated.text (handle (.read buffer) after).1 = .ok text :=
      fun buffer held => (readable buffer held).imp fun _ => Text.Utf8.decode_eq_ok_iff.2
    obtain ⟨reply, received, rfl, same⟩ := run_receive_of_readable call texts
    have unlike : reply.status ≠ 0 := same ▸ failed
    have rejected : reply.isSuccess = false := Reply.isSuccess_eq_false_iff.2 (.inl unlike)
    have code : reply.rejectionCode = raw.status :=
      ((Reply.rejectionCode_ne_zero rejected).2.1 unlike).trans same
    have classified : result =
        .error (.engineRejected reply.call.symbol raw.status reply.bestMessage) := by
      rw [ended, received, ← code]
      exact rejects reply rejected
    exact ⟨iff_of_true ⟨_, classified⟩ readable,
      iff_of_false (by rw [classified]; exact nofun) (not_not_intro readable)⟩
  · have broken : ∃ buffer fault, raw.buffer = some buffer ∧
        Terminated.text (handle (.read buffer) after).1 = .error fault := by
      refine Classical.byContradiction fun sound => readable fun buffer held => ?_
      cases read : Terminated.text (handle (.read buffer) after).1 with
      | error fault => exact absurd ⟨buffer, fault, held, read⟩ sound
      | ok text => exact ⟨text, Text.Utf8.decode_eq_ok_iff.1 read⟩
    obtain ⟨buffer, fault, held, read⟩ := broken
    obtain ⟨message, received⟩ := run_receive_of_broken call held read
    have malformed : result = .error (.decode call.symbol message) := by
      rw [ended, received]
      rfl
    exact ⟨iff_of_false (by rw [malformed]; exact nofun) readable,
      iff_of_true ⟨_, malformed⟩ readable⟩

/-- A status that is not zero comes back to the caller as the code of a rejection exactly if there
is no response or its bytes are those of a text, whatever the text says. Otherwise the call fails
as malformed and the status is lost. -/
theorem status_kept_iff_readable {α : Type} (codec : Json.Codec α) (call : Call)
    (payload : String) (token : Option String) :
    KeepsStatus call payload token (callJson codec call (.ok payload) token) ∧
      KeepsStatus call "" none (fetch codec call) ∧
        KeepsStatus call payload none (callStatus call (.ok payload)) := by
  have decodes : ∀ reply : Reply, reply.isSuccess = false →
      reply.decode codec = .error reply.rejection := fun _ => Reply.decode_of_failed codec
  have accepts : ∀ reply : Reply, reply.isSuccess = false →
      accept reply = .error reply.rejection := fun _ => accept_of_failed
  exact ⟨keepsStatus_of_rejects decodes call payload token,
    keepsStatus_of_rejects decodes call "" none, keepsStatus_of_rejects accepts call payload none⟩

/-- An engine that rejects all requests, with a response of one byte. -/
def rejecting (status : Int32) (byte : UInt8) : Bridge.interface.Handler Unit
  | .invoke _ _ _, state => (.ok { status, buffer := some ⟨1, .compression⟩ }, state)
  | .read _, state => (Terminated.cut [byte], state)
  | .release _, state => ((), state)
  | .lastError, state => (none, state)

theorem status_lost_with_broken_response :
    let raw : RawReply := { status := 208, buffer := some ⟨1, .compression⟩ }
    let request := callJson Compression.cancelledAnswer.codec .cancel (.ok "\x7b\x7d") none
    rejecting 208 0xFF (.invoke .cancel "\x7b\x7d" none) () = (.ok raw, ()) ∧
      (request.run (rejecting 208 0xFF) ()).1 =
        .error (.decode "compression_cancel"
          "response is not valid UTF-8: invalid utf-8 sequence of 1 bytes from index 0") :=
  ⟨rfl, rfl⟩

end BackgroundWork.Engine.Client
