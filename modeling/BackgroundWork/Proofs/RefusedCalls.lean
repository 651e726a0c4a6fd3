import BackgroundWork.Proofs.BufferCustody
import BackgroundWork.Proofs.DocumentCalls
import BackgroundWork.Proofs.ReplyClassification

set_option autoImplicit false

/-!
Calls that are refused without entering the engine. The status of such a call is the caller's own,
but the client asks the engine about its last failure as after any other, and that may be of an
earlier call. Main statement: a refused call never enters the engine, and its failure is worded by
what the engine has left to say, so that two engines give the same failure exactly if they leave
the same words.
-/

namespace BackgroundWork.Engine.Native

open Json (Codec)
open Program (events_bind goes_run run_bind)
open Text (Terminated)

/-- A request or a token that has no terminated form, or a request for an export's status that
names no job. -/
def Refused (call : Call) (payload : String) (token : Option String) : Prop :=
  ∀ text, Gives call payload text → ¬Fits token text

/-- The words for a refused call, given what the engine says about its last failure. -/
def wording (detail : Option String) : String :=
  (detail.filter fun text => !Text.allBlank text).getD "InvalidArgument (2)"

section

variable {call : Call} {payload : String} {token : Option String}

theorem invoke_of_refused (refused : Refused call payload token) :
    invoke call payload token = .done (.ok (.statusOnly 2)) := by
  unfold invoke
  split
  next request handed fit fitToken =>
    obtain ⟨text, given, fit⟩ := argument?_eq_some_iff.1 fit
    have fits : Fits token text :=
      ⟨fits_iff.1 fit ▸ request.zero_not_mem, fits_iff.1 fitToken ▸ handed.zero_not_mem⟩
    exact absurd fits (refused text given)
  next => rfl

/-- A refused request comes back as a reply with the caller's own status. -/
theorem bridged_send_of_refused (refused : Refused call payload token) :
    bridged (Client.send call payload token) =
      lastError.bind fun detail => .done (.ok ⟨call, 2, none, detail⟩) := by
  show (invoke call payload token).bind _ = _
  rw [invoke_of_refused refused]
  rfl

/-- The words of a reply with the caller's own status. -/
theorem decode_refused {α : Type} (codec : Codec α) (detail : Option String) :
    (Reply.mk call 2 none detail).decode codec =
      .error (.engineRejected call.symbol 2 (wording detail)) := by
  have name : ErrorCode.describe 2 = "InvalidArgument (2)" := by decide +kernel
  have words : (Reply.mk call 2 none detail).bestMessage = wording detail := by
    cases detail with
    | none => exact name
    | some text =>
      simp only [Reply.bestMessage, Reply.envelope?, Option.bind_none, wording, Option.filter_some]
      cases Text.allBlank text with
      | false => rfl
      | true => exact name
  rw [Reply.decode_of_failed codec rfl, ← words]
  rfl

/-- A refused call asks the engine for nothing but its last failure. -/
theorem bridged_of_refused {α : Type} (codec : Codec α) (refused : Refused call payload token) :
    bridged (Client.callJson codec call (.ok payload) token) =
      lastError.bind fun detail =>
        .done (.error (.engineRejected call.symbol 2 (wording detail))) := by
  show Program.translate meaning ((Client.send call payload token).bind _) = _
  have sent := bridged_send_of_refused refused
  rw [bridged] at sent
  rw [Program.translate_bind, sent, Program.bind_assoc]
  refine congrArg lastError.bind (funext fun detail => ?_)
  rw [← decode_refused codec]
  rfl

theorem run_of_refused {α σ : Type} (codec : Codec α) (refused : Refused call payload token)
    (engine : interface.Handler σ) (state : σ) :
    ((bridged (Client.callJson codec call (.ok payload) token)).run engine state).1 =
      .error (.engineRejected call.symbol 2 (wording (lastError.run engine state).1)) := by
  rw [bridged_of_refused codec refused, run_bind]
  rfl

end

/-- A call that is refused never enters the engine, and fails with the status of an invalid argument
and the words that the engine has left about its last failure, if there are any that can be read
and are not blank. Two engines give the same failure exactly if they leave the same words. -/
theorem refusals_quote_last_error {α σ τ : Type} (codec : Codec α) {call : Call} {payload : String}
    {token : Option String} (refused : Refused call payload token)
    (engine : interface.Handler σ) (state : σ) (other : interface.Handler τ) (start : τ) :
    let asking := bridged (Client.callJson codec call (.ok payload) token)
    let words := wording (lastError.run engine state).1
    let otherWords := wording (lastError.run other start).1
    (asking.events engine state).filterMap entry? = [] ∧
      (asking.run engine state).1 = .error (.engineRejected call.symbol 2 words) ∧
      ((asking.run engine state).1 = (asking.run other start).1 ↔ words = otherWords) := by
  intro asking words otherWords
  have fails : (asking.run engine state).1 = .error (.engineRejected call.symbol 2 words) :=
    run_of_refused codec refused engine state
  have otherFails : (asking.run other start).1 =
      .error (.engineRejected call.symbol 2 otherWords) :=
    run_of_refused codec refused other start
  refine ⟨?_, fails, ?_⟩
  · have describing : Describing 2 (lastError.events engine state) :=
      goes_lastError (by decide) (goes_run engine lastError state)
    have whole : asking = _ := bridged_of_refused codec refused
    rw [whole, events_bind, List.filterMap_append, describing.asked.1]
    rfl
  · simp only [fails, otherFails, Except.error.injEq, ServiceError.engineRejected.injEq, true_and]

/-- An engine that keeps the words about its last failure. -/
def keeping : interface.Handler (Option String)
  | .enter .., words => ((0, none), words)
  | .read _, words => (Terminated.cut (Text.Utf8.encode (words.getD "")), words)
  | .free .., words => ((), words)
  | .getLastError, words => (words.map fun _ => 1, words)

/-- A token with a zero byte is refused. -/
theorem refused_zero_byte : Refused (.exportByIds .projects) "\x7b\x7d" (some "a\x00b") := by
  intro text given fits
  have zero : 0 ∈ Text.Utf8.encode "a\x00b" := by decide +kernel
  exact fits.2 zero

/-- To a refused call blank words are as good as none. -/
theorem blank_words_unquoted :
    let asking := bridged (Client.callJson Codec.value (.exportByIds .projects) (.ok "\x7b\x7d")
      (some "a\x00b"))
    Refused (.exportByIds .projects) "\x7b\x7d" (some "a\x00b") ∧
      (asking.events keeping (some " ")).filterMap entry? = [] ∧
      (asking.run keeping (some " ")).1 = (asking.run keeping none).1 := by
  obtain ⟨quiet, -, compared⟩ :=
    refusals_quote_last_error Codec.value refused_zero_byte keeping (some " ") keeping none
  exact ⟨refused_zero_byte, quiet, compared.2 (by decide +kernel)⟩

/-- The same refused call fails with the words of an earlier one if the engine has kept any. -/
theorem earlier_words_quoted :
    let asking := bridged (Client.callJson Codec.value (.exportByIds .projects) (.ok "\x7b\x7d")
      (some "a\x00b"))
    (asking.run keeping (some "codec failed for doc-7")).1 =
        .error (.engineRejected "export_projects_by_ids" 2 "codec failed for doc-7") ∧
      (asking.run keeping none).1 =
        .error (.engineRejected "export_projects_by_ids" 2 "InvalidArgument (2)") := by
  intro asking
  have kept : wording (lastError.run keeping (some "codec failed for doc-7")).1 =
      "codec failed for doc-7" := by decide +kernel
  have fails := run_of_refused Codec.value refused_zero_byte keeping
  have quoted := fails (some "codec failed for doc-7")
  rw [kept] at quoted
  exact ⟨quoted, fails none⟩

end BackgroundWork.Engine.Native
