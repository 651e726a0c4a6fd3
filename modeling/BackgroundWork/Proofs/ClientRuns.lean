import BackgroundWork.Engine.Client
import BackgroundWork.Proofs.EngineCalls
import BackgroundWork.Proofs.ProgramRuns

set_option autoImplicit false

/-!
The ways through a call to the engine. Reading a response, asking for the last error, receiving a
reply and sending a request have one rule each, and a call whose reply is classified goes as its
request was sent.
-/

namespace BackgroundWork.Engine.Client

open Program (Goes bind_assoc goes_done goes_ask goes_bind run_bind)
open Text (Terminated)

/-- What was asked at the boundary, with its answer. -/
abbrev Event := Bridge.interface.Event

/-- How a response is read, and the body that comes of it. -/
inductive Reading : Option Buffer → List Event → Except Text.Utf8.Fault (Option String) → Prop
  | absent : Reading none [] (.ok none)
  | present (buffer : Buffer) (content : Terminated) :
      Reading (some buffer) [⟨.read buffer, content⟩, ⟨.release buffer, ()⟩]
        (content.text.map some)

/-- How the last error is asked for after a status. -/
inductive Asking : Int32 → List Event → Option String → Prop
  | success : Asking 0 [] none
  | failure {status : Int32} (failed : status ≠ 0) (detail : Option String) :
      Asking status [⟨.lastError, detail⟩] detail

/-- How a raw reply becomes a reply, or why it does not. -/
inductive Receiving (call : Call) (raw : RawReply) : List Event → Except ServiceError Reply → Prop
  | unreadable {reading : List Event} {fault : Text.Utf8.Fault}
      (read : Reading raw.buffer reading (.error fault)) :
      Receiving call raw reading
        (.error (.decode call.symbol s!"response is not valid UTF-8: {fault.message}"))
  | received {reading asking : List Event} {body lastError : Option String}
      (read : Reading raw.buffer reading (.ok body))
      (asked : Asking raw.status asking lastError) :
      Receiving call raw (reading ++ asking)
        (.ok { call, status := raw.status, body, lastError })

/-- How a request is sent, and the reply that comes back. -/
inductive Sending (call : Call) (payload : String) (token : Option String) :
    List Event → Except ServiceError Reply → Prop
  | panicked (panic : String) :
      Sending call payload token [⟨.invoke call payload token, .error panic⟩]
        (.error (.transport call.symbol
          s!"engine task did not complete: {(TaskFailure.panicked panic).message}"))
  | received {raw : RawReply} {later : List Event} {answer : Except ServiceError Reply}
      (receiving : Receiving call raw later answer) :
      Sending call payload token (⟨.invoke call payload token, .ok raw⟩ :: later) answer

section

variable {call : Call} {events : List Event} {payload : String} {token : Option String}

theorem goes_takeText {buffer : Buffer} {text : Except Text.Utf8.Fault String}
    (goes : Goes (Bridge.takeText buffer) events text) :
    ∃ content : Terminated,
      events = [⟨.read buffer, content⟩, ⟨.release buffer, ()⟩] ∧ text = content.text := by
  obtain ⟨content, later, rfl, reading⟩ := goes_ask.1 goes
  obtain ⟨_, last, rfl, releasing⟩ := goes_ask.1 reading
  obtain ⟨rfl, rfl⟩ := goes_done.1 releasing
  exact ⟨content, rfl, rfl⟩

theorem goes_receive {raw : RawReply} {answer : Except ServiceError Reply}
    (goes : Goes (receive call raw) events answer) : Receiving call raw events answer := by
  unfold receive at goes
  extract_lets classify at goes
  -- What follows the reading is the same with and without a buffer.
  have classified : ∀ {reading later : List Event}
      {body : Except Text.Utf8.Fault (Option String)},
      Reading raw.buffer reading body → Goes (classify body) later answer →
        Receiving call raw (reading ++ later) answer := by
    intro reading later body read classifies
    cases body with
    | error fault =>
      obtain ⟨rfl, rfl⟩ := goes_done.1 classifies
      rw [List.append_nil]
      exact .unreadable read
    | ok body =>
      by_cases success : raw.status = 0
      · simp only [classify, success, ↓reduceIte] at classifies
        obtain ⟨rfl, rfl⟩ := goes_done.1 classifies
        have asked : Asking raw.status [] none := success ▸ Asking.success
        rw [← success]
        exact .received read asked
      · simp only [classify, success, ↓reduceIte] at classifies
        obtain ⟨detail, last, rfl, answers⟩ := goes_ask.1 classifies
        obtain ⟨rfl, rfl⟩ := goes_done.1 answers
        exact .received read (.failure success _)
  cases held : raw.buffer with
  | none =>
    simp only [held] at goes
    have read : Reading raw.buffer [] (.ok none) := held ▸ Reading.absent
    exact classified read goes
  | some buffer =>
    simp only [held] at goes
    change Goes (((Bridge.takeText buffer).bind fun text => .done (text.map some)).bind classify)
      events answer at goes
    rw [bind_assoc] at goes
    obtain ⟨taking, text, later, rfl, taken, classifies⟩ := goes_bind.1 goes
    obtain ⟨content, rfl, rfl⟩ := goes_takeText taken
    have read : Reading raw.buffer _ (content.text.map some) :=
      held ▸ Reading.present buffer content
    exact classified read classifies

theorem goes_send {answer : Except ServiceError Reply}
    (goes : Goes (send call payload token) events answer) :
    Sending call payload token events answer := by
  obtain ⟨entry, later, rfl, answers⟩ := goes_ask.1 goes
  cases entry with
  | error panic =>
    obtain ⟨rfl, rfl⟩ := goes_done.1 answers
    exact .panicked panic
  | ok raw => exact .received (goes_receive answers)

end

/-! ### Entries into the engine -/

section

variable {call : Call} {payload : String} {token : Option String} {events : List Event}

theorem Reading.quiet {buffer : Option Buffer}
    {body : Except Text.Utf8.Fault (Option String)} (reading : Reading buffer events body) :
    ∀ event ∈ events, invocation? event.op = none := by
  cases reading <;> simp [invocation?]

theorem Asking.quiet {status : Int32} {detail : Option String}
    (asking : Asking status events detail) : ∀ event ∈ events, invocation? event.op = none := by
  cases asking <;> simp [invocation?]

theorem Receiving.quiet {raw : RawReply} {answer : Except ServiceError Reply}
    (receiving : Receiving call raw events answer) :
    ∀ event ∈ events, invocation? event.op = none := by
  cases receiving with
  | unreadable read => exact read.quiet
  | received read asked =>
    intro event among
    obtain among | among := List.mem_append.1 among
    · exact read.quiet event among
    · exact asked.quiet event among

theorem Sending.entries {answer : Except ServiceError Reply}
    (sending : Sending call payload token events answer) :
    events.filterMap (fun event => invocation? event.op) = [⟨call, payload, token⟩] := by
  cases sending with
  | panicked panic => rfl
  | received receiving =>
    have later := List.filterMap_eq_nil_iff.2 receiving.quiet
    exact congrArg (⟨call, payload, token⟩ :: ·) later

end

/-! ### Calls whose replies are classified -/

/-- A request that is sent, and its reply classified. -/
def classified {α : Type} (classify : Reply → Except ServiceError α) (call : Call)
    (payload : String) (token : Option String) :
    Program Bridge.interface (Except ServiceError α) :=
  (send call payload token).bind fun
    | .error error => .done (.error error)
    | .ok reply => .done (classify reply)

/-- What a reply of an entry point comes to whose status is all that matters. -/
def accept (reply : Reply) : Except ServiceError Unit :=
  if reply.isSuccess then .ok () else .error reply.rejection

theorem run_classified {α σ : Type} (classify : Reply → Except ServiceError α) (call : Call)
    (payload : String) (token : Option String) (handle : Bridge.interface.Handler σ)
    (state : σ) :
    ((classified classify call payload token).run handle state).1 =
      ((send call payload token).run handle state).1.bind classify := by
  have whole := run_bind handle (send call payload token) (fun
    | .error error => .done (.error error)
    | .ok reply => .done (classify reply)) state
  refine (congrArg Prod.fst whole).trans ?_
  cases ((send call payload token).run handle state).1 with
  | error error => rfl
  | ok reply => rfl

/-- How a call goes that encodes a request, sends it and classifies the reply. -/
inductive Calling {α : Type} (call : Call) (request : Request) (token : Option String)
    (classify : Reply → Except ServiceError α) : List Event → Except ServiceError α → Prop
  | unencodable {reason : String} (refused : request = .error reason) :
      Calling call request token classify [] (.error (.encode call.symbol reason))
  | sent {payload : String} {events : List Event} {answer : Except ServiceError Reply}
      (encoded : request = .ok payload) (sending : Sending call payload token events answer) :
      Calling call request token classify events (answer.bind classify)

section

variable {α : Type} {codec : Json.Codec α} {call : Call} {request : Request} {payload : String}
  {token : Option String} {events : List Event}

theorem Calling.entries {classify : Reply → Except ServiceError α}
    {result : Except ServiceError α}
    (calling : Calling call (.ok payload) token classify events result) :
    events.filterMap (fun event => invocation? event.op) = [⟨call, payload, token⟩] := by
  cases calling with
  | unencodable refused => exact absurd refused nofun
  | sent encoded sending =>
    cases encoded
    exact sending.entries

theorem goes_classified {classify : Reply → Except ServiceError α}
    {result : Except ServiceError α}
    (goes : Goes (classified classify call payload token) events result) :
    Calling call (.ok payload) token classify events result := by
  obtain ⟨sending, answer, later, rfl, sent, ended⟩ := goes_bind.1 goes
  have calling : Calling call (.ok payload) token classify sending (answer.bind classify) :=
    .sent rfl (goes_send sent)
  cases answer with
  | error error =>
    obtain ⟨rfl, rfl⟩ := goes_done.1 ended
    rwa [List.append_nil]
  | ok reply =>
    obtain ⟨rfl, rfl⟩ := goes_done.1 ended
    rwa [List.append_nil]

theorem goes_callJson {result : Except ServiceError α}
    (goes : Goes (callJson codec call request token) events result) :
    Calling call request token (Reply.decode codec) events result := by
  cases request with
  | error reason =>
    obtain ⟨rfl, rfl⟩ := goes_done.1 goes
    exact .unencodable rfl
  | ok payload => exact goes_classified goes

/-- A request whose reply is decoded enters the engine first of all, and never again. -/
theorem goes_sendFor_cons {result : Except ServiceError α}
    (goes : Goes (sendFor codec call payload token) events result) :
    ∃ entry later, events = ⟨.invoke call payload token, entry⟩ :: later ∧
      ∀ event ∈ later, invocation? event.op = none := by
  have calling : Calling call (.ok payload) token (Reply.decode codec) events result :=
    goes_classified goes
  cases calling with
  | unencodable refused => cases refused
  | sent encoded sending =>
    cases encoded
    cases sending with
    | panicked panic => exact ⟨_, [], rfl, nofun⟩
    | received receiving => exact ⟨_, _, rfl, receiving.quiet⟩

end

end BackgroundWork.Engine.Client
