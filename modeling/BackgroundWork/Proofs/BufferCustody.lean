import BackgroundWork.Engine.Native
import BackgroundWork.Proofs.ClientRuns

set_option autoImplicit false

/-!
What a call does to the engine's symbols. It enters the engine once at most, it holds a buffer
from the moment the engine hands it over until it is given back to the symbol that takes it, and
it reads nothing that it does not hold. All that was handed over has been given back at the end,
whatever the engine answers.

Main statement: `send_returns_every_buffer`.
-/

namespace BackgroundWork.Engine.Native

open Json (Value)
open Program (Goes Spelled goes_done goes_ask goes_run spelled_nil spelled_cons spelled_append)
open Text (Terminated)
open Text.Utf8 (encode)

/-- What was asked of the engine's symbols, with its answer. -/
abbrev Event := interface.Event

/-! ### Entries, and buffers lent and returned -/

/-- The bytes of an argument; none of a place. -/
def Argument.bytes? : Argument → Option (List UInt8)
  | .text content => some content.bytes
  | .place => none

/-- A use of an entry point: its symbol, the bytes of each of its arguments, and the status it came
back with. -/
structure Entry where
  symbol : String
  arguments : List (Option (List UInt8))
  status : Int32
  deriving DecidableEq, Repr

/-- The use of an entry point that an event is, if it is one. -/
def entry? : Event → Option Entry
  | ⟨.enter symbol arguments, (status, _)⟩ =>
    some ⟨symbol, arguments.map Argument.bytes?, status⟩
  | ⟨.read _, _⟩ | ⟨.free .., _⟩ | ⟨.getLastError, _⟩ => none

/-- A buffer of the engine's in the caller's hands, and the symbol that takes it back. -/
structure Loan where
  address : Nat
  takenBackBy : String
  deriving DecidableEq, Repr

/-- The symbol that takes back the responses of an entry point. -/
def lender : Call → String
  | .exportByIds _ | .getExportStatus => "export_free"
  | _ => "compression_free"

/-- The buffer that the engine hands over during a call, if it does: the response of an entry point
that was handed a place for one, or a text about the last failure. -/
def lent? (call : Call) : Event → Option Loan
  | ⟨.enter _ arguments, (_, address)⟩ =>
    if .place ∈ arguments then address.map fun address => ⟨address, lender call⟩ else none
  | ⟨.getLastError, address⟩ => address.map fun address => ⟨address, "free_string"⟩
  | ⟨.read _, _⟩ | ⟨.free .., _⟩ => none

/-- The buffer that is given back, if one is. -/
def returned? : Event → Option Loan
  | ⟨.free deallocator address, _⟩ => some ⟨address, deallocator.symbol⟩
  | ⟨.enter .., _⟩ | ⟨.read _, _⟩ | ⟨.getLastError, _⟩ => none

/-- Whether the engine was asked about its last failure. -/
def asksLastError : Event → Bool
  | ⟨.getLastError, _⟩ => true
  | ⟨.enter .., _⟩ | ⟨.read _, _⟩ | ⟨.free .., _⟩ => false

/-- How often a call asks about the last failure that comes to this: once if the reply reports a
failure. -/
def questions : Except ServiceError Reply → Nat
  | .error _ => 0
  | .ok reply => if reply.status = 0 then 0 else 1

/-- The buffers held after an event of a call. There are none to speak of if it reads what is not
held, or gives it back, or gives it back to the wrong symbol. -/
def hold (call : Call) (held : List Loan) (event : Event) : Option (List Loan) :=
  match event.op with
  | .read address => if ∃ loan ∈ held, loan.address = address then some held else none
  | .free deallocator address =>
    let loan : Loan := ⟨address, deallocator.symbol⟩
    if loan ∈ held then some (held.erase loan) else none
  | .enter .. | .getLastError => some (held ++ (lent? call event).toList)

/-- What an entry point is handed as the text of a request. An export's status is asked for by the
bare job, which is the string that the request has as its member `job_id`; anything else by the
request itself. -/
def Gives (call : Call) (payload text : String) : Prop :=
  match call with
  | .getExportStatus =>
    ∃ value, Value.ofText payload = .ok value ∧ value.get? "job_id" = some (.string text)
  | _ => text = payload

/-- Whether neither a text nor a token holds a zero byte, which would end it early. -/
def Fits (token : Option String) (text : String) : Prop :=
  0 ∉ encode text ∧ 0 ∉ encode (token.getD "")

/-- The arguments of a call's entry point: the bytes of the request if it takes one, for exports by
ids the bytes of the token, and a place if it has a response. -/
def arguments (call : Call) (request token : List UInt8) : List (Option (List UInt8)) :=
  (if call.takesPayload then [some request] else []) ++
    (match call with
      | .exportByIds _ => [some token]
      | _ => []) ++
    (if call.returnsPayload then [none] else [])

/-- The uses of entry points that a request comes to, and the status that comes back: one at the
call's symbol with the bytes of the request and of the token, or, if these do not fit, none and
the status of an invalid argument. -/
def Enters (call : Call) (payload : String) (token : Option String) (status : Int32)
    (entries : List Entry) : Prop :=
  (∃ text, Gives call payload text ∧ Fits token text ∧
    entries =
      [⟨call.symbol, arguments call (encode text) (encode (token.getD "")), status⟩]) ∨
  (∀ text, Gives call payload text → ¬ Fits token text) ∧ entries = [] ∧ status = 2

theorem jobId?_eq_some_iff {payload text : String} :
    jobId? payload = some text ↔ Gives .getExportStatus payload text := by
  unfold jobId? Gives
  cases read : Value.ofText payload with
  | error fault =>
    constructor
    · rintro ⟨⟩
    · rintro ⟨value, same, -⟩
      cases same
  | ok value =>
    constructor
    · intro named
      obtain ⟨member, found, isText⟩ := Option.bind_eq_some_iff.1 named
      cases member with
      | string _ =>
        cases isText
        exact ⟨value, rfl, found⟩
      | _ => cases isText
    · rintro ⟨_, ⟨⟩, found⟩
      exact Option.bind_eq_some_iff.2 ⟨_, found, rfl⟩

theorem argument?_eq_some_iff {call : Call} {payload : String} {request : Terminated} :
    argument? call payload = some request ↔
      ∃ text, Gives call payload text ∧ Terminated.ofText? text = some request := by
  cases call with
  | getExportStatus =>
    rw [argument?, Option.bind_eq_some_iff]
    exact exists_congr fun text => and_congr_left' jobId?_eq_some_iff
  | _ =>
    constructor
    · intro fit
      exact ⟨payload, rfl, fit⟩
    · rintro ⟨_, rfl, fit⟩
      exact fit

theorem entrance_bytes (call : Call) (request token : Terminated) :
    (entrance request token call).arguments.map Argument.bytes? =
      arguments call request.bytes token.bytes := by
  rw [entrance_arguments]
  cases call <;> rfl

/-! ### The ways through a call -/

/-- How the engine is entered with a request and a token, and the raw reply that comes of it. -/
inductive Entering (call : Call) (payload : String) (token : Option String) :
    List Event → RawReply → Prop
  | refused
      (unfit : argument? call payload = none ∨ Terminated.ofText? (token.getD "") = none) :
      Entering call payload token [] ⟨2, none⟩
  | entered {text : String} {request handed : Terminated} (status : Int32)
      (address : Option Nat) (given : Gives call payload text)
      (fit : Terminated.ofText? text = some request)
      (fitToken : Terminated.ofText? (token.getD "") = some handed) :
      Entering call payload token
        [⟨.enter (entrance request handed call).symbol (entrance request handed call).arguments,
          (status, address)⟩]
        ⟨status, (if .place ∈ (entrance request handed call).arguments then address else none).map
          fun address => ⟨address, call.deallocator⟩⟩

/-- How a response is read and given back. -/
inductive Taking : Option Buffer → List Event → Prop
  | absent : Taking none []
  | present (buffer : Buffer) (content : Terminated) :
      Taking (some buffer)
        [⟨.read buffer.address, content⟩, ⟨.free buffer.deallocator buffer.address, ()⟩]

/-- How the engine is asked about a failure after a status, and its text read and given back. -/
inductive Describing : Int32 → List Event → Prop
  | success : Describing 0 []
  | silent {status : Int32} (failed : status ≠ 0) : Describing status [⟨.getLastError, none⟩]
  | told {status : Int32} (failed : status ≠ 0) (address : Nat) (content : Terminated) :
      Describing status
        [⟨.getLastError, some address⟩, ⟨.read address, content⟩,
          ⟨.free .errorText address, ()⟩]

/-- How a request is sent: the engine is asked about a failure only once the response was
readable. -/
inductive Sent (call : Call) (payload : String) (token : Option String) :
    List Event → Except ServiceError Reply → Prop
  | unreadable {entering taking : List Event} {raw : RawReply} (error : ServiceError)
      (entered : Entering call payload token entering raw) (taken : Taking raw.buffer taking) :
      Sent call payload token (entering ++ taking) (.error error)
  | received {entering taking describing : List Event} {raw : RawReply} (reply : Reply)
      (entered : Entering call payload token entering raw) (taken : Taking raw.buffer taking)
      (described : Describing raw.status describing) (same : reply.status = raw.status) :
      Sent call payload token (entering ++ taking ++ describing) (.ok reply)

section

variable {call : Call} {payload : String} {token : Option String} {events : List Event}

theorem goes_invoke {answer : Except String RawReply}
    (goes : Goes (invoke call payload token) events answer) :
    ∃ raw, answer = .ok raw ∧ Entering call payload token events raw := by
  unfold invoke at goes
  split at goes
  next request handed fit fitToken =>
    obtain ⟨text, given, fit⟩ := argument?_eq_some_iff.1 fit
    obtain ⟨⟨status, address⟩, later, rfl, ended⟩ := goes_ask.1 goes
    obtain ⟨rfl, rfl⟩ := goes_done.1 ended
    exact ⟨_, rfl, .entered status address given fit fitToken⟩
  next unfit =>
    obtain ⟨rfl, rfl⟩ := goes_done.1 goes
    refine ⟨_, rfl, .refused ?_⟩
    cases fit : argument? call payload with
    | none => exact .inl rfl
    | some request =>
      cases fitToken : Terminated.ofText? (token.getD "") with
      | none => exact .inr rfl
      | some handed => exact (unfit request handed fit fitToken).elim

theorem goes_lastError {detail : Option String} {status : Int32} (failed : status ≠ 0)
    (goes : Goes lastError events detail) : Describing status events := by
  obtain ⟨address, later, rfl, told⟩ := goes_ask.1 goes
  cases address with
  | none =>
    obtain ⟨rfl, -⟩ := goes_done.1 told
    exact .silent failed
  | some address =>
    obtain ⟨content, freeing, rfl, reading⟩ := goes_ask.1 told
    obtain ⟨-, last, rfl, ended⟩ := goes_ask.1 reading
    obtain ⟨rfl, -⟩ := goes_done.1 ended
    exact .told failed address content

theorem spelled_reading {buffer : Option Buffer} {outer : List Client.Event}
    {body : Except Text.Utf8.Fault (Option String)} (reading : Client.Reading buffer outer body)
    (spelled : Spelled meaning outer events) : Taking buffer events := by
  cases reading with
  | absent =>
    rw [spelled_nil.1 spelled]
    exact .absent
  | present buffer content =>
    obtain ⟨reading, later, rfl, read, others⟩ := spelled_cons.1 spelled
    obtain ⟨freeing, rest, rfl, freed, nothing⟩ := spelled_cons.1 others
    obtain ⟨answer, last, rfl, ended⟩ := goes_ask.1 read
    obtain ⟨rfl, rfl⟩ := goes_done.1 ended
    obtain ⟨answer, last, rfl, ended⟩ := goes_ask.1 freed
    obtain ⟨rfl, -⟩ := goes_done.1 ended
    rw [spelled_nil.1 nothing]
    exact .present buffer content

theorem spelled_asking {status : Int32} {outer : List Client.Event} {detail : Option String}
    (asking : Client.Asking status outer detail) (spelled : Spelled meaning outer events) :
    Describing status events := by
  cases asking with
  | success =>
    rw [spelled_nil.1 spelled]
    exact .success
  | failure failed detail =>
    obtain ⟨part, later, rfl, told, spelled⟩ := spelled_cons.1 spelled
    rw [spelled_nil.1 spelled, List.append_nil]
    exact goes_lastError failed told

theorem goes_send {answer : Except ServiceError Reply}
    (goes : Goes (bridged (Client.send call payload token)) events answer) :
    Sent call payload token events answer := by
  obtain ⟨outer, sends, spelled⟩ := goes.of_translate
  cases Client.goes_send sends with
  | panicked panic =>
    -- The symbols always come back.
    obtain ⟨part, later, rfl, invoked, -⟩ := spelled_cons.1 spelled
    obtain ⟨raw, impossible, -⟩ := goes_invoke invoked
    cases impossible
  | received receiving =>
    obtain ⟨part, later, rfl, invoked, spelled⟩ := spelled_cons.1 spelled
    obtain ⟨raw, same, entered⟩ := goes_invoke invoked
    cases same
    cases receiving with
    | unreadable reading => exact .unreadable _ entered (spelled_reading reading spelled)
    | received reading asking =>
      obtain ⟨taking, describing, rfl, taken, described⟩ := spelled_append.1 spelled
      rw [← List.append_assoc]
      exact .received _ entered (spelled_reading reading taken)
        (spelled_asking asking described) rfl

end

/-! ### What each part does -/

/-- A buffer as one that is owed to the engine. -/
def owed (buffer : Option Buffer) : List Loan :=
  buffer.toList.map fun buffer => ⟨buffer.address, buffer.deallocator.symbol⟩

theorem deallocator_symbol (call : Call) : call.deallocator.symbol = lender call := by
  cases call <;> rfl

theorem fits_iff {text : String} {terminated : Terminated} :
    Terminated.ofText? text = some terminated ↔ terminated.bytes = encode text := by
  unfold Terminated.ofText?
  extract_lets bytes
  split
  next zero =>
    constructor
    · rintro ⟨⟩
    · intro same
      exact absurd (same ▸ zero) terminated.zero_not_mem
  next free =>
    constructor
    · rintro ⟨⟩
      rfl
    · rintro same
      obtain ⟨held, zero⟩ := terminated
      cases same
      rfl

section

variable {call : Call} {payload : String} {token : Option String} {events : List Event}

theorem Entering.held {raw : RawReply} (entering : Entering call payload token events raw) :
    events.foldlM (hold call) [] = some (owed raw.buffer) ∧
      events.filterMap (lent? call) = owed raw.buffer ∧ events.filterMap returned? = [] := by
  cases entering with
  | refused unfit => exact ⟨rfl, rfl, rfl⟩
  | @entered _ request handed status address given fit fitToken =>
    by_cases responds : .place ∈ (entrance request handed call).arguments
    · cases address with
      | none => simp [hold, lent?, returned?, owed]
      | some address => simp [hold, lent?, returned?, owed, responds, deallocator_symbol]
    · simp [hold, lent?, returned?, owed, responds]

theorem Taking.held {buffer : Option Buffer} (taking : Taking buffer events) (call : Call) :
    events.foldlM (hold call) (owed buffer) = some [] ∧
      events.filterMap (lent? call) = [] ∧ events.filterMap returned? = owed buffer := by
  cases taking with
  | absent => exact ⟨rfl, rfl, rfl⟩
  | present buffer content => exact ⟨by simp [hold, owed], rfl, rfl⟩

theorem Describing.held {status : Int32} (describing : Describing status events) (call : Call) :
    events.foldlM (hold call) [] = some [] ∧
      events.filterMap returned? = events.filterMap (lent? call) := by
  cases describing with
  | success => exact ⟨rfl, rfl⟩
  | silent failed => exact ⟨rfl, rfl⟩
  | told failed address content => exact ⟨by simp [hold, lent?, Deallocator.symbol], rfl⟩

theorem Entering.enters {raw : RawReply} (entering : Entering call payload token events raw) :
    Enters call payload token raw.status (events.filterMap entry?) := by
  cases entering with
  | refused unfit =>
    refine .inr ⟨fun text given fits => ?_, rfl, rfl⟩
    obtain unfit | unfit := unfit
    · have fit : Terminated.ofText? text = some ⟨encode text, fits.1⟩ := fits_iff.2 rfl
      have found := argument?_eq_some_iff.2 ⟨text, given, fit⟩
      exact absurd (unfit.symm.trans found) nofun
    · have fit : Terminated.ofText? (token.getD "") = some ⟨encode (token.getD ""), fits.2⟩ :=
        fits_iff.2 rfl
      exact absurd (unfit.symm.trans fit) nofun
  | @entered text request handed status address given fit fitToken =>
    have bytes := fits_iff.1 fit
    have tokenBytes := fits_iff.1 fitToken
    have fits : Fits token text :=
      ⟨bytes ▸ request.zero_not_mem, tokenBytes ▸ handed.zero_not_mem⟩
    refine .inl ⟨text, given, fits, ?_⟩
    simp only [List.filterMap_cons, List.filterMap_nil, entry?, entrance_symbol, entrance_bytes,
      bytes, tokenBytes]

theorem Taking.quiet {buffer : Option Buffer} (taking : Taking buffer events) :
    events.filterMap entry? = [] ∧ events.countP asksLastError = 0 := by
  cases taking <;> exact ⟨rfl, rfl⟩

theorem Describing.asked {status : Int32} (describing : Describing status events) :
    events.filterMap entry? = [] ∧
      events.countP asksLastError = if status = 0 then 0 else 1 := by
  cases describing with
  | success => exact ⟨rfl, rfl⟩
  | silent failed =>
    rw [if_neg failed]
    exact ⟨rfl, rfl⟩
  | told failed address content =>
    rw [if_neg failed]
    exact ⟨rfl, rfl⟩

theorem Entering.quiet {raw : RawReply} (entering : Entering call payload token events raw) :
    events.countP asksLastError = 0 := by
  cases entering <;> rfl

/-! ### The whole call -/

variable {answer : Except ServiceError Reply}

theorem Sent.enters (sent : Sent call payload token events answer) :
    ∃ status, Enters call payload token status (events.filterMap entry?) ∧
      ∀ reply, answer = .ok reply → reply.status = status := by
  cases sent with
  | @unreadable entering taking raw error entered taken =>
    refine ⟨raw.status, ?_, nofun⟩
    rw [List.filterMap_append, taken.quiet.1, List.append_nil]
    exact entered.enters
  | @received entering taking describing raw reply entered taken described same =>
    refine ⟨raw.status, ?_, ?_⟩
    · rw [List.filterMap_append, List.filterMap_append, taken.quiet.1, described.asked.1,
        List.append_nil, List.append_nil]
      exact entered.enters
    · rintro _ ⟨⟩
      exact same

theorem Sent.asked (sent : Sent call payload token events answer) :
    events.countP asksLastError = questions answer := by
  cases sent with
  | unreadable error entered taken =>
    rw [List.countP_append, entered.quiet, taken.quiet.2, questions]
  | received reply entered taken described same =>
    rw [List.countP_append, List.countP_append, entered.quiet, taken.quiet.2, described.asked.2,
      questions, same, Nat.zero_add]

theorem Sent.held (sent : Sent call payload token events answer) :
    events.foldlM (hold call) [] = some [] ∧
      events.filterMap returned? = events.filterMap (lent? call) := by
  have opening : ∀ {entering taking raw}, Entering call payload token entering raw →
      Taking raw.buffer taking → (entering ++ taking).foldlM (hold call) [] = some [] ∧
        (entering ++ taking).filterMap returned? =
          (entering ++ taking).filterMap (lent? call) := by
    intro entering taking raw entered taken
    obtain ⟨handed, lent, returned⟩ := entered.held
    obtain ⟨given, lentThere, returnedThere⟩ := taken.held call
    rw [List.foldlM_append, handed, List.filterMap_append, List.filterMap_append, lent, returned,
      lentThere, returnedThere, List.append_nil]
    exact ⟨given, rfl⟩
  cases sent with
  | unreadable error entered taken => exact opening entered taken
  | received reply entered taken described same =>
    obtain ⟨settled, returned⟩ := opening entered taken
    rw [List.foldlM_append, settled, List.filterMap_append, List.filterMap_append (f := lent? call),
      returned, (described.held call).2]
    exact ⟨(described.held call).1, rfl⟩

end

/-- Sending a request over the engine's symbols. The engine is entered once at the call's symbol,
with the bytes of the request and of the token, unless these do not fit. A buffer is held from
where it is handed over until it is given back: what is read or given back is held at that
moment, each loan returns to its lender, and none is left at the end, whether or not the answer is
a reply. The last error is asked for if a reply has the status of a failure, and not otherwise. -/
theorem send_returns_every_buffer {σ : Type} (handle : interface.Handler σ) (state : σ)
    (call : Call) (payload : String) (token : Option String) :
    let sending := bridged (Client.send call payload token)
    let events := sending.events handle state
    let answer := (sending.run handle state).1
    (∃ status, Enters call payload token status (events.filterMap entry?) ∧
      ∀ reply, answer = .ok reply → reply.status = status) ∧
    events.foldlM (hold call) [] = some [] ∧
    events.filterMap returned? = events.filterMap (lent? call) ∧
    events.countP asksLastError = questions answer := by
  intro sending events answer
  have sent : Sent call payload token events answer := goes_send (goes_run handle sending state)
  obtain ⟨held, returned⟩ := sent.held
  exact ⟨sent.enters, held, returned, sent.asked⟩

example (call : Call) (content : Terminated) :
    let events : List Event :=
      [⟨.getLastError, some 7⟩, ⟨.free .errorText 7, ()⟩, ⟨.read 7, content⟩]
    events.foldlM (hold call) [] = none := rfl

end BackgroundWork.Engine.Native
