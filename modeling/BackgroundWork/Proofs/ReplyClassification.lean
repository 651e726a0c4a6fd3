import BackgroundWork.Proofs.ClientRuns

set_option autoImplicit false

/-!
What a reply of the engine means. The code of an error envelope may be any JSON value, and each
stands for one status, which is zero only if the code reports success. Main statement: a reply is
data, a rejection or malformed, by its status and its body alone, and a rejection never carries
the code zero.
-/

namespace BackgroundWork.Engine

open Json (Value Codec)

/-! ### The code of an envelope -/

namespace ErrorCode

theorem ofName?_name (code : ErrorCode) : enumeration.ofName? code.name = some code := by
  cases code <;> rfl

theorem ofName?_eq_none {name : String} (unknown : ∀ code : ErrorCode, code.name ≠ name) :
    enumeration.ofName? name = none := by
  have absent : enumeration.names.find? (·.1 == name) = none := by
    rw [List.find?_eq_none]
    intro entry found
    obtain ⟨code, _, rfl⟩ := List.mem_map.1 found
    simpa using unknown code
  simp only [Json.Enumeration.ofName?, absent, Option.map_none]

theorem status_eq_zero {code : ErrorCode} (zero : code.status = 0) : code = success := by
  revert zero
  cases code <;> decide

end ErrorCode

namespace Envelope

/-- The status that the code of an envelope stands for: the one it names, or the one it is if it
is an integer of 32 bits. All other codes stand for an unknown error. -/
inductive CodeMeans : Value → Int32 → Prop
  | named (code : ErrorCode) : CodeMeans (.string code.name) code.status
  | misnamed {name : String} (unknown : ∀ code : ErrorCode, code.name ≠ name) :
      CodeMeans (.string name) ErrorCode.unknown.status
  | integer {n : Int} (least : -2147483648 ≤ n) (greatest : n < 2147483648) :
      CodeMeans (.number (.integer n)) (.ofInt n)
  | wide {n : Int} (outside : n < -2147483648 ∨ 2147483648 ≤ n) :
      CodeMeans (.number (.integer n)) ErrorCode.unknown.status
  | fraction (x : Numeric.Binary64) : CodeMeans (.number (.float x)) ErrorCode.unknown.status
  | null : CodeMeans .null ErrorCode.unknown.status
  | bool (value : Bool) : CodeMeans (.bool value) ErrorCode.unknown.status
  | list (items : List Value) : CodeMeans (.list items) ErrorCode.unknown.status
  | object (members : List (String × Value)) :
      CodeMeans (.object members) ErrorCode.unknown.status

/-- Whether a code reports success. -/
def ReportsSuccess (code : Value) : Prop :=
  code = .string "Success" ∨ code = .number (.integer 0)

theorem status_codeMeans (envelope : Envelope) : CodeMeans envelope.code envelope.status := by
  unfold status
  split
  · rename_i n held
    rw [held]
    by_cases inside : -2147483648 ≤ n ∧ n < 2147483648
    · simp only [inside, decide_true, Bool.and_self, ↓reduceIte]
      exact .integer inside.1 inside.2
    · have outside : n < -2147483648 ∨ 2147483648 ≤ n := by omega
      have fails : (decide (-2147483648 ≤ n) && decide (n < 2147483648)) = false := by
        simpa using fun least => Int.not_lt.1 fun greatest => inside ⟨least, greatest⟩
      rw [if_neg (by simp [fails])]
      exact .wide outside
  · rename_i name held
    rw [held]
    by_cases known : ∃ code : ErrorCode, code.name = name
    · obtain ⟨code, rfl⟩ := known
      rw [ErrorCode.ofName?_name]
      exact .named code
    · have unknown : ∀ code : ErrorCode, code.name ≠ name := fun code same => known ⟨code, same⟩
      rw [ErrorCode.ofName?_eq_none unknown]
      exact .misnamed unknown
  · rename_i notInteger notName
    cases held : envelope.code with
    | null => exact .null
    | bool value => exact .bool value
    | number number =>
      cases number with
      | integer n => exact absurd held (notInteger n)
      | float x => exact .fraction x
    | string name => exact absurd held (notName name)
    | list items => exact .list items
    | object members => exact .object members

theorem isSuccess_iff (envelope : Envelope) :
    envelope.isSuccess = true ↔ ReportsSuccess envelope.code := by
  unfold isSuccess ReportsSuccess
  split
  · rename_i name held
    simp [held]
  · rename_i code held
    simp [held]
  · rename_i notName notInteger
    simp only [Bool.false_eq_true, false_iff, not_or]
    exact ⟨notName _, notInteger _⟩

/-- Only a code that reports success stands for the status zero. -/
theorem CodeMeans.ne_zero {code : Value} {status : Int32} (means : CodeMeans code status)
    (failed : ¬ReportsSuccess code) : status ≠ 0 := by
  rintro rfl
  generalize zero : (0 : Int32) = status at means
  cases means with
  | named code =>
    obtain rfl := ErrorCode.status_eq_zero zero.symm
    exact failed (.inl rfl)
  | @integer n least greatest =>
    have value : (Int32.ofInt n).toInt = n :=
      Int32.toInt_ofInt_of_le (by simpa using least) (by simpa using greatest)
    rw [← zero] at value
    have none : n = 0 := value.symm
    exact failed (.inr (by rw [none]))
  | _ => exact absurd zero (by decide)

/-- A body holds an envelope if it reads as one whose code does not report success. -/
theorem ofBody?_eq_some_iff {body : String} {envelope : Envelope} :
    ofBody? body = some envelope ↔
      record.codec.ofText body = .ok envelope ∧ ¬ReportsSuccess envelope.code := by
  unfold ofBody?
  cases record.codec.ofText body with
  | error fault => simp
  | ok read =>
    simp only [← isSuccess_iff, Except.ok.injEq]
    cases succeeded : read.isSuccess with
    | false =>
      constructor
      · intro same
        obtain rfl := Option.some.inj same
        exact ⟨rfl, by simp [succeeded]⟩
      · exact fun same => congrArg some same.1
    | true =>
      constructor
      · exact nofun
      · rintro ⟨rfl, failed⟩
        exact absurd succeeded failed

end Envelope

/-! ### Replies -/

namespace Reply

variable {α : Type} {reply : Reply}

theorem isSuccess_iff :
    reply.isSuccess = true ↔
      reply.status = 0 ∧ ∀ body, reply.body = some body → Envelope.ofBody? body = none := by
  unfold isSuccess envelope?
  cases reply.body with
  | none => simp
  | some body => simp

theorem isSuccess_eq_false_iff :
    reply.isSuccess = false ↔
      reply.status ≠ 0 ∨
        ∃ body envelope, reply.body = some body ∧ Envelope.ofBody? body = some envelope := by
  unfold isSuccess envelope?
  cases held : reply.body with
  | none => simp
  | some body =>
    cases read : Envelope.ofBody? body with
    | none => simp [read]
    | some envelope => simp [read]

/-- What decoding a reply comes to. -/
inductive Decoding (codec : Codec α) (reply : Reply) : Except ServiceError α → Prop
  | rejected (failed : reply.isSuccess = false) : Decoding codec reply (.error reply.rejection)
  | bare (success : reply.isSuccess = true) (absent : reply.body = none) :
      Decoding codec reply
        (.error (.decode reply.call.symbol "engine returned no response body"))
  | malformed {body : String} {fault : Json.Fault} (success : reply.isSuccess = true)
      (held : reply.body = some body) (refused : codec.ofText body = .error fault) :
      Decoding codec reply (.error (.decode reply.call.symbol fault.message))
  | data {body : String} {value : α} (success : reply.isSuccess = true)
      (held : reply.body = some body) (read : codec.ofText body = .ok value) :
      Decoding codec reply (.ok value)

theorem decoding (codec : Codec α) (reply : Reply) :
    Decoding codec reply (reply.decode codec) := by
  unfold decode
  cases success : reply.isSuccess with
  | false => exact .rejected success
  | true =>
    cases held : reply.body with
    | none => exact .bare success held
    | some body =>
      simp only [Bool.not_true, Bool.false_eq_true, ↓reduceIte]
      cases read : codec.ofText body with
      | error fault => exact .malformed success held read
      | ok value => exact .data success held read

theorem decode_eq_ok_iff (codec : Codec α) (reply : Reply) (value : α) :
    reply.decode codec = .ok value ↔
      reply.isSuccess = true ∧ ∃ body, reply.body = some body ∧ codec.ofText body = .ok value := by
  have way := decoding codec reply
  generalize reply.decode codec = result at way
  cases way with
  | rejected failed => simp [failed]
  | bare success absent => simp [absent]
  | malformed success held refused => simp [held, refused]
  | data success held read => simp [success, held, read]

theorem decode_rejected_iff (codec : Codec α) (reply : Reply) (call : String) (code : Int32)
    (message : String) :
    reply.decode codec = .error (.engineRejected call code message) ↔
      reply.isSuccess = false ∧ call = reply.call.symbol ∧ code = reply.rejectionCode ∧
        message = reply.bestMessage := by
  have way := decoding codec reply
  generalize reply.decode codec = result at way
  cases way with
  | rejected failed =>
    simp only [rejection, failed, Except.error.injEq, ServiceError.engineRejected.injEq, true_and]
    exact ⟨fun ⟨a, b, c⟩ => ⟨a.symm, b.symm, c.symm⟩, fun ⟨a, b, c⟩ => ⟨a.symm, b.symm, c.symm⟩⟩
  | bare success absent => simp [success]
  | malformed success held refused => simp [success]
  | data success held read => simp [success]

theorem decode_malformed_iff (codec : Codec α) (reply : Reply) :
    (∃ call message, reply.decode codec = .error (.decode call message)) ↔
      reply.isSuccess = true ∧ (reply.body = none ∨
        ∃ body fault, reply.body = some body ∧ codec.ofText body = .error fault) := by
  have way := decoding codec reply
  generalize reply.decode codec = result at way
  cases way with
  | rejected failed => simp [rejection, failed]
  | bare success absent => simp [success, absent]
  | malformed success held refused => simp [success, held, refused]
  | data success held read => simp [held, read]

theorem decode_of_failed (codec : Codec α) (failed : reply.isSuccess = false) :
    reply.decode codec = .error reply.rejection := by
  unfold decode
  rw [failed]
  rfl

/-- The code of a rejection is the status unless that is zero, else what the code of the envelope
stands for. -/
theorem rejectionCode_ne_zero (failed : reply.isSuccess = false) :
    reply.rejectionCode ≠ 0 ∧ (reply.status ≠ 0 → reply.rejectionCode = reply.status) ∧
      (reply.status = 0 → ∃ body envelope, reply.body = some body ∧
        Envelope.ofBody? body = some envelope ∧
          Envelope.CodeMeans envelope.code reply.rejectionCode) := by
  by_cases zero : reply.status = 0
  · obtain unlike | ⟨body, envelope, held, read⟩ := isSuccess_eq_false_iff.1 failed
    · exact absurd zero unlike
    have found : reply.envelope? = some envelope := by rw [envelope?, held, Option.bind_some, read]
    have code : reply.rejectionCode = envelope.status := by
      simp only [rejectionCode, found, zero, ↓reduceIte]
    have means : Envelope.CodeMeans envelope.code reply.rejectionCode :=
      code ▸ envelope.status_codeMeans
    exact ⟨means.ne_zero (Envelope.ofBody?_eq_some_iff.1 read).2, absurd zero,
      fun _ => ⟨body, envelope, held, read, means⟩⟩
  · have code : reply.rejectionCode = reply.status := by
      unfold rejectionCode
      split
      · rw [if_neg zero]
      · rfl
    exact ⟨code ▸ zero, fun _ => code, fun other => absurd other zero⟩

end Reply

namespace Client

theorem accept_eq_ok_iff (reply : Reply) : accept reply = .ok () ↔ reply.isSuccess = true := by
  unfold accept
  cases reply.isSuccess <;> simp

theorem accept_of_failed {reply : Reply} (failed : reply.isSuccess = false) :
    accept reply = .error reply.rejection := by
  unfold accept
  rw [failed]
  rfl

/-- Where only the status matters a reply that came back is accepted or not. -/
theorem run_callStatus_of_sent {σ : Type} {handle : Bridge.interface.Handler σ} {state : σ}
    {call : Call} {payload : String} {reply : Reply}
    (sent : ((send call payload none).run handle state).1 = .ok reply) :
    ((callStatus call (.ok payload)).run handle state).1 = accept reply := by
  have whole := run_classified accept call payload none handle state
  rw [sent] at whole
  exact whole

end Client

/-- Whatever is asked for, a reply is its data exactly if its status is zero and it has a body that
is no error envelope and reads as the data; it is a rejection exactly if its status is not zero or
its body is an error envelope, and malformed otherwise. A rejection carries the status, or what
the code of the envelope stands for if the status is zero, and never the code zero. Where only the
status matters a reply succeeds exactly if it is no rejection. -/
theorem replies_classified {α : Type} (codec : Codec α) (reply : Reply) :
    (∀ value, reply.decode codec = .ok value ↔
      reply.status = 0 ∧ ∃ body, reply.body = some body ∧ Envelope.ofBody? body = none ∧
        codec.ofText body = .ok value) ∧
    ((∃ call code message, reply.decode codec = .error (.engineRejected call code message)) ↔
      reply.status ≠ 0 ∨
        ∃ body envelope, reply.body = some body ∧ Envelope.ofBody? body = some envelope) ∧
    ((∃ call message, reply.decode codec = .error (.decode call message)) ↔
      reply.status = 0 ∧ (reply.body = none ∨
        ∃ body fault, reply.body = some body ∧ Envelope.ofBody? body = none ∧
          codec.ofText body = .error fault)) ∧
    (∀ call code message, reply.decode codec = .error (.engineRejected call code message) →
      call = reply.call.symbol ∧ code ≠ 0 ∧ (reply.status ≠ 0 → code = reply.status) ∧
        (reply.status = 0 → ∃ body envelope, reply.body = some body ∧
          Envelope.ofBody? body = some envelope ∧ Envelope.CodeMeans envelope.code code)) ∧
    ∀ {σ : Type} (handle : Bridge.interface.Handler σ) (state : σ) (payload : String),
      ((Client.send reply.call payload none).run handle state).1 = .ok reply →
      let result := ((Client.callStatus reply.call (.ok payload)).run handle state).1
      (result = .ok () ↔ reply.isSuccess = true) ∧
        (reply.isSuccess = false →
          result = .error reply.rejection ∧ reply.decode codec = .error reply.rejection) := by
  refine ⟨fun value => ?_, ?_, ?_, ?_, ?_⟩
  · rw [Reply.decode_eq_ok_iff, Reply.isSuccess_iff]
    constructor
    · rintro ⟨⟨zero, data⟩, body, held, read⟩
      exact ⟨zero, body, held, data body held, read⟩
    · rintro ⟨zero, body, held, data, read⟩
      refine ⟨⟨zero, fun other found => ?_⟩, body, held, read⟩
      obtain rfl := Option.some.inj (held.symm.trans found)
      exact data
  · rw [← Reply.isSuccess_eq_false_iff]
    simp only [Reply.decode_rejected_iff]
    exact ⟨fun ⟨_, _, _, failed, _⟩ => failed, fun failed => ⟨_, _, _, failed, rfl, rfl, rfl⟩⟩
  · rw [Reply.decode_malformed_iff, Reply.isSuccess_iff]
    constructor
    · rintro ⟨⟨zero, data⟩, absent | ⟨body, fault, held, refused⟩⟩
      · exact ⟨zero, .inl absent⟩
      · exact ⟨zero, .inr ⟨body, fault, held, data body held, refused⟩⟩
    · rintro ⟨zero, absent | ⟨body, fault, held, data, refused⟩⟩
      · exact ⟨⟨zero, by simp [absent]⟩, .inl absent⟩
      · exact ⟨⟨zero, by simpa [held] using data⟩, .inr ⟨body, fault, held, refused⟩⟩
  · intro call code message rejected
    obtain ⟨failed, rfl, rfl, rfl⟩ := (Reply.decode_rejected_iff codec reply _ _ _).1 rejected
    exact ⟨rfl, Reply.rejectionCode_ne_zero failed⟩
  · intro σ handle state payload sent result
    have accepted : result = Client.accept reply := Client.run_callStatus_of_sent sent
    rw [accepted]
    exact ⟨Client.accept_eq_ok_iff reply, fun failed =>
      ⟨Client.accept_of_failed failed, Reply.decode_of_failed codec failed⟩⟩

end BackgroundWork.Engine
