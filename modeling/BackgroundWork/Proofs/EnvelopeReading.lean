import BackgroundWork.Proofs.ReplyClassification
import BackgroundWork.Proofs.TypedReading

set_option autoImplicit false

/-!
Which bodies other than objects are taken for error envelopes. A list is, if it holds a code, a
message and at most the details, in this order: an envelope is a record, and a record is read from
a list too. Main statement: a reply with the status zero whose body opens no brace comes to what
its body reads as, unless the body is such a list and its code does not report success. Then the
data is lost and the reply is a rejection.
-/

namespace BackgroundWork.Engine

open Json (Value Codec)

namespace Envelope

/-- The elements of a list that is taken for an envelope. -/
inductive Listed : List Value → Envelope → Prop
  | brief (code : Value) (message : String) :
      Listed [code, .string message] ⟨code, message, none⟩
  | empty (code : Value) (message : String) :
      Listed [code, .string message, .null] ⟨code, message, none⟩
  | detailed (code : Value) (message details : String) :
      Listed [code, .string message, .string details] ⟨code, message, some details⟩

/-- What a value means for the members of an envelope. -/
def meanings : Json.Meanings record.types :=
  (Eq, fun value text => value = .string text,
    Codec.Optional fun value text => value = .string text, ())

theorem fields_read : record.fields.Reads meanings :=
  ⟨Codec.value_reads, Codec.string_reads, Codec.option_reads Codec.string_reads, trivial⟩

theorem lists_iff {values : List Value} {parts : Json.Values record.types} :
    record.fields.Lists meanings values parts ↔ Listed values (record.make parts) := by
  obtain ⟨code, message, details, ⟨⟩⟩ := parts
  constructor
  · intro lists
    match values, details, lists with
    | [_, _], _, ⟨rfl, rfl, rfl, rfl⟩ => exact .brief _ _
    | [_, _, _], none, ⟨rfl, rfl, rfl, rfl⟩ => exact .empty _ _
    | [_, _, _], some _, ⟨rfl, rfl, ⟨_, rfl⟩, rfl⟩ => exact .detailed _ _ _
  · intro listed
    cases listed with
    | brief => exact ⟨rfl, rfl, rfl, rfl⟩
    | empty => exact ⟨rfl, rfl, rfl, rfl⟩
    | detailed => exact ⟨rfl, rfl, ⟨nofun, rfl⟩, rfl⟩

/-- A text that reads as a value other than an object opens no brace. -/
theorem opens_no_brace {body : String} {value : Value} (read : Value.ofText body = .ok value)
    (other : ∀ members, value ≠ .object members) :
    (Json.dropSpace body.toList).head? ≠ some '\x7b' := by
  obtain ⟨after, read, -⟩ := Json.decodeWith_eq_ok_iff.1 read
  have how := Json.decode_eq_ok_iff.1 read
  generalize Json.dropSpace body.toList = front at how
  intro opened
  cases how with
  | digit digit read =>
    obtain rfl := Option.some.inj opened
    exact absurd digit (by decide)
  | object deep read => exact other _ rfl
  | _ => exact absurd (Option.some.inj opened) (by decide)

/-- A body that opens no brace reads as an envelope exactly if it is a list of its members. -/
theorem ofText_listed_iff {body : String} {envelope : Envelope}
    (unlike : (Json.dropSpace body.toList).head? ≠ some '\x7b') :
    record.codec.ofText body = .ok envelope ↔
      ∃ values, Value.ofText body = .ok (.list values) ∧ Listed values envelope := by
  rw [Json.Record.codec_ofText_listed fields_read unlike]
  constructor
  · rintro ⟨values, parts, read, lists, rfl⟩
    exact ⟨values, read, lists_iff.1 lists⟩
  · rintro ⟨values, read, listed⟩
    exact ⟨values, record.parts envelope, read, lists_iff.2 listed, rfl⟩

/-- A body that is a list of the members of an envelope whose code does not report success. -/
def ListsFailure (body : String) (envelope : Envelope) : Prop :=
  ∃ values, Value.ofText body = .ok (.list values) ∧ Listed values envelope ∧
    ¬ReportsSuccess envelope.code

theorem ofBody?_listed_iff {body : String} {envelope : Envelope}
    (unlike : (Json.dropSpace body.toList).head? ≠ some '\x7b') :
    ofBody? body = some envelope ↔ ListsFailure body envelope := by
  rw [ofBody?_eq_some_iff, ofText_listed_iff unlike]
  constructor
  · rintro ⟨⟨values, read, listed⟩, failed⟩
    exact ⟨values, read, listed, failed⟩
  · rintro ⟨values, read, listed, failed⟩
    exact ⟨⟨values, read, listed⟩, failed⟩

end Envelope

/-- A body that is a list of the given strings. -/
theorem ofText_strings (words : List String) :
    Value.ofText (String.ofList (Json.listText (words.map Json.stringText))) =
      .ok (.list (words.map .string)) := by
  let written : Json.Written Json.depthLimit := .list (words.map .string)
  have read := written.ofText
  simpa [written, Json.Written.list, Json.Written.string, Function.comp_def] using read

/-- A reply with the status zero whose body opens no brace, as every JSON text other than an object,
is a rejection with the status and the message of the envelope if the body lists the members of an
envelope whose code does not report success, whatever is asked for. With all other such bodies it
comes to what the body alone reads as. -/
theorem lists_taken_for_envelopes {α : Type} (codec : Codec α) (reply : Reply) {body : String}
    (zero : reply.status = 0) (held : reply.body = some body)
    (unlike : (Json.dropSpace body.toList).head? ≠ some '\x7b') :
    (∀ envelope, Envelope.ListsFailure body envelope →
      reply.decode codec =
        .error (.engineRejected reply.call.symbol envelope.status envelope.fullMessage)) ∧
    ((∀ envelope, ¬Envelope.ListsFailure body envelope) →
      reply.decode codec =
        (codec.ofText body).mapError fun fault => .decode reply.call.symbol fault.message) := by
  constructor
  · intro envelope lists
    have found : reply.envelope? = some envelope := by
      rw [Reply.envelope?, held]
      exact (Envelope.ofBody?_listed_iff unlike).2 lists
    have failed : reply.isSuccess = false := by simp [Reply.isSuccess, found]
    rw [Reply.decode_of_failed codec failed]
    simp only [Reply.rejection, Reply.rejectionCode, Reply.bestMessage, found, zero, ↓reduceIte]
  · intro data
    have none : Envelope.ofBody? body = none := by
      refine Option.eq_none_iff_forall_ne_some.2 fun envelope read => ?_
      exact data envelope ((Envelope.ofBody?_listed_iff unlike).1 read)
    have success : reply.isSuccess = true := by simp [Reply.isSuccess, Reply.envelope?, held, none, zero]
    simp only [Reply.decode, success, held, Bool.not_true, Bool.false_eq_true, ↓reduceIte]

/-- A list of one string is data. -/
theorem one_string_is_data :
    let body := "[\"a\"]"
    let reply : Reply := ⟨.getStats, 0, some body, none⟩
    (Json.dropSpace body.toList).head? ≠ some '\x7b' ∧
      reply.decode Codec.value = .ok (.list [.string "a"]) := by
  intro body reply
  have read : Value.ofText body = .ok (.list [.string "a"]) := ofText_strings ["a"]
  have unlike := Envelope.opens_no_brace read nofun
  have data : ∀ envelope, ¬Envelope.ListsFailure body envelope := by
    rintro envelope ⟨values, other, listed, -⟩
    cases read.symm.trans other
    cases listed
  refine ⟨unlike, ?_⟩
  rw [(lists_taken_for_envelopes Codec.value reply rfl rfl unlike).2 data]
  exact congrArg (Except.mapError _) read

/-- A list of two strings is taken for a failure. -/
theorem two_strings_rejected :
    let body := "[\"a\",\"b\"]"
    Codec.value.ofText body = .ok (.list [.string "a", .string "b"]) ∧
      (Reply.mk .getStats 0 (some body) none).decode Codec.value =
        .error (.engineRejected "compression_get_stats" 1 "b") := by
  intro body
  have read : Value.ofText body = .ok (.list [.string "a", .string "b"]) :=
    ofText_strings ["a", "b"]
  have unlike := Envelope.opens_no_brace read nofun
  have failed : ¬Envelope.ReportsSuccess (.string "a") := by
    simp [Envelope.ReportsSuccess]
  have lists : Envelope.ListsFailure body ⟨.string "a", "b", none⟩ :=
    ⟨_, read, .brief _ _, failed⟩
  have found : Envelope.ofBody? body = some ⟨.string "a", "b", none⟩ :=
    (Envelope.ofBody?_listed_iff unlike).2 lists
  refine ⟨read, ?_⟩
  simp only [Reply.decode, Reply.isSuccess, Reply.rejection, Reply.rejectionCode, Reply.bestMessage,
    Reply.envelope?, Option.bind_some, found]
  rfl

end BackgroundWork.Engine
