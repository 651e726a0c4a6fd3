import BackgroundWork.Compression.Status
import BackgroundWork.Engine.Reply
import BackgroundWork.Export.Job
import BackgroundWork.Proofs.RecordReading
import BackgroundWork.Proofs.TimestampReading
import BackgroundWork.Proofs.UuidReading

set_option autoImplicit false

/-!
What the engine reports comes back as it was: a reply with status zero whose body is a report, as
its record writes it, is decoded to that very report. The body is read as an error envelope
first. It is none, since an envelope takes no other members than its own and every report starts
with a member that is not among them.

Main statement: `Engine.reports_return`.
-/

namespace BackgroundWork

open Json Json.Codec

theorem Timestamp.codec_readsBack {depth : Nat} {moment : Timestamp} (plain : moment.IsPlain) :
    Timestamp.codec.ReadsBack depth moment := by
  have same : (Timestamp.ofText moment.text).mapError Timestamp.Fault.message = .ok moment := by
    rw [Timestamp.ofText_text plain]
    rfl
  exact content_readsBack same

/-- A moment that may be absent reads back if it is plain wherever it is given. -/
theorem Timestamp.option_readsBack {depth : Nat} {moment : Option Timestamp}
    (plain : ∀ given ∈ moment, given.IsPlain) :
    Timestamp.codec.option.ReadsBack depth moment :=
  Codec.option_readsBack content_isPresent fun given present => codec_readsBack (plain given present)

theorem Uuid.codec_readsBack (depth : Nat) (id : Uuid) : Uuid.codec.ReadsBack depth id := by
  have same : (Uuid.ofText id.text).mapError Uuid.Fault.message = .ok id := by
    rw [Uuid.ofText_text]
    rfl
  exact content_readsBack same

theorem optionString_readsBack (depth : Nat) (text : Option String) :
    string.option.ReadsBack depth text :=
  option_readsBack string_isPresent fun held _ => string_readsBack held

theorem optionInt64_readsBack (depth : Nat) (i : Option Int64) : int64.option.ReadsBack depth i :=
  option_readsBack int64_isPresent fun held _ => int64_readsBack held

theorem optionInt32_readsBack (depth : Nat) (i : Option Int32) : int32.option.ReadsBack depth i :=
  option_readsBack int32_isPresent fun held _ => int32_readsBack held

/-! ### Reports of the compression work -/

namespace Compression

theorem QueueStatus.readsBack (depth : Nat) (status : QueueStatus) :
    QueueStatus.record.codec.ReadsBack (depth + 1) status :=
  Record.codec_readsBack (by decide) rfl
    ⟨int64_readsBack _, int64_readsBack _, int64_readsBack _, int64_readsBack _,
      int64_readsBack _, trivial⟩

/-- Whether all moments of a history are plain. -/
structure DocumentHistory.IsPlain (history : DocumentHistory) : Prop where
  lastUpdated : ∀ moment ∈ history.lastUpdated, moment.IsPlain
  queuedAt : ∀ moment ∈ history.queuedAt, moment.IsPlain
  queueUpdatedAt : ∀ moment ∈ history.queueUpdatedAt, moment.IsPlain

theorem DocumentHistory.readsBack (depth : Nat) {history : DocumentHistory}
    (plain : history.IsPlain) : DocumentHistory.record.codec.ReadsBack (depth + 1) history :=
  Record.codec_readsBack (by decide) rfl
    ⟨string_readsBack _, string_readsBack _, optionInt64_readsBack _ _,
      optionInt64_readsBack _ _, optionInt64_readsBack _ _, optionString_readsBack _ _,
      Timestamp.option_readsBack plain.lastUpdated, optionString_readsBack _ _,
      optionInt32_readsBack _ _, optionString_readsBack _ _,
      Timestamp.option_readsBack plain.queuedAt,
      Timestamp.option_readsBack plain.queueUpdatedAt, trivial⟩

theorem WorkerThrottle.readsBack (depth : Nat) (throttle : WorkerThrottle) :
    WorkerThrottle.record.codec.ReadsBack (depth + 1) throttle :=
  Record.codec_readsBack (by decide) rfl
    ⟨word_readsBack _ _, word_readsBack _ _, word_readsBack _ _, bool_readsBack _,
      optionString_readsBack _ _, trivial⟩

end Compression

theorem Telemetry.DeviceCapabilities.readsBack (depth : Nat)
    (capabilities : Telemetry.DeviceCapabilities) :
    Telemetry.DeviceCapabilities.record.codec.ReadsBack (depth + 2) capabilities :=
  Record.codec_readsBack (by decide) rfl
    ⟨string_readsBack _, word_readsBack _ _, word_readsBack _ _,
      list_readsBack fun recommendation _ => string_readsBack recommendation, trivial⟩

/-- The whole status reads back where it has no statistics, the only report with a fraction. -/
theorem Compression.ComprehensiveStatus.readsBack (depth : Nat)
    {status : Compression.ComprehensiveStatus} (noStats : status.compressionStats = none) :
    Compression.ComprehensiveStatus.record.codec.ReadsBack (depth + 3) status := by
  have queue : QueueStatus.record.codec.option.ReadsBack (depth + 2) status.queueStatus :=
    option_readsBack Record.codec_isPresent fun held _ => QueueStatus.readsBack _ held
  have throttle :
      WorkerThrottle.record.codec.option.ReadsBack (depth + 2) status.workerThrottle :=
    option_readsBack Record.codec_isPresent fun held _ => WorkerThrottle.readsBack _ held
  have capabilities : Telemetry.DeviceCapabilities.record.codec.option.ReadsBack (depth + 2)
      status.deviceCapabilities :=
    option_readsBack Record.codec_isPresent fun held _ =>
      Telemetry.DeviceCapabilities.readsBack _ held
  have stats : Stats.record.codec.option.ReadsBack (depth + 2) status.compressionStats :=
    option_readsBack Record.codec_isPresent fun held given =>
      absurd (noStats.symm.trans given) nofun
  exact Record.codec_readsBack (by decide) rfl ⟨queue, throttle, capabilities, stats, trivial⟩

/-! ### Export jobs -/

namespace Export

theorem JobStatus.readsBack (depth : Nat) (status : JobStatus) :
    JobStatus.enumeration.codec.ReadsBack depth status :=
  enumeration_readsBack (by cases status <;> decide)

theorem Job.readsBack (depth : Nat) {job : Job}
    (plain : ∀ moment ∈ job.requestedAt, moment.IsPlain) :
    Job.record.codec.ReadsBack (depth + 1) job :=
  Record.codec_readsBack (by decide) rfl
    ⟨Uuid.codec_readsBack _ _, JobStatus.readsBack _ _, optionInt64_readsBack _ _,
      optionString_readsBack _ _, optionString_readsBack _ _, optionInt64_readsBack _ _,
      Timestamp.option_readsBack plain, trivial⟩

theorem Job.envelope_readsBack (depth : Nat) {job : Job}
    (plain : ∀ moment ∈ job.requestedAt, moment.IsPlain) :
    Job.envelope.codec.ReadsBack (depth + 2) job :=
  Record.codec_readsBack (by decide) rfl ⟨Job.readsBack _ plain, trivial⟩

end Export

/-! ### Replies that carry a report -/

namespace Engine

/-- Whether every reply with status zero and the given body is decoded to the value, and the body
holds no error envelope. -/
structure Returns {α : Type} (codec : Codec α) (body : String) (value : α) : Prop where
  data : Envelope.ofBody? body = none
  decoded (call : Call) (lastError : Option String) :
    (Reply.mk call 0 (some body) lastError).decode codec = .ok value

/-- An object that starts with a member of no envelope is none. -/
theorem Envelope.ofBody?_foreign {key : String} (foreign : key ∉ Envelope.record.fields.names)
    (letters : List Char) (members : List (String × List Char)) :
    Envelope.ofBody? (String.ofList (objectText ((key, letters) :: members))) = none := by
  have names : Envelope.record.fields.names = ["code", "message", "details"] := rfl
  simp only [names, List.mem_cons, List.not_mem_nil, or_false, not_or] at foreign
  obtain ⟨code, message, details⟩ := foreign
  have unknown : Envelope.record.fields.put 126 (Places.empty _) key = none := by
    simp [Envelope.record, Fields.put, Field.isNamed, Field.required, Field.optional,
      Field.withDefault, Ne.symm code, Ne.symm message, Ne.symm details, Places.empty]
  have refused := Record.decode_refuses_unknown rfl unknown letters members
  have read : Envelope.record.codec.ofText
      (String.ofList (objectText ((key, letters) :: members))) =
        .error (.unknownField key Envelope.record.fields.names) := by
    simp only [Codec.ofText, decodeWith, String.toList_ofList, depthLimit, refused]
  simp only [ofBody?, read]

/-- A report is returned if it reads back and starts with a member of no envelope. -/
theorem returns_of_readsBack {α : Type} {record : Record α} {value : α} {key : String}
    {letters : List Char} {members : List (String × List Char)}
    (readsBack : record.codec.ReadsBack depthLimit value)
    (starts : record.fields.encode (record.parts value) = (key, letters) :: members)
    (foreign : key ∉ Envelope.record.fields.names) :
    Returns record.codec (record.codec.render value) value := by
  have body : record.codec.render value =
      String.ofList (objectText ((key, letters) :: members)) := by
    rw [← starts]
    rfl
  have data : Envelope.ofBody? (record.codec.render value) = none := by
    rw [body]
    exact Envelope.ofBody?_foreign foreign letters members
  refine ⟨data, fun call lastError => ?_⟩
  have success : (Reply.mk call 0 (some (record.codec.render value)) lastError).isSuccess := by
    simp [Reply.isSuccess, Reply.envelope?, data]
  simp only [Reply.decode, success, Bool.not_true, Bool.false_eq_true, ↓reduceIte,
    readsBack.ofText_render]
  rfl

/-- A document's history, the state of the queue, the capabilities of the device, the whole status
without statistics, and a job as the member `job` of an object are each returned as they were,
whatever their texts and numbers are and whichever members are absent. The moments among them lie
in the years 0 to 9999 and are no leap seconds. -/
theorem reports_return :
    (∀ history : Compression.DocumentHistory, history.IsPlain →
      Returns Compression.DocumentHistory.record.codec
        (Compression.DocumentHistory.record.codec.render history) history) ∧
    (∀ status : Compression.QueueStatus,
      Returns Compression.QueueStatus.record.codec
        (Compression.QueueStatus.record.codec.render status) status) ∧
    (∀ capabilities : Telemetry.DeviceCapabilities,
      Returns Telemetry.DeviceCapabilities.record.codec
        (Telemetry.DeviceCapabilities.record.codec.render capabilities) capabilities) ∧
    (∀ status : Compression.ComprehensiveStatus, status.compressionStats = none →
      Returns Compression.ComprehensiveStatus.record.codec
        (Compression.ComprehensiveStatus.record.codec.render status) status) ∧
    (∀ job : Export.Job, (∀ moment ∈ job.requestedAt, moment.IsPlain) →
      Returns Export.Job.envelope.codec
        (String.ofList (objectText [("job", Export.Job.record.codec.encode job)])) job) := by
  refine ⟨fun history plain => ?_, fun status => ?_, fun capabilities => ?_,
    fun status noStats => ?_, fun job plain => ?_⟩
  · exact returns_of_readsBack (Compression.DocumentHistory.readsBack 126 plain) rfl (by decide)
  · exact returns_of_readsBack (Compression.QueueStatus.readsBack 126 status) rfl (by decide)
  · exact returns_of_readsBack (Telemetry.DeviceCapabilities.readsBack 125 capabilities) rfl
      (by decide)
  · exact returns_of_readsBack (Compression.ComprehensiveStatus.readsBack 124 noStats) rfl
      (by decide)
  · exact returns_of_readsBack (Export.Job.envelope_readsBack 125 plain) rfl (by decide)

/-- The last nanosecond of the year 9999. -/
def lastMoment : Timestamp :=
  ⟨⟨9999, 12, 31, by decide⟩, ⟨Fin.last 23, Fin.last 59, Fin.last 59, ⟨999999999, by decide⟩⟩⟩

/-- A history that was updated at the last moment, a status without statistics and a job that was
requested at the last moment. -/
theorem reports_return_last_moment :
    let history : Compression.DocumentHistory :=
      ⟨"doc \"1\"", "", none, some (-1), none, none, some lastMoment, none, some 3, none, none, none⟩
    let status : Compression.ComprehensiveStatus :=
      ⟨none, some ⟨1, 2, 2, true, some "heat"⟩, some ⟨"phone", 2, 512, ["charge it"]⟩, none⟩
    let job : Export.Job :=
      ⟨⟨List.replicate 32 10, rfl⟩, .inProgress, some 7, none, none, none, some lastMoment⟩
    lastMoment.IsPlain ∧ status.compressionStats = none ∧
      Returns Compression.DocumentHistory.record.codec
        (Compression.DocumentHistory.record.codec.render history) history ∧
      Returns Compression.ComprehensiveStatus.record.codec
        (Compression.ComprehensiveStatus.record.codec.render status) status ∧
      Returns Export.Job.envelope.codec
        (String.ofList (objectText [("job", Export.Job.record.codec.encode job)])) job := by
  intro history status job
  have plain : lastMoment.IsPlain := by decide
  have given : ∀ moment ∈ some lastMoment, moment.IsPlain := by
    intro moment here
    obtain rfl := Option.mem_some.1 here
    exact plain
  have none_given : ∀ moment ∈ (none : Option Timestamp), moment.IsPlain := by simp
  obtain ⟨histories, _, _, statuses, jobs⟩ := reports_return
  exact ⟨plain, rfl, histories history ⟨given, none_given, none_given⟩, statuses status rfl,
    jobs job given⟩

end Engine
end BackgroundWork
