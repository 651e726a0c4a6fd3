import BackgroundWork.Compression.Push
import BackgroundWork.Engine.Native
import BackgroundWork.Proofs.DocumentGate
import BackgroundWork.Proofs.ExportCompletion
import BackgroundWork.Proofs.PrintedJson

set_option autoImplicit false

/-!
What requests say once they are written. Each reads back as an object with the members it was made
of, whatever characters they hold, so two requests that are written alike ask for the same thing.
No request holds a control character, and so each reaches its entry point byte for byte; that for
an export's status arrives as the bare job.

Main statement: `requests_read_back`.
-/

namespace BackgroundWork

open Json (Value Written depthLimit)

/-! ### Exports -/

namespace Export

/-- The options as data. -/
def CsvOptions.value (options : CsvOptions) : Value :=
  .object [("compress", .bool options.compress),
    ("delimiter", .number (.integer options.delimiter.toNat)),
    ("escape_char", match options.escapeChar with
      | none => .null
      | some char => .number (.integer char.toNat)),
    ("quote_char", .number (.integer options.quoteChar.toNat))]

/-- The options as data. -/
def ParquetOptions.value (options : ParquetOptions) : Value :=
  .object [("compression", .string options.compression.name),
    ("enable_statistics", .bool options.enableStatistics),
    ("row_group_size", .number (.integer options.rowGroupSize.toNat))]

/-- A format as data. -/
def Format.value : Format → Value
  | jsonLines => .string "jsonLines"
  | csv options => .object [("csv", .object [("_0", options.value)])]
  | parquet options => .object [("parquet", .object [("_0", options.value)])]

theorem CsvOptions.value_injective : Function.Injective CsvOptions.value := by
  intro one other same
  obtain ⟨delimiter, quote, escape, compress⟩ := one
  obtain ⟨delimiter', quote', escape', compress'⟩ := other
  simp only [value, Value.object.injEq, List.cons.injEq, Prod.mk.injEq, Value.bool.injEq,
    Value.number.injEq, Json.Number.integer.injEq, Int.natCast_inj, UInt8.toNat_inj, true_and,
    and_true] at same
  obtain ⟨rfl, rfl, escaped, rfl⟩ := same
  cases escape with
  | none =>
    cases escape' with
    | none => rfl
    | some char => exact absurd escaped nofun
  | some char =>
    cases escape' with
    | none => exact absurd escaped nofun
    | some char' =>
      simp only [Value.number.injEq, Json.Number.integer.injEq, Int.natCast_inj, UInt8.toNat_inj]
        at escaped
      rw [escaped]

theorem ParquetCompression.name_injective : Function.Injective ParquetCompression.name := by
  intro one other same
  cases one <;> cases other <;> first | rfl | exact absurd same (by decide)

theorem ParquetOptions.value_injective : Function.Injective ParquetOptions.value := by
  intro one other same
  obtain ⟨compression, rows, statistics⟩ := one
  obtain ⟨compression', rows', statistics'⟩ := other
  simp only [value, Value.object.injEq, List.cons.injEq, Prod.mk.injEq, Value.bool.injEq,
    Value.string.injEq, Value.number.injEq, Json.Number.integer.injEq, Int.natCast_inj,
    UInt64.toNat_inj, true_and, and_true] at same
  obtain ⟨named, rfl, rfl⟩ := same
  rw [ParquetCompression.name_injective named]

theorem Format.value_injective : Function.Injective Format.value := by
  intro one other same
  cases one with
  | jsonLines => cases other <;> first | rfl | exact absurd same nofun
  | csv options =>
    cases other with
    | csv options' =>
      have inner : options.value = options'.value := by simpa [value] using same
      rw [CsvOptions.value_injective inner]
    | jsonLines => exact absurd same nofun
    | parquet options' => simp [value] at same
  | parquet options =>
    cases other with
    | parquet options' =>
      have inner : options.value = options'.value := by simpa [value] using same
      rw [ParquetOptions.value_injective inner]
    | jsonLines => exact absurd same nofun
    | csv options' => simp [value] at same

theorem Format.written_value {depth : Nat} (format : Format) :
    (format.written : Written (depth + 3)).value = format.value := by
  cases format with
  | jsonLines => rfl
  | csv options =>
    cases options with
    | mk delimiter quote escape compress => cases escape <;> rfl
  | parquet options => rfl

theorem Format.ofText_encode (format : Format) :
    Value.ofText (String.ofList format.encode) = .ok format.value := by
  have read := (format.written : Written depthLimit).ofText
  rwa [format.written_text, format.written_value] at read

/-- Two formats are never written alike. -/
theorem Format.encode_injective : Function.Injective Format.encode := by
  intro one other same
  have read := one.ofText_encode
  rw [same, other.ofText_encode] at read
  exact (Format.value_injective (Except.ok.inj read)).symm

namespace Request

/-- A request as data. -/
def value (request : Request) : Value :=
  .object [("format", request.format.value),
    ("ids", .list (request.ids.map .string)),
    ("include_blobs", .bool request.includeBlobs),
    ("target_path", .string request.targetPath)]

theorem ofText_options_eq (request : Request) :
    Value.ofText (String.ofList request.options) = .ok request.value := by
  have read := request.written.ofText
  have value : request.written.value = request.value := by
    have format : (request.format.written : Written 126).value = request.format.value :=
      request.format.written_value
    have ids : (request.ids.map (Written.string : String → Written 125)).map (·.value) =
        request.ids.map .string := by
      rw [List.map_map]
      rfl
    have members : request.written.value =
        .object [("format", (request.format.written : Written 126).value),
          ("ids", .list ((request.ids.map (Written.string : String → Written 125)).map (·.value))),
          ("include_blobs", .bool request.includeBlobs),
          ("target_path", .string request.targetPath)] := rfl
    rw [members, format, ids]
    rfl
  rwa [written_text, value] at read

/-- Requests that are written alike differ in nothing but the token, which is not written. -/
theorem eq_of_options {one other : Request} (same : one.options = other.options) :
    other = { one with authToken := other.authToken } := by
  have read := one.ofText_options_eq
  rw [same, other.ofText_options_eq] at read
  have values := Except.ok.inj read
  simp only [value, Value.object.injEq, List.cons.injEq, Prod.mk.injEq, Value.list.injEq,
    Value.bool.injEq, Value.string.injEq, true_and, and_true] at values
  obtain ⟨format, ids, blobs, path⟩ := values
  have ids_eq : other.ids = one.ids :=
    (List.map_inj_right fun _ _ => Value.string.inj).1 ids
  obtain ⟨ids', blobs', format', path', token⟩ := other
  cases ids_eq
  cases blobs
  cases path
  cases Format.value_injective format
  rfl

end Request

/-- The ids of a list are put in order, each once. -/
theorem Selection.mem_ofList {id : String} {picked : List String} :
    id ∈ (Selection.ofList picked).ids ↔ id ∈ picked := by
  have from' : ∀ selection : Selection,
      id ∈ (picked.foldl Selection.insert selection).ids ↔ id ∈ selection.ids ∨ id ∈ picked := by
    induction picked with
    | nil => simp
    | cons first picked ih =>
      intro selection
      rw [List.foldl_cons, ih, Selection.insert, mem_insertId, List.mem_cons,
        or_comm (a := id = first), or_assoc]
  have whole := from' Selection.empty
  rwa [Selection.empty, or_iff_right List.not_mem_nil] at whole

end Export

/-! ### Documents -/

namespace Compression

/-- The configuration as data. -/
def Config.value (config : Config) : Value :=
  .object [("method", .string config.method.name),
    ("min_size_bytes", .number (.integer config.minSizeBytes.toInt)),
    ("quality_level", .number (.integer config.qualityLevel.toInt))]

theorem Method.name_injective : Function.Injective Method.name := by
  intro one other same
  cases one <;> cases other <;> first | rfl | exact absurd same (by decide)

theorem Priority.name_injective : Function.Injective Priority.name := by
  intro one other same
  cases one <;> cases other <;> first | rfl | exact absurd same (by decide)

theorem Config.value_injective : Function.Injective Config.value := by
  intro one other same
  obtain ⟨method, quality, least⟩ := one
  obtain ⟨method', quality', least'⟩ := other
  simp only [value, Value.object.injEq, List.cons.injEq, Prod.mk.injEq, Value.string.injEq,
    Value.number.injEq, Json.Number.integer.injEq, Int32.toInt_inj, Int64.toInt_inj, true_and,
    and_true] at same
  obtain ⟨named, rfl, rfl⟩ := same
  rw [Method.name_injective named]

namespace Request

/-- The priority that a request asks for, if it does. -/
def urgency? : Request → Option Priority
  | .priority _ urgency => some urgency
  | .document _ | .compress .. => none

/-- The configuration that a request asks for, if it does. -/
def config? : Request → Option Config
  | .compress _ config => config
  | .document _ | .priority .. => none

/-- A request as data. -/
def value (request : Request) : Value :=
  .object ((request.config?.toList.map fun config => ("config", config.value)) ++
    ("document_id", .string request.id.text) ::
      request.urgency?.toList.map fun urgency => ("priority", .string urgency.name))

theorem ofText_render_eq (request : Request) :
    Value.ofText request.render = .ok request.value := by
  have read := request.written.ofText
  have value : request.written.value = request.value := by
    cases request with
    | document id => rfl
    | priority id urgency => rfl
    | compress id config => cases config <;> rfl
  rwa [written_text, value] at read

theorem get?_value (request : Request) :
    request.value.get? "document_id" = some (.string request.id.text) ∧
      request.value.get? "priority" =
        request.urgency?.map (fun urgency => .string urgency.name) ∧
      request.value.get? "config" = request.config?.map Config.value := by
  cases request with
  | document id => exact ⟨rfl, rfl, rfl⟩
  | priority id urgency => exact ⟨rfl, rfl, rfl⟩
  | compress id config => cases config <;> exact ⟨rfl, rfl, rfl⟩

/-- Requests that are written alike are about the same document, with the same priority and the
same configuration. -/
theorem eq_of_render {one other : Request} (same : one.render = other.render) :
    one.id = other.id ∧ one.urgency? = other.urgency? ∧ one.config? = other.config? := by
  have read := one.ofText_render_eq
  rw [same, other.ofText_render_eq] at read
  have values : other.value = one.value := Except.ok.inj read
  obtain ⟨id, urgency, config⟩ := one.get?_value
  obtain ⟨id', urgency', config'⟩ := other.get?_value
  rw [values] at id' urgency' config'
  refine ⟨?_, ?_, ?_⟩
  · have texts := Value.string.inj (Option.some.inj (id.symm.trans id'))
    exact congrArg DocumentId.mk texts
  · refine Option.map_injective (fun one other same => ?_) (urgency.symm.trans urgency')
    exact Priority.name_injective (Value.string.inj same)
  · exact Option.map_injective Config.value_injective (config.symm.trans config')

end Request
end Compression

/-! ### What is handed over -/

open Text (Printed printed_cons printed_append)
open Text.Utf8 (encode)

namespace Compression

theorem Config.prints : Config.record.codec.Prints :=
  Json.Record.prints
    ⟨Method.enumeration.prints, fun _ => Numeric.printed_intText _,
      fun _ => Numeric.printed_intText _, trivial⟩

theorem Request.printed (request : Request) : Printed request.render.toList := by
  rw [Request.render, String.toList_ofList]
  refine Json.printed_objectText ?_
  cases request with
  | document id =>
    exact List.forall_mem_cons.2 ⟨Json.printed_stringText _, List.forall_mem_nil _⟩
  | priority id urgency =>
    exact List.forall_mem_cons.2 ⟨Json.printed_stringText _,
      List.forall_mem_cons.2 ⟨Priority.enumeration.prints urgency, List.forall_mem_nil _⟩⟩
  | compress id config =>
    refine List.forall_mem_cons.2 ⟨Json.printed_stringText _, ?_⟩
    cases config with
    | none => exact List.forall_mem_nil _
    | some config => exact List.forall_mem_cons.2 ⟨Config.prints config, List.forall_mem_nil _⟩

theorem deviceState_prints : Telemetry.DeviceState.record.codec.Prints :=
  Json.Record.prints
    ⟨Json.printed_floatText, Json.printed_boolText, Telemetry.ThermalState.enumeration.prints,
      Telemetry.AppState.enumeration.prints, fun _ => Numeric.printed_natText _, trivial⟩

theorem memoryPressure_prints : Telemetry.MemoryPressureEvent.record.codec.Prints :=
  Json.Record.prints
    ⟨Telemetry.MemoryPressureLevel.enumeration.prints, fun _ => Numeric.printed_natText _,
      Telemetry.MemoryTrend.enumeration.prints, trivial⟩

theorem Push.printed (push : Push) : Printed push.payload.toList := by
  rw [Push.payload, String.toList_ofList]
  cases push with
  | deviceState state => exact deviceState_prints state
  | budget seconds =>
    exact Json.printed_objectText
      (List.forall_mem_cons.2 ⟨Numeric.printed_natText _, nofun⟩)
  | memoryPressure event => exact memoryPressure_prints event
  | visibility isVisible =>
    exact Json.printed_objectText
      (List.forall_mem_cons.2 ⟨Json.printed_boolText _, nofun⟩)
  | lifecycle hint =>
    exact Json.printed_objectText
      (List.forall_mem_cons.2 ⟨Json.printed_stringText _, nofun⟩)

end Compression

namespace Export

theorem CsvOptions.printed (options : CsvOptions) : Printed options.encode := by
  refine Json.printed_objectText (List.forall_mem_cons.2 ⟨Numeric.printed_natText _,
    List.forall_mem_cons.2 ⟨Numeric.printed_natText _, List.forall_mem_cons.2 ⟨?_,
      List.forall_mem_cons.2 ⟨Json.printed_boolText _, nofun⟩⟩⟩⟩)
  cases options.escapeChar with
  | none => exact (by decide : Printed Json.nullText)
  | some char => exact Numeric.printed_natText _

theorem ParquetOptions.printed (options : ParquetOptions) : Printed options.encode :=
  Json.printed_objectText (List.forall_mem_cons.2 ⟨Json.printed_stringText _,
    List.forall_mem_cons.2 ⟨Numeric.printed_natText _,
      List.forall_mem_cons.2 ⟨Json.printed_boolText _, nofun⟩⟩⟩)

theorem Format.printed (format : Format) : Printed format.encode := by
  have under : ∀ name options, Printed options → Printed (associated name options) :=
    fun name options inner => Json.printed_objectText (List.forall_mem_cons.2
      ⟨Json.printed_objectText (List.forall_mem_cons.2 ⟨inner, nofun⟩), nofun⟩)
  cases format with
  | jsonLines => exact Json.printed_stringText _
  | csv options => exact under _ _ options.printed
  | parquet options => exact under _ _ options.printed

theorem Request.printed (request : Request) : Printed request.options := by
  have ids : Printed (Json.listText (request.ids.map Json.stringText)) := by
    refine Json.printed_listText fun item among => ?_
    obtain ⟨id, _, rfl⟩ := List.mem_map.1 among
    exact Json.printed_stringText id
  exact Json.printed_objectText (List.forall_mem_cons.2 ⟨ids,
    List.forall_mem_cons.2 ⟨Json.printed_boolText _,
      List.forall_mem_cons.2 ⟨Json.printed_stringText _,
        List.forall_mem_cons.2 ⟨request.format.printed, nofun⟩⟩⟩⟩)

end Export
/-! ### Jobs -/

namespace Uuid

theorem digitChar_eq (digit : Fin 16) : digitChar digit = digit.val.digitChar := by
  revert digit
  decide

/-- Whether a text is made of hexadecimal digits in lower case, in groups of the given widths with
hyphens between them. -/
def Hyphenated (widths : List Nat) (digits : List (Fin 16)) (text : List Char) : Prop :=
  ∃ groups : List (List Char), groups.map List.length = widths ∧
    groups.flatten = digits.map (fun digit => digit.val.digitChar) ∧
    text = ['-'].intercalate groups

theorem hyphenated_grouped (widths : List Nat) (digits : List (Fin 16))
    (whole : digits.length = widths.foldr (· + ·) 0) :
    Hyphenated widths digits (grouped widths digits) := by
  have written : ∀ digits, List.map digitChar digits =
      digits.map fun digit => digit.val.digitChar := fun digits =>
    List.map_congr_left fun digit _ => digitChar_eq digit
  induction widths generalizing digits with
  | nil =>
    obtain rfl := List.eq_nil_of_length_eq_zero whole
    exact ⟨[], rfl, rfl, rfl⟩
  | cons width widths ih =>
    rw [List.foldr_cons] at whole
    cases widths with
    | nil =>
      have all : digits.take width = digits := List.take_of_length_le (by simp_all)
      refine ⟨[digits.map digitChar], by simp_all, ?_, ?_⟩
      · rw [List.flatten_singleton, written]
      · rw [grouped, all, List.intercalate_singleton]
    | cons next widths =>
      have width_eq : (digits.take width).length = width :=
        List.length_take_of_le (by omega)
      have rest : (digits.drop width).length = (next :: widths).foldr (· + ·) 0 := by
        rw [List.length_drop]
        omega
      obtain ⟨groups, widths_eq, joined, shown⟩ := ih (digits.drop width) rest
      refine ⟨(digits.take width).map digitChar :: groups, ?_, ?_, ?_⟩
      · rw [List.map_cons, List.length_map, width_eq, widths_eq]
      · rw [List.flatten_cons, joined, written, ← List.map_append, List.take_append_drop]
      · cases groups with
        | nil => exact absurd widths_eq nofun
        | cons group groups =>
          rw [List.intercalate_cons_cons, ← shown, List.append_assoc]
          rfl

theorem hyphenated_text (job : Uuid) : Hyphenated [8, 4, 4, 4, 12] job.digits job.text.toList := by
  rw [text, String.toList_ofList]
  exact hyphenated_grouped groupWidths job.digits job.length_digits

theorem printed_grouped (widths : List Nat) (digits : List (Fin 16)) :
    Printed (grouped widths digits) := by
  have shown : ∀ digit, 0x20 ≤ (digitChar digit).toNat := by decide
  have written : ∀ digits, Printed (List.map digitChar digits) := by
    intro digits c among
    obtain ⟨digit, _, rfl⟩ := List.mem_map.1 among
    exact shown digit
  fun_induction grouped widths digits with
  | case1 => exact .nil
  | case2 digits width => exact written _
  | case3 digits width widths more ih =>
    exact printed_append.2 ⟨written _, printed_cons.2 ⟨by decide, ih⟩⟩

theorem printed_text (job : Uuid) : Printed job.text.toList := by
  rw [text, String.toList_ofList]
  exact printed_grouped _ _

end Uuid

namespace Export

/-- A request for a job's status, as it reads back. -/
def writtenStatus (job : Uuid) : Written depthLimit :=
  .object [("job_id", .string job.text)]

theorem jobId?_statusRequest (job : Uuid) :
    Engine.Native.jobId? (statusRequest job) = some job.text := by
  have read : Value.ofText (statusRequest job) = .ok (writtenStatus job).value :=
    (writtenStatus job).ofText
  have found : (writtenStatus job).value.get? "job_id" = some (.string job.text) := by
    refine Value.get?_ofMembers ?_ (List.mem_cons_self ..)
    exact (by decide : ["job_id"].Nodup)
  simp only [Engine.Native.jobId?, read, found]
  rfl

theorem printed_statusRequest (job : Uuid) : Printed (statusRequest job).toList := by
  rw [statusRequest, String.toList_ofList]
  exact Json.printed_objectText (List.forall_mem_cons.2 ⟨Json.printed_stringText _, nofun⟩)

end Export

/-! ### Main statement -/

open Engine (Call Native.argument?)

/-- Whether a payload has no zero byte, and every entry point that takes its payload as it stands
is handed these very bytes. -/
def HandedOver (payload : String) : Prop :=
  0 ∉ encode payload ∧
    ∀ call, call ≠ Call.getExportStatus →
      (Native.argument? call payload).map (·.bytes) = some (encode payload)

theorem handedOver_of_printed {payload : String} (printed : Printed payload.toList) :
    HandedOver payload := by
  refine ⟨printed.zero_not_mem, fun call other => ?_⟩
  have plain : Native.argument? call payload = Text.Terminated.ofText? payload := by
    cases call <;> first | rfl | exact absurd rfl other
  rw [plain, printed.ofText?]
  rfl

theorem statusArgument (job : Uuid) :
    (Native.argument? .getExportStatus (Export.statusRequest job)).map (·.bytes) =
      some (encode job.text) := by
  rw [Native.argument?, Export.jobId?_statusRequest, Option.bind_some, (job.printed_text).ofText?]
  rfl

/-- Whether a payload reads back as the given data and is handed over byte for byte. -/
structure Faithful (payload : String) (meaning : Value) : Prop where
  reads : Value.ofText payload = .ok meaning
  handed : HandedOver payload

theorem faithful_options (request : Export.Request) :
    Faithful (String.ofList request.options) request.value where
  reads := request.ofText_options_eq
  handed := by
    have printed := request.printed
    exact handedOver_of_printed (by rwa [String.toList_ofList])

theorem faithful_render (request : Compression.Request) :
    Faithful request.render request.value :=
  ⟨request.ofText_render_eq, handedOver_of_printed request.printed⟩

/-- What was asked for is what arrives. The ids that were picked, in ascending order and each once,
are the ids that an export's options read back as, beside the flag, the path and the format;
options that are written alike are those of the same export. A request about a document reads back
as its name, its priority and its configuration, and those written alike agree in all three. These
requests, the pushes and the empty request have no zero byte, and their bytes are what an entry
point is handed; for the status of an export it is handed the job, in groups of lower-case
digits. -/
theorem requests_read_back :
    (∀ (picked : List String) (includeBlobs : Bool) (format : Export.Format)
        (targetPath authToken : String),
      let ids := (Export.Selection.ofList picked).ids
      let request : Export.Request := ⟨ids, includeBlobs, format, targetPath, authToken⟩
      Faithful (String.ofList request.options)
        (.object [("format", format.value), ("ids", .list (ids.map .string)),
          ("include_blobs", .bool includeBlobs), ("target_path", .string targetPath)]) ∧
      ids.Pairwise (· < ·) ∧ ∀ id, id ∈ ids ↔ id ∈ picked) ∧
    (∀ one other : Export.Request, one.options = other.options →
      other = { one with authToken := other.authToken }) ∧
    Function.Injective Export.Format.encode ∧ Function.Injective Export.Format.value ∧
    (∀ request : Compression.Request, Faithful request.render request.value) ∧
    (∀ one other : Compression.Request, one.render = other.render →
      one.id = other.id ∧ one.urgency? = other.urgency? ∧ one.config? = other.config?) ∧
    (∀ push : Compression.Push, HandedOver push.payload) ∧ HandedOver "" ∧
    ∀ job : Uuid,
      0 ∉ encode (Export.statusRequest job) ∧
      (Native.argument? .getExportStatus (Export.statusRequest job)).map (·.bytes) =
        some (encode job.text) ∧
      Uuid.Hyphenated [8, 4, 4, 4, 12] job.digits job.text.toList := by
  refine ⟨fun picked includeBlobs format targetPath authToken => ?_,
    fun one other => Export.Request.eq_of_options, Export.Format.encode_injective,
    Export.Format.value_injective, faithful_render,
    fun one other => Compression.Request.eq_of_render,
    fun push => handedOver_of_printed push.printed, handedOver_of_printed .nil, fun job => ?_⟩
  · intro ids request
    exact ⟨faithful_options request, (Export.Selection.ofList picked).ascending,
      fun id => Export.Selection.mem_ofList⟩
  · exact ⟨(Export.printed_statusRequest job).zero_not_mem, statusArgument job,
      job.hyphenated_text⟩

end BackgroundWork
