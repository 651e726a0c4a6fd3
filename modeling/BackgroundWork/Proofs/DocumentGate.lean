import BackgroundWork.Compression.Documents
import BackgroundWork.Proofs.JsonReading
import BackgroundWork.Proofs.ReplyClassification

set_option autoImplicit false

/-!
The gate in front of all requests about documents. A name has at most one fault, the first in the
order of the checks. Main statement: a request with a faulty name is refused with that fault before
it does anything; with any other name the engine is asked about the document of that very name, and
the request is never refused for the name.
-/

namespace BackgroundWork

open Json (Value Written depthLimit)

/-! ### Names -/

namespace Text

theorem all_trimStart (text : List Char) : (trimStart text).all isBlank = text.all isBlank := by
  have parts := List.takeWhile_append_dropWhile (p := isBlank) (l := text)
  calc (trimStart text).all isBlank
      = ((text.takeWhile isBlank).all isBlank && (trimStart text).all isBlank) := by
        rw [List.all_takeWhile, Bool.true_and]
    _ = (text.takeWhile isBlank ++ text.dropWhile isBlank).all isBlank := by
        rw [List.all_append, trimStart]
    _ = text.all isBlank := by rw [parts]

theorem trim_eq_nil_iff (text : List Char) : trim text = [] ↔ text.all isBlank := by
  rw [trim, List.reverse_eq_nil_iff, trimStart_eq_nil_iff, List.all_reverse, all_trimStart]

end Text

/-- What is wrong with the name of a document: it is blank, else too long, else it has a control
character. -/
inductive NameFault (text : String) : ValidationError → Prop
  | blank (nothing : Text.trim text.toList = []) : NameFault text (.required "document_id")
  | long (something : Text.trim text.toList ≠ []) (exceeds : 128 < text.toList.length) :
      NameFault text (.maxLength "document_id" 128)
  | control (something : Text.trim text.toList ≠ []) (fits : text.toList.length ≤ 128)
      {c : Char} (among : c ∈ text.toList) (unseen : Text.isControl c = true) :
      NameFault text (.invalidValue "document_id" "must not contain control characters")

namespace DocumentId

theorem ofText_eq (text : String) :
    ofText text =
      if Text.trim text.toList = [] then .error (.required "document_id")
      else if 128 < text.toList.length then .error (.maxLength "document_id" 128)
      else if text.toList.any Text.isControl then
        .error (.invalidValue "document_id" "must not contain control characters")
      else .ok ⟨text⟩ := by
  have blank : Text.allBlank text = decide (Text.trim text.toList = []) := by
    rw [Bool.eq_iff_iff, decide_eq_true_iff, Text.trim_eq_nil_iff]
    rfl
  simp only [ofText, checks, maxLength, Form.applyAll, List.foldl_cons, List.foldl_nil, Form.apply,
    Form.new, Form.validate, Check.fault?, blank, decide_eq_true_eq]
  by_cases nothing : Text.trim text.toList = []
  · simp [nothing]
  · by_cases exceeds : 128 < text.toList.length
    · simp [nothing, exceeds]
    · by_cases unseen : text.toList.any Text.isControl
      · simp [nothing, exceeds, unseen]
      · simp [nothing, exceeds, unseen]

theorem ofText_of_fault {text : String} {fault : ValidationError} (faulty : NameFault text fault) :
    ofText text = .error fault := by
  rw [ofText_eq]
  cases faulty with
  | blank nothing => rw [if_pos nothing]
  | long something exceeds => rw [if_neg something, if_pos exceeds]
  | control something fits among unseen =>
    rw [if_neg something, if_neg (by omega), if_pos (List.any_eq_true.2 ⟨_, among, unseen⟩)]

theorem ofText_of_sound {text : String} (sound : ∀ fault, ¬NameFault text fault) :
    ofText text = .ok ⟨text⟩ := by
  rw [ofText_eq]
  by_cases nothing : Text.trim text.toList = []
  · exact absurd (.blank nothing) (sound _)
  by_cases exceeds : 128 < text.toList.length
  · exact absurd (.long nothing exceeds) (sound _)
  by_cases unseen : text.toList.any Text.isControl
  · obtain ⟨c, among, unseen⟩ := List.any_eq_true.1 unseen
    exact absurd (.control nothing (by omega) among unseen) (sound _)
  · rw [if_neg nothing, if_neg exceeds, if_neg unseen]

end DocumentId

/-! ### Requests -/

namespace Compression

/-- The configuration as it reads back. -/
def Config.written {depth : Nat} (config : Config) : Written (depth + 1) :=
  .object [("method", .string config.method.name),
    ("quality_level", .integer config.qualityLevel.toInt
      (by have := config.qualityLevel.le_toInt; omega)
      (by have := config.qualityLevel.toInt_lt; omega)),
    ("min_size_bytes", .integer config.minSizeBytes.toInt config.minSizeBytes.le_toInt
      config.minSizeBytes.toInt_lt)]

namespace Request

/-- The name of the document that a request is about. -/
def id : Request → DocumentId
  | .document id | .priority id _ | .compress id _ => id

/-- The members of a request after the document's name, as they read back. -/
def options : Request → List (String × Written 126)
  | .document _ => []
  | .priority _ urgency => [("priority", .string urgency.name)]
  | .compress _ config => config.toList.map fun config => ("config", config.written)

/-- A request as it reads back. -/
def written (request : Request) : Written depthLimit :=
  .object (("document_id", .string request.id.text) :: request.options)

theorem written_text (request : Request) :
    request.written.text = Json.objectText request.members := by
  cases request with
  | document id => rfl
  | priority id urgency => rfl
  | compress id config =>
    cases config with
    | none => rfl
    | some config => rfl

/-- A request names its document, character for character. -/
theorem ofText_render (request : Request) :
    ∃ value, Value.ofText request.render = .ok value ∧
      value.get? "document_id" = some (.string request.id.text) := by
  refine ⟨request.written.value, ?_, ?_⟩
  · rw [render, ← written_text]
    exact request.written.ofText
  · refine Value.get?_ofMembers ?_ (List.mem_cons_self ..)
    cases request with
    | document id => exact (by decide : ["document_id"].Nodup)
    | priority id urgency => exact (by decide : ["document_id", "priority"].Nodup)
    | compress id config =>
      cases config with
      | none => exact (by decide : ["document_id"].Nodup)
      | some config => exact (by decide : ["document_id", "config"].Nodup)

end Request
end Compression

/-! ### What the engine's side can answer -/

namespace Engine.Client

open Program (Ensures)

/-- A result that is no refusal of input. -/
def Unvalidated {α : Type} (result : Except ServiceError α) : Prop :=
  ∀ fault, result ≠ .error (.validation fault)

section

variable {α : Type} {allowed : Bridge.Op → Prop} {call : Call} {payload : String}
  {token : Option String}

theorem Receiving.unvalidated {raw : RawReply} {events : List Event}
    {answer : Except ServiceError Reply} (receiving : Receiving call raw events answer) :
    Unvalidated answer := by
  cases receiving <;> exact nofun

theorem ensures_send (entry : allowed (.invoke call payload token))
    (quiet : ∀ op, invocation? op = none → allowed op) :
    Ensures allowed Unvalidated (send call payload token) := by
  intro events answer goes
  cases goes_send goes with
  | panicked panic => exact ⟨List.forall_mem_cons.2 ⟨entry, nofun⟩, nofun⟩
  | received receiving =>
    exact ⟨List.forall_mem_cons.2 ⟨entry, fun event among => quiet _ (receiving.quiet event among)⟩,
      receiving.unvalidated⟩

theorem ensures_sendFor (codec : Json.Codec α) (entry : allowed (.invoke call payload token))
    (quiet : ∀ op, invocation? op = none → allowed op) :
    Ensures allowed Unvalidated (sendFor codec call payload token) := by
  refine (ensures_send entry quiet).bind fun answer plain => ?_
  cases answer with
  | error error => exact .done fun fault same => plain fault (by rw [Except.error.inj same])
  | ok reply =>
    refine .done fun fault refused => ?_
    have way := Reply.decoding codec reply
    rw [refused] at way
    cases way

end

end Engine.Client

/-! ### Requests about documents -/

namespace Compression.Documents

open Engine (invocation?)
open Program (Ensures)

/-- Whether an operation, if it enters the engine other than for statistics, names the document. -/
def Names (documentId : String) : (coordination.sum Engine.Bridge.interface).Op → Prop
  | .inr (.invoke call payload _) =>
    call ≠ .getStats →
      ∃ value, Value.ofText payload = .ok value ∧
        value.get? "document_id" = some (.string documentId)
  | _ => True

/-- Whether a result is no refusal of a document's name. -/
def Accepted {α : Type} (result : Except ServiceError α) : Prop :=
  ∀ fault, result = .error (.validation fault) →
    ∃ call size max, fault = .payloadTooLarge call size max

section

variable {α β : Type} {documentId : String}

theorem names_of_quiet (documentId : String) (op : Engine.Bridge.Op)
    (quiet : invocation? op = none) : Names documentId (.inr op) := by
  cases op with
  | invoke call payload token => exact absurd quiet nofun
  | _ => trivial

theorem names_render (call : Engine.Call) (request : Request) (token : Option String) :
    Names request.id.text (.inr (.invoke call request.render token)) :=
  fun _ => request.ofText_render

theorem accepted_of_unvalidated {result : Except ServiceError α}
    (plain : Engine.Client.Unvalidated result) : Accepted result :=
  fun fault same => absurd same (plain fault)

theorem ensures_atEngine {program : Program Engine.Bridge.interface (Except ServiceError α)}
    (inner : Ensures (fun op => Names documentId (.inr op)) Engine.Client.Unvalidated program) :
    Ensures (Names documentId) Accepted (atEngine program) :=
  (Ensures.inRight inner).weaken fun _ => accepted_of_unvalidated

theorem ensures_andThen {action : Action α} {next : α → Action β}
    (first : Ensures (Names documentId) Accepted action)
    (later : ∀ value, Ensures (Names documentId) Accepted (next value)) :
    Ensures (Names documentId) Accepted (action.andThen next) := by
  refine first.bind fun result plain => ?_
  cases result with
  | error error => exact .done fun fault same => plain fault (by rw [Except.error.inj same])
  | ok value => exact later value

theorem ensures_sent (codec : Json.Codec α) (call : Engine.Call) (request : Request) :
    Ensures (Names request.id.text) Accepted
      (atEngine (Engine.Client.callJson codec call (.ok request.render) none)) :=
  ensures_atEngine (Engine.Client.ensures_sendFor codec (names_render call request none)
    (names_of_quiet _))

theorem ensures_refreshStats : Ensures (Names documentId) Accepted refreshStats := by
  have fetches : Ensures (Names documentId) Accepted
      (atEngine (Engine.Client.fetch Stats.record.codec .getStats)) :=
    ensures_atEngine (Engine.Client.ensures_sendFor Stats.record.codec
      (fun unlike => absurd rfl unlike) (names_of_quiet _))
  refine fetches.bind fun result _ => ?_
  cases result with
  | error error => exact .done nofun
  | ok stats => exact .ask trivial fun _ => .done nofun

end

/-- Whether the engine was entered for a request, unless its window had closed or it was too
large. -/
def Entered {α : Type} (call : Engine.Call)
    (events : List (coordination.sum Engine.Bridge.interface).Event)
    (result : Except ServiceError α) : Prop :=
  (∃ event ∈ events, ∃ payload, event.op = .inr (.invoke call payload none)) ∨
    result = .error .resourceBudgetExpired ∨
      ∃ name size max, result = .error (.validation (.payloadTooLarge name size max))

/-- What a request does for a document whose name has no fault. -/
structure Sound {α : Type} (documentId : String) (call : Engine.Call) (action : Action α) :
    Prop where
  ensures : Ensures (Names documentId) Accepted action
  entered : ∀ {σ : Type} (handle : (coordination.sum Engine.Bridge.interface).Handler σ)
    (state : σ), Entered call (action.events handle state) (action.run handle state).1

/-- How a request about a document is let through. One with a faulty name ends with the first fault
and does nothing: the engine is not asked and the worker's side is as it was. Any other goes to the
engine by its entry point, names the document there as it was given, and ends with no fault of its
name. -/
structure Gated {α : Type} (documentId : String) (call : Engine.Call) (action : Action α) :
    Prop where
  refused : ∀ fault, NameFault documentId fault →
    ∀ {σ : Type} (handle : (coordination.sum Engine.Bridge.interface).Handler σ) (state : σ),
      action.run handle state = (.error (.validation fault), state) ∧
        action.events handle state = []
  admitted : (∀ fault, ¬NameFault documentId fault) →
    ∀ {σ : Type} (handle : (coordination.sum Engine.Bridge.interface).Handler σ) (state : σ),
      let events := action.events handle state
      let result := (action.run handle state).1
      (∀ event ∈ events, Names documentId event.op) ∧ Accepted result ∧
        Entered call events result

section

variable {α : Type} {documentId : String} {call : Engine.Call}

theorem gated_named {request : DocumentId → Action α}
    (sound : Sound documentId call (request ⟨documentId⟩)) :
    Gated documentId call (named documentId request) where
  refused fault faulty σ handle state := by
    rw [named, DocumentId.ofText_of_fault faulty]
    exact ⟨rfl, rfl⟩
  admitted faultless σ handle state := by
    rw [named, DocumentId.ofText_of_sound faultless]
    obtain ⟨named, accepted⟩ := sound.ensures.run handle state
    exact ⟨named, accepted, sound.entered handle state⟩

theorem sound_of_first {payload : String}
    {next : (coordination.sum Engine.Bridge.interface).Answer (.inr (.invoke call payload none)) →
      Action α}
    (ensures : Ensures (Names documentId) Accepted (.ask (.inr (.invoke call payload none)) next)) :
    Sound documentId call (.ask (.inr (.invoke call payload none)) next) :=
  ⟨ensures, fun _ _ => .inl ⟨_, List.mem_cons_self .., payload, rfl⟩⟩

theorem sound_of_phase {next : Background.BudgetPhase → Action α}
    (later : ∀ phase, Sound documentId call (next phase)) :
    Sound documentId call (.ask (.inl .phase) next) where
  ensures := .ask trivial fun phase => (later phase).ensures
  entered handle state := by
    have rest := (later (handle (.inl .phase) state).1).entered handle
      (handle (.inl .phase) state).2
    obtain ⟨event, among, entry⟩ | withheld := rest
    · exact .inl ⟨event, List.mem_cons_of_mem _ among, entry⟩
    · exact .inr withheld

theorem gated_sent (codec : Json.Codec α) (call : Engine.Call) {request : DocumentId → Request}
    (about : (request ⟨documentId⟩).id = ⟨documentId⟩) :
    Gated documentId call (named documentId fun id =>
      atEngine (Engine.Client.callJson codec call (.ok (request id).render) none)) := by
  have sound := ensures_sent codec call (request ⟨documentId⟩)
  rw [about] at sound
  exact gated_named (sound_of_first sound)

theorem gated_queue (documentId : String) (priority : Priority) :
    Gated documentId .queueDocument (queue documentId priority) := by
  refine gated_named (sound_of_first (ensures_andThen (ensures_atEngine
    (Engine.Client.ensures_send (names_render .queueDocument (.priority ⟨documentId⟩ priority) none)
      (names_of_quiet _))) fun reply => ?_))
  cases Engine.QueueStatus.ofStatus reply.status with
  | alreadyQueued =>
    exact ensures_andThen (ensures_sent _ .updatePriority (.priority ⟨documentId⟩ priority))
      fun _ => .done nofun
  | _ => exact .done nofun

theorem gated_compress (maxBytes : Nat) (documentId : String) (config : Option Config) :
    Gated documentId .compressDocument (compress maxBytes documentId config) := by
  refine gated_named (sound_of_phase fun phase => ?_)
  by_cases expired : phase = .expired
  · rw [if_pos expired]
    exact ⟨.done nofun, fun _ _ => .inr (.inl rfl)⟩
  rw [if_neg expired]
  by_cases exceeds : maxBytes < (Request.compress ⟨documentId⟩ config).render.utf8ByteSize
  · simp only [ensurePayloadWithin, exceeds, ↓reduceIte]
    refine ⟨.done fun fault refused => ?_, fun _ _ => .inr (.inr ⟨_, _, _, rfl⟩)⟩
    cases refused
    exact ⟨_, _, _, rfl⟩
  · simp only [ensurePayloadWithin, exceeds, ↓reduceIte]
    refine sound_of_first (ensures_andThen (ensures_atEngine (Engine.Client.ensures_sendFor _
      (names_render .compressDocument (.compress ⟨documentId⟩ config) none) (names_of_quiet _)))
      fun summary => ?_)
    exact ensures_andThen ensures_refreshStats fun _ => .done nofun

/-- All requests about documents are behind the same gate. -/
theorem documents_gated (documentId : String) :
    (∀ priority, Gated documentId .queueDocument (queue documentId priority)) ∧
      (∀ priority, Gated documentId .updatePriority (updatePriority documentId priority)) ∧
      (∀ maxBytes config,
        Gated documentId .compressDocument (compress maxBytes documentId config)) ∧
      Gated documentId .cancel (cancel documentId) ∧
      Gated documentId .getDocumentStatus (status documentId) :=
  ⟨gated_queue documentId, fun _ => gated_sent _ .updatePriority rfl,
    fun maxBytes => gated_compress maxBytes documentId, gated_sent _ .cancel rfl,
    gated_sent _ .getDocumentStatus rfl⟩

end

end Compression.Documents
end BackgroundWork
