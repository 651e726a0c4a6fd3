import BackgroundWork.Proofs.CompressionGates
import Mathlib.Algebra.GroupWithZero.Nat
import Mathlib.Data.String.Basic

set_option autoImplicit false

/-!
How many bytes of UTF-8 a request to compress a document takes. A name is limited in characters and
a request in bytes, so what counts is how far a character grows when it is written as JSON: only
controls grow to more than four bytes, and names have none. Main statement: such a request is small
and never refused for its size under the default settings.
-/

namespace BackgroundWork

open String (utf8Len utf8Len_append)

/-! ### Sizes of written values -/

namespace Json

theorem utf8Len_ascii {text : List Char} (ascii : ∀ c ∈ text, c.toNat < 0x80) :
    utf8Len text = text.length := by
  induction text with
  | nil => rfl
  | cons c text ih =>
    have one : c.utf8Size = 1 := by
      have small := ascii c List.mem_cons_self
      rw [Char.utf8Size, if_pos]
      exact Nat.le_of_lt_succ small
    have rest := ih fun other among => ascii other (List.mem_cons_of_mem c among)
    rw [String.utf8Len_cons, one, rest, List.length_cons]

/-- A character that is no control takes at most four bytes, escaped or not. -/
theorem utf8Len_stringChar_le {c : Char} (seen : Text.isControl c = false) :
    utf8Len (stringChar c) ≤ 4 := by
  have shown : 0x20 ≤ c.toNat := by
    simp only [Text.isControl, Bool.or_eq_false_iff, decide_eq_false_iff_not, Nat.not_lt] at seen
    exact seen.1
  have visible : ∀ other : Char, other.toNat < 0x20 → (c == other) = false := by
    intro other hidden
    rw [beq_eq_false_iff_ne]
    rintro rfl
    omega
  unfold stringChar
  rw [visible '\x08' (by decide), visible '\x0c' (by decide), visible '\n' (by decide),
    visible '\r' (by decide), visible '\t' (by decide), if_neg (Nat.not_lt.2 shown)]
  split
  · decide
  split
  · decide
  · have size := Char.utf8Size_le_four c
    simpa using size

theorem utf8Len_flatMap_stringChar_le {chars : List Char}
    (seen : ∀ c ∈ chars, Text.isControl c = false) :
    utf8Len (chars.flatMap stringChar) ≤ 4 * chars.length := by
  induction chars with
  | nil => exact Nat.le_refl 0
  | cons c chars ih =>
    have first := utf8Len_stringChar_le (seen c List.mem_cons_self)
    have later := ih fun other among => seen other (List.mem_cons_of_mem c among)
    rw [List.flatMap_cons, utf8Len_append, List.length_cons]
    omega

theorem utf8Len_stringText_le {text : String}
    (seen : ∀ c ∈ text.toList, Text.isControl c = false) :
    utf8Len (stringText text) ≤ 4 * text.toList.length + 2 := by
  have inner := utf8Len_flatMap_stringChar_le seen
  have quote : '"'.utf8Size = 1 := rfl
  rw [stringText, List.cons_append, String.utf8Len_cons, utf8Len_append, String.utf8Len_cons,
    String.utf8Len_nil, quote]
  omega

theorem utf8Len_intText_le {i : Int} {digits : Nat} (some : 0 < digits)
    (fits : i.natAbs < 10 ^ digits) : utf8Len (Numeric.intText i) ≤ digits + 1 := by
  have ascii : ∀ c ∈ Numeric.natText i.natAbs, c.toNat < 0x80 := by
    intro c among
    have digit := isDigit_natText c among
    simp only [isDigit, Bool.and_eq_true, decide_eq_true_eq, Char.le_def, UInt32.le_iff_toNat_le]
      at digit
    exact Nat.lt_of_le_of_lt digit.2 (by decide)
  have plain : utf8Len (Numeric.natText i.natAbs) ≤ digits := by
    rw [utf8Len_ascii ascii]
    exact (Nat.length_toDigits_le_iff (by decide) some).2 fits
  have sign : '-'.utf8Size = 1 := rfl
  unfold Numeric.intText
  split
  · rw [String.utf8Len_cons, sign]
    omega
  · omega

/-- A list of parts takes one byte for each comma. -/
theorem utf8Len_commaSeparated (part : List Char) (parts : List (List Char)) :
    utf8Len (commaSeparated (part :: parts)) =
      utf8Len part + (parts.map fun other => utf8Len other + 1).sum := by
  have comma : ','.utf8Size = 1 := rfl
  induction parts generalizing part with
  | nil => rfl
  | cons next parts ih =>
    rw [commaSeparated, utf8Len_append, String.utf8Len_cons, comma, ih, List.map_cons,
      List.sum_cons]
    · omega
    · exact List.cons_ne_nil next parts

theorem utf8Len_memberText (key : String) (value : List Char) :
    utf8Len (memberText key value) = utf8Len (stringText key) + utf8Len value + 1 := by
  have colon : ':'.utf8Size = 1 := rfl
  rw [memberText, utf8Len_append, String.utf8Len_cons, colon]
  omega

/-- An object takes one byte in front and one behind each member. -/
theorem utf8Len_objectText (key : String) (value : List Char)
    (members : List (String × List Char)) :
    utf8Len (objectText ((key, value) :: members)) =
      (((key, value) :: members).map fun member =>
        utf8Len (memberText member.1 member.2) + 1).sum + 1 := by
  have braces : '\x7b'.utf8Size = 1 ∧ '\x7d'.utf8Size = 1 := ⟨rfl, rfl⟩
  rw [objectText, List.map_cons, List.cons_append, String.utf8Len_cons, utf8Len_append,
    utf8Len_commaSeparated, String.utf8Len_cons, String.utf8Len_nil, braces.1, braces.2,
    List.map_map, List.map_cons, List.sum_cons]
  simp only [Function.comp_def]
  omega

end Json

/-! ### Requests -/

theorem DocumentId.limits_of_ofText {text : String} {id : DocumentId}
    (accepted : ofText text = .ok id) :
    id.text = text ∧ text.toList.length ≤ 128 ∧
      ∀ c ∈ text.toList, Text.isControl c = false := by
  rw [ofText_eq] at accepted
  split at accepted
  · cases accepted
  split at accepted
  · cases accepted
  next fits =>
    split at accepted
    · cases accepted
    next seen =>
      cases accepted
      refine ⟨rfl, Nat.le_of_not_lt fits, fun c among => ?_⟩
      simpa using fun control => seen (List.any_eq_true.2 ⟨c, among, control⟩)

namespace Compression

open Json (utf8Len_intText_le utf8Len_memberText utf8Len_objectText utf8Len_stringText_le)

theorem Method.utf8Len_name_le (method : Method) :
    utf8Len (Json.stringText method.name) ≤ 16 := by
  cases method <;> decide

theorem Config.utf8Len_encode_le (config : Config) :
    utf8Len (Config.record.codec.encode config) ≤ 93 := by
  have keys : utf8Len (Json.stringText "method") = 8 ∧
      utf8Len (Json.stringText "quality_level") = 15 ∧
      utf8Len (Json.stringText "min_size_bytes") = 16 := by decide
  have method := config.method.utf8Len_name_le
  have quality : utf8Len (Numeric.intText config.qualityLevel.toInt) ≤ 10 + 1 := by
    have low := config.qualityLevel.le_toInt
    have high := config.qualityLevel.toInt_lt
    exact utf8Len_intText_le (by decide) (by omega)
  have size : utf8Len (Numeric.intText config.minSizeBytes.toInt) ≤ 19 + 1 := by
    have low := config.minSizeBytes.le_toInt
    have high := config.minSizeBytes.toInt_lt
    exact utf8Len_intText_le (by decide) (by omega)
  have written : Config.record.codec.encode config =
      Json.objectText [("method", Json.stringText config.method.name),
        ("quality_level", Numeric.intText config.qualityLevel.toInt),
        ("min_size_bytes", Numeric.intText config.minSizeBytes.toInt)] := rfl
  rw [written, utf8Len_objectText]
  simp only [List.map_cons, List.map_nil, List.sum_cons, List.sum_nil, utf8Len_memberText, keys]
  omega

/-- The greatest request has 128 characters of four bytes in its name, and the longest spellings of
a method and of the two numbers. -/
theorem Request.utf8ByteSize_compress_le {text : String} {id : DocumentId}
    (accepted : DocumentId.ofText text = .ok id) (config : Option Config) :
    (Request.compress id config).render.utf8ByteSize ≤ 633 := by
  obtain ⟨same, fits, seen⟩ := DocumentId.limits_of_ofText accepted
  have keys : utf8Len (Json.stringText "document_id") = 13 ∧
      utf8Len (Json.stringText "config") = 8 := by decide
  have name : utf8Len (Json.stringText id.text) ≤ 4 * 128 + 2 := by
    have bound := utf8Len_stringText_le seen
    rw [same]
    omega
  have written : (Request.compress id config).members =
      ("document_id", Json.stringText id.text) ::
        config.toList.map fun config => ("config", Config.record.codec.encode config) := rfl
  rw [Request.render, String.utf8ByteSize_ofList, written, utf8Len_objectText]
  cases config with
  | none =>
    simp only [Option.toList_none, List.map_nil, List.map_cons, List.sum_cons, List.sum_nil,
      utf8Len_memberText, keys]
    omega
  | some config =>
    have inner := config.utf8Len_encode_le
    simp only [Option.toList_some, List.map_nil, List.map_cons, List.sum_cons, List.sum_nil,
      utf8Len_memberText, keys]
    omega

namespace Documents

open Background (BudgetPhase)

theorem withheld_small {maxBytes : Nat} {documentId : String} {config : Option Config}
    {phase : BudgetPhase} {error : ServiceError} (enough : 633 ≤ maxBytes)
    (withheld : Withheld maxBytes documentId (Request.compress ⟨documentId⟩ config).render phase
      error) (call : String) (size max : Nat) :
    error ≠ .validation (.payloadTooLarge call size max) := by
  cases withheld with
  | named faulty => cases faulty <;> exact nofun
  | expired sound closed => exact nofun
  | large sound unexpired exceeds =>
    have small := Request.utf8ByteSize_compress_le (DocumentId.ofText_of_sound sound) config
    omega

/-- A request that is passed on is never refused as input. -/
theorem perform_unvalidated {σ : Type} (handle : Surroundings.Handler σ) (state : σ)
    (payload : String) : Engine.Client.Unvalidated ((perform payload).run handle state).1 := by
  have sends : Program.Ensures (fun _ => True) Engine.Client.Unvalidated
      (Engine.Client.sendFor Summary.record.codec .compressDocument payload none) :=
    Engine.Client.ensures_sendFor Summary.record.codec trivial fun _ _ => trivial
  have answered := (sends.run (Program.handleRight handle) state).2
  rw [Engine.Client.run_sendFor] at answered
  rw [(performed handle state payload).result]
  exact answered

/-- A request to compress a document with an accepted name takes at most 640 bytes, whatever the
name and the configuration. So under the default settings no request is refused for its size,
whatever the name, the phase and the engine's answers. -/
theorem compress_request_small (text : String) (config : Option Config) :
    (∀ id, DocumentId.ofText text = .ok id →
      (Request.compress id config).render.utf8ByteSize ≤ 640) ∧
    ∀ {σ : Type} (handle : Surroundings.Handler σ) (state : σ) (call : String) (size max : Nat),
      ((compress Settings.default.coordinator.maxCompressRequestBytes text config).run handle
          state).1 ≠
        .error (.validation (.payloadTooLarge call size max)) := by
  constructor
  · intro id accepted
    exact Nat.le_trans (Request.utf8ByteSize_compress_le accepted config) (by decide)
  · intro σ handle state call size max refused
    by_cases admitted : Admitted Settings.default.coordinator.maxCompressRequestBytes text
        (Request.compress ⟨text⟩ config).render (handle (.inl .phase) state).1
    · rw [(compress_admitted admitted).1] at refused
      exact perform_unvalidated _ _ _ _ refused
    · obtain ⟨error, withheld⟩ := withheld_of_not_admitted admitted
      rw [(compress_withheld withheld).1] at refused
      exact withheld_small (by decide) withheld call size max (Except.error.inj refused)

/-- The greatest request there is. -/
theorem compress_request_small_greatest :
    let letters := List.replicate 128 '😀'
    let id : DocumentId := ⟨String.ofList letters⟩
    let config : Config := ⟨.officeOptimize, Int32.minValue, Int64.minValue⟩
    DocumentId.ofText (String.ofList letters) = .ok id ∧
      (Request.compress id config).render.utf8ByteSize = 633 ∧
      (Request.compress id config).render.utf8ByteSize ≤ 640 := by
  intro letters id config
  have accepted : DocumentId.ofText (String.ofList letters) = .ok id := by
    rw [DocumentId.ofText_eq, String.toList_ofList, if_neg (by decide +kernel),
      if_neg (by decide +kernel), if_neg (by decide +kernel)]
  have name : Json.stringText id.text = '"' :: letters.flatMap Json.stringChar ++ ['"'] := by
    rw [Json.stringText, String.toList_ofList]
  have written : (Request.compress id config).members =
      [("document_id", '"' :: letters.flatMap Json.stringChar ++ ['"']),
        ("config", Config.record.codec.encode config)] := by
    rw [← name]
    rfl
  have size : (Request.compress id config).render.utf8ByteSize = 633 := by
    rw [Request.render, String.utf8ByteSize_ofList, written]
    decide +kernel
  exact ⟨accepted, size, (compress_request_small _ config).1 id accepted⟩

end Documents
end Compression
end BackgroundWork
