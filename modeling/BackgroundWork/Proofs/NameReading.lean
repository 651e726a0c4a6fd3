import BackgroundWork.Proofs.CodecReading
import BackgroundWork.Proofs.DocumentGate
import BackgroundWork.Proofs.StringReading

set_option autoImplicit false

/-!
Names of documents that are read from JSON. The codec takes the text of a string as it stands and
never asks the checks that a name given by the user goes through, so a name can be held that they
would refuse. Main statement: a name is read exactly from the strings that spell it, and the checks
would accept all that a text is read as exactly if what it spells is sound.
-/

namespace BackgroundWork.DocumentId

open Json (Codec Spelled decodeWith_eq_ok_iff string_ofText_eq_ok_iff)

/-- What the checks ask of a name. -/
structure Sound (name : String) : Prop where
  shows : Text.trim name.toList ≠ []
  fits : name.toList.length ≤ 128
  printable : ∀ c ∈ name.toList, Text.isControl c = false

theorem ofText_eq_ok_iff {name : String} {id : DocumentId} :
    ofText name = .ok id ↔ id = ⟨name⟩ ∧ Sound name := by
  rw [ofText_eq]
  constructor
  · intro accepted
    split at accepted
    · cases accepted
    next shows =>
      split at accepted
      · cases accepted
      next fits =>
        split at accepted
        · cases accepted
        next printable =>
          cases accepted
          exact ⟨rfl, shows, Nat.not_lt.1 fits, by simpa using printable⟩
  · rintro ⟨rfl, shows, fits, printable⟩
    rw [if_neg shows, if_neg (Nat.not_lt.2 fits), if_neg (by simpa using printable)]

theorem codec_decode_eq_ok_iff {depth : Nat} {text rest : List Char} {id : DocumentId} :
    codec.decode depth text = .ok (id, rest) ↔
      Codec.string.decode depth text = .ok (id.text, rest) := by
  obtain ⟨name⟩ := id
  simp only [codec]
  cases Codec.string.decode depth text with
  | error fault => simp [Except.map]
  | ok reading => simp [Except.map, Prod.ext_iff]

theorem codec_ofText_eq_ok_iff {text : String} {id : DocumentId} :
    codec.ofText text = .ok id ↔ Spelled text id.text := by
  rw [← string_ofText_eq_ok_iff, Codec.ofText, Codec.ofText, decodeWith_eq_ok_iff,
    decodeWith_eq_ok_iff]
  simp only [codec_decode_eq_ok_iff]

/-- Every name is read back from what is written for it, sound or not. -/
theorem ofText_render (id : DocumentId) : codec.ofText (codec.render id) = .ok id := by
  have read : Codec.string.ofText (Codec.string.render id.text) = .ok id.text :=
    (Codec.string_readsBack id.text).ofText_render
  exact codec_ofText_eq_ok_iff.2 (string_ofText_eq_ok_iff.1 read)

/-- A name is read exactly from the texts that are strings and spell it. The checks accept whatever
is read from a text exactly if what it spells is sound, and no name is so unsound that it is not
read from the text that is written for it. -/
theorem names_read_unchecked (text : String) :
    (∀ id, codec.ofText text = .ok id ↔ Spelled text id.text) ∧
    ((∀ id, codec.ofText text = .ok id → ofText id.text = .ok id) ↔
      ∀ name, Spelled text name → Sound name) ∧
    ∀ id, codec.ofText (codec.render id) = .ok id := by
  refine ⟨fun id => codec_ofText_eq_ok_iff, ⟨fun accepted name spelled => ?_, ?_⟩, ofText_render⟩
  · have read : codec.ofText text = .ok ⟨name⟩ := codec_ofText_eq_ok_iff.2 spelled
    exact (ofText_eq_ok_iff.1 (accepted _ read)).2
  · intro sound id read
    exact ofText_eq_ok_iff.2 ⟨rfl, sound _ (codec_ofText_eq_ok_iff.1 read)⟩

/-- The empty string is read as a name, which no user may give. -/
theorem empty_name_read :
    codec.ofText "\"\"" = .ok ⟨""⟩ ∧ ofText "" = .error (.required "document_id") := by
  have spelled : Spelled "\"\"" "" := ⟨[], [], [], nofun, nofun, .nil, rfl⟩
  exact ⟨codec_ofText_eq_ok_iff.2 spelled, rfl⟩

end BackgroundWork.DocumentId
