import BackgroundWork.Json.Record
import BackgroundWork.Proofs.JsonReading
import BackgroundWork.Proofs.Utf8Reading
import BackgroundWork.Text.Terminated

set_option autoImplicit false

/-!
No control character is ever written as JSON: strings escape theirs, and what stands between the
strings has none. So every text that is written has a terminated form, with the very bytes of the
text.
-/

namespace BackgroundWork

namespace Text

/-- No character of the text is a control character below the blank. -/
def Printed (text : List Char) : Prop :=
  ∀ c ∈ text, 0x20 ≤ c.toNat

instance (text : List Char) : Decidable (Printed text) :=
  List.decidableBAll (fun c : Char => 0x20 ≤ c.toNat) text

theorem Printed.nil : Printed [] := nofun

theorem printed_cons {c : Char} {text : List Char} :
    Printed (c :: text) ↔ 0x20 ≤ c.toNat ∧ Printed text :=
  List.forall_mem_cons

theorem printed_append {text rest : List Char} :
    Printed (text ++ rest) ↔ Printed text ∧ Printed rest :=
  List.forall_mem_append

theorem Printed.of_subset {text whole : List Char} (printed : Printed whole)
    (within : ∀ c ∈ text, c ∈ whole) : Printed text :=
  fun c among => printed c (within c among)

/-! ### Terminated forms -/

theorem encodeChar_ne_zero {c : Char} (shown : 0x20 ≤ c.toNat) {b : UInt8}
    (among : b ∈ String.utf8EncodeChar c) : b ≠ 0 := by
  have code : 0x20 ≤ c.val.toNat := shown
  have byte : ∀ n : Nat, 0 < n → n < 256 → UInt8.ofNat n ≠ 0 := by
    intro n positive below zero
    have value := congrArg UInt8.toNat zero
    rw [UInt8.toNat_ofNat_of_lt' below] at value
    exact absurd value (by simpa using Nat.ne_of_gt positive)
  -- The lead byte is as large as the character or carries a mark, and so does every tail.
  unfold String.utf8EncodeChar at among
  simp only at among
  split at among
  · obtain rfl := List.mem_singleton.1 among
    exact byte _ (by omega) (by omega)
  split at among
  · simp only [List.mem_cons, List.not_mem_nil, or_false] at among
    rcases among with rfl | rfl <;> exact byte _ (by omega) (by omega)
  split at among
  · simp only [List.mem_cons, List.not_mem_nil, or_false] at among
    rcases among with rfl | rfl | rfl <;> exact byte _ (by omega) (by omega)
  · simp only [List.mem_cons, List.not_mem_nil, or_false] at among
    rcases among with rfl | rfl | rfl | rfl <;> exact byte _ (by omega) (by omega)

theorem Printed.zero_not_mem {text : String} (printed : Printed text.toList) :
    0 ∉ Utf8.encode text := by
  rw [Utf8.encode_eq]
  intro zero
  obtain ⟨c, among, zero⟩ := List.mem_flatMap.1 zero
  exact encodeChar_ne_zero (printed c among) zero rfl

theorem Printed.ofText? {text : String} (printed : Printed text.toList) :
    Terminated.ofText? text = some ⟨Utf8.encode text, printed.zero_not_mem⟩ :=
  dif_neg printed.zero_not_mem

end Text

namespace Numeric

open Text (Printed printed_cons printed_append)

/-! ### Numbers -/

theorem printed_natText (n : Nat) : Printed (natText n) := by
  intro c written
  have digit := Json.isDigit_natText c written
  simp only [Json.isDigit, Bool.and_eq_true, decide_eq_true_eq, Char.le_def, UInt32.le_iff_toNat_le]
    at digit
  exact Nat.le_trans (by decide) digit.1

theorem printed_intText (i : Int) : Printed (intText i) := by
  unfold intText
  split
  · exact printed_cons.2 ⟨by decide, printed_natText _⟩
  · exact printed_natText _

theorem printed_zeros (n : Nat) : Printed (List.replicate n '0') := by
  intro c among
  rw [List.eq_of_mem_replicate among]
  decide

theorem printed_decimal (form : DecimalForm) (x : Decimal) : Printed (x.text form) := by
  have digits := printed_natText x.digits
  have first : ∀ n, Printed ((natText x.digits).take n) := fun n =>
    digits.of_subset fun c => List.mem_of_mem_take
  have later : ∀ n, Printed ((natText x.digits).drop n) := fun n =>
    digits.of_subset fun c => List.mem_of_mem_drop
  unfold Decimal.text
  extract_lets shown count exponent fraction exponentText
  split
  · split
    · exact printed_append.2 ⟨printed_append.2 ⟨digits, printed_zeros _⟩, by decide⟩
    · split
      · exact printed_append.2 ⟨first _, printed_cons.2 ⟨by decide, later _⟩⟩
      · exact printed_append.2
          ⟨printed_cons.2 ⟨by decide, printed_cons.2 ⟨by decide, printed_zeros _⟩⟩, digits⟩
  · have sign : Printed exponentText := by
      refine printed_cons.2 ⟨?_, printed_natText _⟩
      split <;> decide
    have point : Printed (if fraction.isEmpty then [] else '.' :: fraction) := by
      split
      · exact .nil
      · exact printed_cons.2 ⟨by decide, later 1⟩
    exact printed_append.2 ⟨printed_append.2 ⟨first 1, point⟩, printed_cons.2 ⟨by decide, sign⟩⟩

theorem printed_binary {format : Format} (x : Binary format) : Printed x.text := by
  have magnitude : Printed (if x.magnitude = 0 then ['0', '.', '0']
      else (format.shortest x.magnitude).text format.decimalForm) := by
    split
    · decide
    · exact printed_decimal _ _
  unfold Binary.text
  extract_lets body
  split
  · exact printed_cons.2 ⟨by decide, magnitude⟩
  · exact magnitude

end Numeric

namespace Json

open Numeric
open Text (Printed printed_cons printed_append)

/-! ### Strings and truth values -/

theorem printed_hexEscape {c : Char} (control : c.toNat < 0x20) : Printed (hexEscape c) := by
  have digits : ∀ n : Fin 32, Printed (hexEscape (Char.ofNat n)) := by decide
  have here := digits ⟨c.toNat, control⟩
  rwa [Char.ofNat_toNat] at here

theorem printed_stringChar (c : Char) : Printed (stringChar c) := by
  unfold stringChar
  iterate 7
    split
    · decide
  split
  next control => exact printed_hexEscape control
  next shown => exact printed_cons.2 ⟨by omega, .nil⟩

theorem printed_stringText (value : String) : Printed (stringText value) := by
  have inner : Printed (value.toList.flatMap stringChar) := by
    intro c among
    obtain ⟨source, _, among⟩ := List.mem_flatMap.1 among
    exact printed_stringChar source c among
  exact printed_append.2 ⟨printed_cons.2 ⟨by decide, inner⟩, by decide⟩

example : stringText "a\"\x00" = "\"a\\\"\\u0000\"".toList := by decide +kernel

theorem printed_boolText (value : Bool) : Printed (boolText value) := by
  cases value <;> decide

theorem printed_floatText {format : Format} (value : Binary format) :
    Printed (floatText value) := by
  unfold floatText
  split
  · exact printed_binary value
  · decide

/-! ### Lists and objects -/

theorem printed_commaSeparated {parts : List (List Char)}
    (each : ∀ part ∈ parts, Printed part) : Printed (commaSeparated parts) := by
  cases parts with
  | nil => exact .nil
  | cons part parts =>
    obtain ⟨first, later⟩ := List.forall_mem_cons.1 each
    rw [commaSeparated_cons]
    refine printed_append.2 ⟨first, fun c among => ?_⟩
    obtain ⟨other, found, among⟩ := List.mem_flatMap.1 among
    exact (printed_cons.2 ⟨by decide, later other found⟩ : Printed (',' :: other)) c among

theorem printed_listText {items : List (List Char)} (each : ∀ item ∈ items, Printed item) :
    Printed (listText items) :=
  printed_append.2 ⟨printed_cons.2 ⟨by decide, printed_commaSeparated each⟩, by decide⟩

theorem printed_objectText {members : List (String × List Char)}
    (each : ∀ member ∈ members, Printed member.2) : Printed (objectText members) := by
  refine printed_append.2 ⟨printed_cons.2 ⟨by decide, printed_commaSeparated ?_⟩, by decide⟩
  intro text among
  obtain ⟨member, found, rfl⟩ := List.mem_map.1 among
  exact printed_append.2
    ⟨printed_stringText member.1, printed_cons.2 ⟨by decide, each member found⟩⟩

/-! ### Records -/

/-- Whether a codec writes no control character. -/
def Codec.Prints {α : Type} (codec : Codec α) : Prop :=
  ∀ value, Printed (codec.encode value)

theorem Enumeration.prints {α : Type} (enumeration : Enumeration α) : enumeration.codec.Prints :=
  fun value => printed_stringText (enumeration.name value)

/-- Whether the codecs of all members write no control character. -/
def Fields.Prints {βs : List Type} : Fields βs → Prop
  | .nil => True
  | .cons field fields => field.codec.Prints ∧ fields.Prints

theorem Fields.printed_encode {βs : List Type} {fields : Fields βs} (prints : fields.Prints)
    (values : Values βs) : ∀ member ∈ fields.encode values, Printed member.2 := by
  induction fields with
  | nil => exact nofun
  | cons field fields ih =>
    obtain ⟨value, values⟩ := values
    exact List.forall_mem_cons.2 ⟨prints.1 value, ih prints.2 values⟩

theorem Record.prints {α : Type} {record : Record α} (prints : record.fields.Prints) :
    record.codec.Prints :=
  fun value => printed_objectText (Fields.printed_encode prints (record.parts value))

end Json
end BackgroundWork
