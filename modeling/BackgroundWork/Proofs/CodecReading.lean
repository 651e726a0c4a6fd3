import BackgroundWork.Json.Codec
import BackgroundWork.Proofs.JsonReading

set_option autoImplicit false

/-!
What a codec writes it reads back, whatever stands behind it that is no part of a number. Scalars
read back by what they are made of, a string by its content and an integer by its digits; an
optional value and a list read back if what they hold does.
-/

namespace BackgroundWork.Json

open Numeric (natText intText)

namespace Codec

variable {α : Type}

/-- What the codec writes for a value reads back as that value, if at most `depth` lists and
objects are opened. -/
structure ReadsBack (codec : Codec α) (depth : Nat) (value : α) : Prop where
  starts : ∃ c letters, codec.encode value = c :: letters ∧ isSpace c = false ∧ c ≠ ']'
  reads : ∀ rest, EndsNumber rest →
    codec.decode depth (codec.encode value ++ rest) = .ok (value, rest)

/-- Whether the codec never writes the empty value. -/
def IsPresent (codec : Codec α) : Prop :=
  ∀ value, (codec.encode value).head? ≠ some 'n'

variable {codec : Codec α} {depth : Nat} {value : α}

/-- What reads back in front of a text reads back from a whole text. -/
theorem ReadsBack.ofText_render (readsBack : codec.ReadsBack depthLimit value) :
    codec.ofText (codec.render value) = .ok value := by
  have read := readsBack.reads [] trivial
  rw [List.append_nil] at read
  simp only [ofText, render, decodeWith, String.toList_ofList, read]
  rfl

/-! ### Strings -/

theorem decodeString_stringText (expected : String) (depth : Nat) (text : String)
    (rest : List Char) :
    decodeString expected depth (stringText text ++ rest) = .ok (text, rest) := by
  have read := string_written text rest
  have opened : stringText text ++ rest =
      '"' :: (text.toList.flatMap stringChar ++ '"' :: rest) := by
    simp [stringText]
  rw [opened, decodeString, dropSpace_cons rfl]
  exact read

theorem stringText_starts (text : String) :
    ∃ c letters, stringText text = c :: letters ∧ isSpace c = false ∧ c ≠ ']' :=
  ⟨_, _, rfl, rfl, by decide⟩

theorem string_readsBack (text : String) : string.ReadsBack depth text where
  starts := stringText_starts text
  reads rest _ := decodeString_stringText "a string" depth text rest

theorem string_isPresent : string.IsPresent := by
  intro text
  simp [string, stringText]

/-- A string with a content reads back if the content does. -/
theorem content_readsBack {expected : String} {read : String → Except String α}
    {write : α → String} (same : read (write value) = .ok value) :
    (content expected read write).ReadsBack depth value where
  starts := stringText_starts (write value)
  reads rest _ := by
    have written := decodeString_stringText expected depth (write value) rest
    simp only [content, written, same]

theorem content_isPresent {expected : String} {read : String → Except String α}
    {write : α → String} : (content expected read write).IsPresent := by
  intro value
  simp [content, stringText]

/-- A named value reads back if its name is among those that are read. -/
theorem enumeration_readsBack {enumeration : Enumeration α}
    (known : enumeration.ofName? (enumeration.name value) = some value) :
    enumeration.codec.ReadsBack depth value where
  starts := stringText_starts (enumeration.name value)
  reads rest _ := by
    have read := string_written (enumeration.name value) rest
    have opened : stringText (enumeration.name value) ++ rest =
        '"' :: ((enumeration.name value).toList.flatMap stringChar ++ '"' :: rest) := by
      simp [stringText]
    simp only [Enumeration.codec, opened, dropSpace_cons (show isSpace '"' = false from rfl), read,
      Enumeration.ofName, known]
    rfl

/-! ### Truth values and numbers -/

theorem bool_readsBack (truth : Bool) : bool.ReadsBack depth truth where
  starts := by cases truth <;> exact ⟨_, _, rfl, rfl, by decide⟩
  reads rest _ := by cases truth <;> rfl

theorem natText_starts (n : Nat) :
    ∃ c letters, natText n = c :: letters ∧ isSpace c = false ∧ c ≠ ']' := by
  obtain ⟨c, letters, written, digit⟩ := Written.natText_starts n
  exact ⟨c, letters, written, isSpace_digit digit, digit_ne digit rfl⟩

theorem intText_starts (i : Int) :
    ∃ c letters, intText i = c :: letters ∧ isSpace c = false ∧ c ≠ ']' := by
  unfold intText
  by_cases negative : i < 0
  · rw [if_pos negative]
    exact ⟨_, _, rfl, rfl, by decide⟩
  · rw [if_neg negative]
    exact natText_starts i.natAbs

theorem natText_head_ne (n : Nat) : (natText n).head? ≠ some 'n' := by
  obtain ⟨c, letters, written, digit⟩ := Written.natText_starts n
  have unlike : c ≠ 'n' := digit_ne digit rfl
  simpa [written] using unlike

theorem intText_head_ne (i : Int) : (intText i).head? ≠ some 'n' := by
  unfold intText
  by_cases negative : i < 0
  · simp [negative]
  · rw [if_neg negative]
    exact natText_head_ne i.natAbs

theorem decodeNumber_natText (expected : String) (depth : Nat) {n : Nat}
    (fits : n < 18446744073709551616) {rest : List Char} (ends : EndsNumber rest) :
    decodeNumber expected depth (natText n ++ rest) = .ok (.integer n, rest) := by
  obtain ⟨c, letters, written, digit⟩ := Written.natText_starts n
  have read := number_written fits false ends
  have minus : c ≠ '-' := digit_ne digit rfl
  rw [written, List.cons_append] at read ⊢
  rw [decodeNumber, dropSpace_cons (isSpace_digit digit)]
  split
  · exact absurd (List.cons.inj ‹_›).1 minus
  · rename_i same
    obtain ⟨rfl, rfl⟩ := List.cons.inj same
    rw [if_pos digit, read]
    rfl
  · exact absurd ‹c :: (letters ++ rest) = []› (List.cons_ne_nil _ _)

theorem decodeNumber_intText (expected : String) (depth : Nat) {i : Int}
    (least : -9223372036854775808 ≤ i) (greatest : i < 18446744073709551616)
    {rest : List Char} (ends : EndsNumber rest) :
    decodeNumber expected depth (intText i ++ rest) = .ok (.integer i, rest) := by
  unfold intText
  by_cases negative : i < 0
  · have value : -(i.natAbs : Int) = i := by omega
    have read := number_written (show i.natAbs < 18446744073709551616 by omega) true ends
    rw [wholeNumber_minus (by omega) (by omega), value] at read
    rw [if_pos negative, List.cons_append, decodeNumber, dropSpace_cons rfl]
    exact read
  · have value : (i.natAbs : Int) = i := by omega
    have fits : i.natAbs < 18446744073709551616 := by omega
    have read := decodeNumber_natText expected depth fits ends
    rw [if_neg negative, read, value]

/-- An integer that both the kind of number and 64 bits hold reads back. -/
theorem decodeInteger_intText (expected : String) (depth : Nat) {i least greatest : Int}
    (above : least ≤ i) (below : i ≤ greatest) (low : -9223372036854775808 ≤ i)
    (high : i < 18446744073709551616) {rest : List Char} (ends : EndsNumber rest) :
    decodeInteger expected least greatest depth (intText i ++ rest) = .ok (i, rest) := by
  have read := decodeNumber_intText expected depth low high ends
  have inside : (decide (least ≤ i) && decide (i ≤ greatest)) = true := by simp [above, below]
  simp only [decodeInteger, read, inside, ↓reduceIte]

theorem int64_readsBack (i : Int64) : int64.ReadsBack depth i where
  starts := intText_starts i.toInt
  reads rest ends := by
    have low : -9223372036854775808 ≤ i.toInt := i.le_toInt
    have high : i.toInt ≤ 9223372036854775807 := Int.le_of_lt_add_one i.toInt_lt
    have read := decodeInteger_intText "i64" depth low high low (by omega) ends
    simp only [int64, read, Except.map, Int64.ofInt_toInt]

theorem int64_isPresent : int64.IsPresent := fun i => intText_head_ne i.toInt

theorem int32_readsBack (i : Int32) : int32.ReadsBack depth i where
  starts := intText_starts i.toInt
  reads rest ends := by
    have low : -2147483648 ≤ i.toInt := i.le_toInt
    have high : i.toInt ≤ 2147483647 := Int.le_of_lt_add_one i.toInt_lt
    have read := decodeInteger_intText "i32" depth low high (by omega) (by omega) ends
    simp only [int32, read, Except.map, Int32.ofInt_toInt]

theorem int32_isPresent : int32.IsPresent := fun i => intText_head_ne i.toInt

theorem word_readsBack (expected : String) (n : UInt64) :
    (decodeWord expected).ReadsBack depth n where
  starts := natText_starts n.toNat
  reads rest ends := by
    have fits : n.toNat < 18446744073709551616 := n.toNat_lt
    have read := decodeNumber_natText expected depth fits ends
    have inside : (decide ((0 : Int) ≤ n.toNat) &&
        decide ((n.toNat : Int) ≤ 18446744073709551615)) = true := by
      simp
      omega
    simp only [decodeWord, decodeInteger, read, inside, ↓reduceIte, Except.map, Int.toNat_natCast,
      UInt64.ofNat_toNat]

/-! ### Optional values -/

/-- An optional value reads back if its content does and is not taken for the empty value. -/
theorem option_readsBack (present : codec.IsPresent) {value : Option α}
    (inner : ∀ held, value = some held → codec.ReadsBack depth held) :
    codec.option.ReadsBack depth value := by
  cases value with
  | none => exact ⟨⟨_, _, rfl, rfl, by decide⟩, fun rest _ => rfl⟩
  | some held =>
    obtain ⟨starts, reads⟩ := inner held rfl
    refine ⟨starts, fun rest ends => ?_⟩
    obtain ⟨c, letters, written, shown, _⟩ := starts
    have read := reads rest ends
    have filled : c ≠ 'n' := by simpa [written] using present held
    simp only [option]
    rw [written, List.cons_append] at read ⊢
    rw [dropSpace_cons shown]
    split
    · exact absurd (List.cons.inj ‹_›).1 filled
    · rw [read]
      rfl

/-! ### Lists -/

theorem itemsRead_encode {values : List α}
    (each : ∀ value ∈ values, codec.ReadsBack depth value) :
    ItemsRead (codec.decode depth) (values.map codec.encode) values := by
  induction values with
  | nil => exact .nil
  | cons value values ih =>
    obtain ⟨first, later⟩ := List.forall_mem_cons.1 each
    obtain ⟨c, letters, written, shown, unlike⟩ := first.starts
    have read := first.reads
    simp only [List.map_cons, written] at read ⊢
    exact .cons shown unlike read (ih later)

/-- A list reads back if its elements do. -/
theorem list_readsBack {values : List α} (each : ∀ value ∈ values, codec.ReadsBack depth value) :
    codec.list.ReadsBack (depth + 1) values where
  starts := ⟨_, _, rfl, rfl, by decide⟩
  reads rest _ := by
    have opened : codec.list.encode values ++ rest =
        '[' :: (commaSeparated (values.map codec.encode) ++ ']' :: rest) := by
      simp [list, listText]
    have entered : codec.list.decode (depth + 1)
          ('[' :: (commaSeparated (values.map codec.encode) ++ ']' :: rest)) =
        items (codec.decode depth) (commaSeparated (values.map codec.encode) ++ ']' :: rest) :=
      rfl
    rw [opened, entered, items_read (itemsRead_encode each)]

end Codec
end BackgroundWork.Json
