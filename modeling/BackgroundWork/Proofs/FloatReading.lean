import BackgroundWork.Proofs.CodecReading
import BackgroundWork.Proofs.NumberReading
import Mathlib.Algebra.Order.Field.Basic
import Mathlib.Data.Rat.Defs
import Mathlib.Tactic.Ring

set_option autoImplicit false

/-!
Floating-point numbers as values and as texts. A finite number is a whole number of least units,
and greater magnitudes are greater numbers. It is written without blanks, so that a text which
reads back alone reads back wherever it stands.

Main statements: `units_strictMono`, `binary_readsBack`.
-/

namespace BackgroundWork

namespace Numeric

/-! ### The values of magnitudes -/

namespace Format

variable {format : Format}

theorem fractions_pos : 0 < format.fractions :=
  Nat.two_pow_pos format.fractionBits

theorem one_pos : 0 < format.one :=
  Nat.two_pow_pos format.scale

/-- A magnitude stands for less than the first with the next exponent. -/
theorem units_lt (magnitude : Nat) :
    format.units magnitude < format.fractions * 2 ^ (magnitude / format.fractions) := by
  have inside : magnitude % format.fractions < format.fractions :=
    Nat.mod_lt magnitude fractions_pos
  unfold units
  generalize magnitude / format.fractions = exponent
  cases exponent with
  | zero => simpa using inside
  | succ exponent =>
    have scale : (0 : Nat) < 2 ^ exponent := Nat.two_pow_pos exponent
    simp only [Nat.succ_ne_zero, ↓reduceIte, Nat.add_sub_cancel, Nat.pow_eq]
    calc (format.fractions + magnitude % format.fractions) * 2 ^ exponent
        < (format.fractions + format.fractions) * 2 ^ exponent :=
          Nat.mul_lt_mul_of_pos_right (by omega) scale
      _ = format.fractions * 2 ^ (exponent + 1) := by rw [Nat.pow_succ]; ring

/-- The step from a magnitude to the next one. -/
theorem units_succ (magnitude : Nat) :
    format.units (magnitude + 1) =
      format.units magnitude + 2 ^ (magnitude / format.fractions - 1) := by
  have parts : format.fractions * (magnitude / format.fractions) +
      magnitude % format.fractions = magnitude := Nat.div_add_mod _ _
  have inside : magnitude % format.fractions < format.fractions :=
    Nat.mod_lt magnitude fractions_pos
  by_cases last : magnitude % format.fractions + 1 = format.fractions
  · -- The next one is the first with the next exponent.
    have next : magnitude + 1 = format.fractions * (magnitude / format.fractions + 1) := by
      rw [Nat.mul_add_one]
      omega
    have exponent : (magnitude + 1) / format.fractions = magnitude / format.fractions + 1 := by
      rw [next, Nat.mul_div_cancel_left _ fractions_pos]
    have fraction : (magnitude + 1) % format.fractions = 0 := by
      rw [next, Nat.mul_mod_right]
    unfold units
    simp only [exponent, fraction, Nat.succ_ne_zero, ↓reduceIte, Nat.add_zero,
      Nat.add_sub_cancel, Nat.pow_eq]
    cases magnitude / format.fractions with
    | zero => simpa using last.symm
    | succ exponent =>
      simp only [Nat.succ_ne_zero, ↓reduceIte, Nat.add_sub_cancel]
      calc format.fractions * 2 ^ (exponent + 1)
          = (format.fractions + format.fractions) * 2 ^ exponent := by rw [Nat.pow_succ]; ring
        _ = (format.fractions + magnitude % format.fractions + 1) * 2 ^ exponent := by
            rw [Nat.add_assoc, last]
        _ = _ := Nat.succ_mul ..
  · have next : magnitude + 1 = magnitude % format.fractions + 1 +
        format.fractions * (magnitude / format.fractions) := by omega
    have fits : magnitude % format.fractions + 1 < format.fractions := by omega
    have exponent : (magnitude + 1) / format.fractions = magnitude / format.fractions := by
      rw [next, Nat.add_mul_div_left _ _ fractions_pos, Nat.div_eq_of_lt fits, Nat.zero_add]
    have fraction : (magnitude + 1) % format.fractions = magnitude % format.fractions + 1 := by
      rw [next, Nat.add_mul_mod_self_left, Nat.mod_eq_of_lt fits]
    unfold units
    simp only [exponent, fraction, Nat.pow_eq]
    split
    next least => rw [least]; rfl
    next => rw [← Nat.add_assoc, Nat.succ_mul]

/-- Each magnitude stands for less than the next one. -/
theorem units_lt_succ (magnitude : Nat) :
    format.units magnitude < format.units (magnitude + 1) := by
  rw [units_succ]
  exact Nat.lt_add_of_pos_right (Nat.two_pow_pos _)

/-- Greater magnitudes stand for greater values. -/
theorem units_strictMono : StrictMono format.units :=
  strictMono_nat_of_lt_succ units_lt_succ

theorem units_mono {low high : Nat} (ordered : low ≤ high) :
    format.units low ≤ format.units high :=
  units_strictMono.monotone ordered

end Format

namespace Binary

variable {format : Format}

/-- The number that a finite value is. -/
def value (x : Binary format) : ℚ :=
  (if x.negative then -1 else 1) * (x.units / format.one)

theorem value_positive {x : Binary format} (sign : x.negative = false) :
    x.value = x.units / format.one := by
  rw [value, sign]
  simp

/-- Zero of either sign is zero. -/
theorem value_zero {x : Binary format} (zero : x.magnitude = 0) : x.value = 0 := by
  have none : x.units = 0 := by
    simp [units, Format.units, zero]
  simp [value, none]

end Binary

/-! ### Digits and signs -/

/-- The characters that numbers are written with. -/
def isNumeral (c : Char) : Bool :=
  Json.isDigit c || c == '.' || c == 'e' || c == '+' || c == '-'

theorem isNumeral_natText (n : Nat) : ∀ c ∈ natText n, isNumeral c = true := by
  intro c among
  simp [isNumeral, Json.isDigit_natText c among]

theorem isNumeral_zeros (n : Nat) : ∀ c ∈ List.replicate n '0', isNumeral c = true := by
  intro c among
  rw [List.eq_of_mem_replicate among]
  rfl

theorem isNumeral_decimal (form : DecimalForm) (x : Decimal) :
    ∀ c ∈ x.text form, isNumeral c = true := by
  have digits := isNumeral_natText x.digits
  have first : ∀ n, ∀ c ∈ (natText x.digits).take n, isNumeral c = true :=
    fun n c among => digits c (List.mem_of_mem_take among)
  have later : ∀ n, ∀ c ∈ (natText x.digits).drop n, isNumeral c = true :=
    fun n c among => digits c (List.mem_of_mem_drop among)
  unfold Decimal.text
  extract_lets shown count exponent fraction exponentText
  split
  · split
    · exact List.forall_mem_append.2
        ⟨List.forall_mem_append.2 ⟨digits, isNumeral_zeros _⟩, List.all_eq_true.1 rfl⟩
    · split
      · exact List.forall_mem_append.2 ⟨first _, List.forall_mem_cons.2 ⟨rfl, later _⟩⟩
      · exact List.forall_mem_append.2 ⟨List.forall_mem_cons.2 ⟨rfl,
          List.forall_mem_cons.2 ⟨rfl, isNumeral_zeros _⟩⟩, digits⟩
  · have sign : ∀ c ∈ exponentText, isNumeral c = true := by
      refine List.forall_mem_cons.2 ⟨?_, isNumeral_natText _⟩
      split <;> rfl
    have point : ∀ c ∈ (if fraction.isEmpty then [] else '.' :: fraction), isNumeral c = true := by
      split
      · exact nofun
      · exact List.forall_mem_cons.2 ⟨rfl, later 1⟩
    exact List.forall_mem_append.2
      ⟨List.forall_mem_append.2 ⟨first 1, point⟩, List.forall_mem_cons.2 ⟨rfl, sign⟩⟩

theorem isNumeral_binary {format : Format} (x : Binary format) :
    ∀ c ∈ x.text, isNumeral c = true := by
  have body : ∀ c ∈ (if x.magnitude = 0 then ['0', '.', '0']
      else (format.shortest x.magnitude).text format.decimalForm), isNumeral c = true := by
    split
    · exact List.all_eq_true.1 rfl
    · exact isNumeral_decimal _ _
  unfold Binary.text
  dsimp only
  split
  · exact List.forall_mem_cons.2 ⟨rfl, body⟩
  · exact body

end Numeric

namespace Json

open Numeric

/-! ### Floating-point numbers -/

theorem isNumeral_ne {c other : Char} (numeral : isNumeral c = true)
    (none : isNumeral other = false) : c ≠ other := by
  rintro rfl
  exact absurd numeral (by simp [none])

theorem isSpace_numeral {c : Char} (numeral : isNumeral c = true) : isSpace c = false := by
  have blank : c ≠ ' ' := isNumeral_ne numeral rfl
  have tab : c ≠ '\t' := isNumeral_ne numeral rfl
  have line : c ≠ '\n' := isNumeral_ne numeral rfl
  have carriage : c ≠ '\r' := isNumeral_ne numeral rfl
  simp [isSpace, blank, tab, line, carriage]

/-- The nearest number of a format. -/
def Number.nearest (format : Format) : Number → Binary format
  | .integer value => .ofInt value
  | .float value => value.convert format

theorem binary_decode_iff {format : Format} {expected : String} {depth : Nat}
    {text rest : List Char} {x : Binary format} :
    (Codec.binary format expected).decode depth text = .ok (x, rest) ↔
      ∃ number, Codec.decodeNumber expected depth text = .ok (number, rest) ∧
        number.nearest format = x := by
  simp only [Codec.binary]
  constructor
  · intro read
    split at read
    · cases read
    next value after taken =>
      cases read
      exact ⟨_, taken, rfl⟩
    next value after taken =>
      cases read
      exact ⟨_, taken, rfl⟩
  · rintro ⟨number, taken, rfl⟩
    cases number with
    | integer value => simp only [taken, Number.nearest]
    | float value => simp only [taken, Number.nearest]

section

variable {format : Format} {expected : String} {x : Binary format}

/-- A finite number whose text reads back alone is a number wherever it is written. -/
theorem binary_written (finite : x.isFinite = true)
    (readsBack : (Codec.binary format expected).ofText
      ((Codec.binary format expected).render x) = .ok x) :
    ∃ number, number.nearest format = x ∧ ∀ depth rest, EndsNumber rest →
      Codec.decodeNumber expected depth (floatText x ++ rest) = .ok (number, rest) := by
  have text : floatText x = x.text := by
    rw [floatText, if_pos finite]
  obtain ⟨after, read, blank⟩ := decodeWith_eq_ok_iff.1 readsBack
  obtain ⟨number, taken, nearest⟩ := binary_decode_iff.1 read
  have whole : ((Codec.binary format expected).render x).toList = floatText x :=
    String.toList_ofList
  rw [whole] at taken
  obtain ⟨front, shape, reads⟩ := decodeNumber_front taken
  -- What is left behind the number would be blank, and numbers are written without blanks.
  have nothing : after = [] := by
    refine List.eq_nil_iff_forall_not_mem.2 fun c among => ?_
    have numeral := isNumeral_binary x c (by
      rw [← text, shape]
      exact List.mem_append_right front among)
    exact absurd (blank c among) (by simp [isSpace_numeral numeral])
  rw [nothing, List.append_nil] at shape
  refine ⟨number, nearest, fun depth rest ends => ?_⟩
  rw [shape]
  exact reads rest ends

/-- A finite number whose text reads as a number does not start with a blank. -/
theorem floatText_starts (finite : x.isFinite = true) {depth : Nat} {number : Number}
    (reads : Codec.decodeNumber expected depth (floatText x) = .ok (number, [])) :
    ∃ c letters, floatText x = c :: letters ∧ isSpace c = false ∧ c ≠ ']' := by
  have text : floatText x = x.text := by
    rw [floatText, if_pos finite]
  cases written : floatText x with
  | nil =>
    rw [written] at reads
    cases reads
  | cons c letters =>
    have numeral := isNumeral_binary x c (by rw [← text, written]; exact List.mem_cons_self)
    exact ⟨c, letters, rfl, isSpace_numeral numeral, isNumeral_ne numeral rfl⟩

theorem binary_readsBack (finite : x.isFinite = true)
    (readsBack : (Codec.binary format expected).ofText
      ((Codec.binary format expected).render x) = .ok x) (depth : Nat) :
    (Codec.binary format expected).ReadsBack depth x where
  starts := by
    obtain ⟨number, -, reads⟩ := binary_written finite readsBack
    have alone := reads depth [] trivial
    rw [List.append_nil] at alone
    exact floatText_starts finite alone
  reads rest ends := by
    obtain ⟨number, nearest, reads⟩ := binary_written finite readsBack
    exact binary_decode_iff.2 ⟨number, reads depth rest ends, nearest⟩

end

end Json

end BackgroundWork
