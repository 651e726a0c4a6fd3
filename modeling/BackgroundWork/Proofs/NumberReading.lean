import BackgroundWork.Json.Codec
import BackgroundWork.Proofs.ValueReading
import Mathlib.Data.List.TakeWhile

set_option autoImplicit false

/-!
How far a number reaches. A number is a run of digits, perhaps a point with a second run, and
perhaps an exponent. Where it stops is settled by its own characters: another text behind it makes
no difference as long as the number does not go on there, and whether its value is asked for or it
is passed over, the same text is left.

Main statements: `number_front`, `decodeNumber_front`.
-/

namespace BackgroundWork.Json

/-! ### Runs of digits -/

/-- One or more decimal digits. -/
structure Digits (digits : List Char) : Prop where
  nonempty : digits ≠ []
  each : ∀ c ∈ digits, isDigit c = true

/-- The digits before a point: a zero does not stand before others. -/
structure WholeDigits (digits : List Char) : Prop extends Digits digits where
  plain : (1 < digits.length && digits.head? == some '0') = false

/-- No digit stands at the front. -/
def NoDigit : List Char → Prop
  | [] => True
  | c :: _ => isDigit c = false

theorem noDigit_cons {c : Char} {text : List Char} : NoDigit (c :: text) ↔ isDigit c = false :=
  Iff.rfl

theorem EndsNumber.noDigit {text : List Char} (ends : EndsNumber text) : NoDigit text := by
  cases text with
  | nil => trivial
  | cons c text => exact ends.1

theorem EndsNumber.unlettered {text : List Char} (ends : EndsNumber text) :
    text.head? ≠ some '.' ∧ text.head? ≠ some 'e' ∧ text.head? ≠ some 'E' := by
  cases text with
  | nil => simp
  | cons c text => simpa using ends.2

theorem Digits.isEmpty {digits : List Char} (run : Digits digits) : digits.isEmpty = false :=
  List.isEmpty_eq_false_iff.2 run.nonempty

section

variable {digits behind : List Char}

theorem takeWhile_digits (run : Digits digits) (stops : NoDigit behind) :
    (digits ++ behind).takeWhile isDigit = digits := by
  have taken : behind.takeWhile isDigit = [] := by
    cases behind with
    | nil => rfl
    | cons c behind => exact List.takeWhile_cons_of_neg (by simp [noDigit_cons.1 stops])
  rw [List.takeWhile_append_of_pos run.each, taken, List.append_nil]

theorem dropWhile_digits (run : Digits digits) (stops : NoDigit behind) :
    (digits ++ behind).dropWhile isDigit = behind := by
  have dropped : behind.dropWhile isDigit = behind := by
    cases behind with
    | nil => rfl
    | cons c behind => exact List.dropWhile_cons_of_neg (by simp [noDigit_cons.1 stops])
  rw [List.dropWhile_append_of_pos run.each, dropped]

/-- A text that starts with a digit is a run of digits and what stands behind it. -/
theorem digits_split {text : List Char} (filled : (text.takeWhile isDigit).isEmpty = false) :
    ∃ digits behind, text = digits ++ behind ∧ Digits digits ∧ NoDigit behind := by
  refine ⟨text.takeWhile isDigit, text.dropWhile isDigit,
    List.takeWhile_append_dropWhile.symm,
    ⟨List.isEmpty_eq_false_iff.1 filled, List.all_eq_true.1 List.all_takeWhile⟩, ?_⟩
  cases dropped : text.dropWhile isDigit with
  | nil => trivial
  | cons c behind =>
    have stopped := List.head?_dropWhile_not isDigit text
    rw [dropped] at stopped
    simpa [noDigit_cons] using stopped

theorem skipDigits_run (run : Digits digits) (stops : NoDigit behind) :
    skipDigits (digits ++ behind) = .ok behind := by
  rw [skipDigits, takeWhile_digits run stops, dropWhile_digits run stops, run.isEmpty]
  rfl

end

/-! ### Exponents -/

/-- The sign of an exponent, and whether it points down. -/
inductive ExponentSign : List Char → Bool → Prop
  | none : ExponentSign [] false
  | plus : ExponentSign ['+'] false
  | minus : ExponentSign ['-'] true

theorem exponentDigits_eq_ok_iff {text rest digits : List Char} {down : Bool} :
    exponentDigits text = .ok ((down, digits), rest) ↔
      ∃ sign, ExponentSign sign down ∧ Digits digits ∧ NoDigit rest ∧
        text = sign ++ (digits ++ rest) := by
  constructor
  · intro read
    unfold exponentDigits at read
    split at read
    next negative behind signed =>
      obtain ⟨sign, isSign, rfl⟩ : ∃ sign, ExponentSign sign negative ∧ text = sign ++ behind := by
        split at signed <;> cases signed
        · exact ⟨_, .plus, rfl⟩
        · exact ⟨_, .minus, rfl⟩
        · exact ⟨_, .none, rfl⟩
      simp only at read
      split at read
      · cases read
      next filled =>
        obtain ⟨run, after, rfl, isRun, stops⟩ := digits_split (by simpa using filled)
        rw [takeWhile_digits isRun stops, dropWhile_digits isRun stops] at read
        cases read
        exact ⟨sign, isSign, isRun, stops, rfl⟩
  · rintro ⟨sign, isSign, run, stops, rfl⟩
    have unsigned : exponentDigits (digits ++ rest) = .ok ((false, digits), rest) := by
      obtain ⟨c, others, rfl⟩ := List.exists_cons_of_ne_nil run.nonempty
      have digit := run.each c List.mem_cons_self
      have taken := takeWhile_digits run stops
      have dropped := dropWhile_digits run stops
      rw [List.cons_append] at taken dropped ⊢
      unfold exponentDigits
      split
      next negative behind signed =>
        split at signed
        next same => exact absurd (List.cons.inj same).1 (digit_ne digit rfl)
        next same => exact absurd (List.cons.inj same).1 (digit_ne digit rfl)
        · cases signed
          simp only [taken, dropped, List.isEmpty_cons, Bool.false_eq_true, ↓reduceIte]
    cases isSign with
    | none => exact unsigned
    | plus | minus =>
      simp only [exponentDigits, List.cons_append, List.nil_append, takeWhile_digits run stops,
        dropWhile_digits run stops, run.isEmpty, Bool.false_eq_true, ↓reduceIte]

/-- The number with the given exponent digits behind its letter. -/
def exponentiated (negative : Bool) (significand : Nat) (exponent : Int) (down : Bool)
    (digits : List Char) : Except Fault Number :=
  match exponentValue? digits with
  | some value => float negative significand (if down then exponent - value else exponent + value)
  | none =>
    if significand ≠ 0 && !down then .error .numberOutOfRange else .ok (.float ⟨negative, 0⟩)

section

variable {negative : Bool} {significand : Nat} {exponent : Int} {value : Number}

theorem withExponent_letter {c : Char} (letter : c = 'e' ∨ c = 'E') (behind : List Char) :
    withExponent negative significand exponent (c :: behind) =
      (exponentDigits behind).bind fun read =>
        (exponentiated negative significand exponent read.1.1 read.1.2).map
          fun number => (number, read.2) := by
  unfold exponentiated
  rcases letter with rfl | rfl
  all_goals
    simp only [withExponent]
    cases exponentDigits behind with
    | error fault => rfl
    | ok found =>
      obtain ⟨⟨down, digits⟩, after⟩ := found
      dsimp only [Except.bind]
      cases exponentValue? digits with
      | some value => rfl
      | none =>
        dsimp only
        split <;> rfl

theorem withExponent_letter_iff {c : Char} (letter : c = 'e' ∨ c = 'E') {behind rest : List Char} :
    withExponent negative significand exponent (c :: behind) = .ok (value, rest) ↔
      ∃ sign digits down, ExponentSign sign down ∧ Digits digits ∧ NoDigit rest ∧
        behind = sign ++ (digits ++ rest) ∧
        exponentiated negative significand exponent down digits = .ok value := by
  rw [withExponent_letter letter]
  constructor
  · intro read
    cases found : exponentDigits behind with
    | error fault =>
      rw [found] at read
      cases read
    | ok digitsRead =>
      obtain ⟨⟨down, digits⟩, after⟩ := digitsRead
      rw [found] at read
      obtain ⟨number, made, same⟩ := map_eq_ok_iff.1 read
      cases same
      obtain ⟨sign, isSign, run, stops, rfl⟩ := exponentDigits_eq_ok_iff.1 found
      exact ⟨sign, digits, down, isSign, run, stops, rfl, made⟩
  · rintro ⟨sign, digits, down, isSign, run, stops, shape, made⟩
    have found := exponentDigits_eq_ok_iff.2 ⟨sign, isSign, run, stops, shape⟩
    simp only [found, made, Except.bind, Except.map]

theorem withExponent_absent {text : List Char} (lower : text.head? ≠ some 'e')
    (upper : text.head? ≠ some 'E') :
    withExponent negative significand exponent text =
      (float negative significand exponent).map fun number => (number, text) := by
  unfold withExponent
  split
  · exact absurd rfl lower
  · exact absurd rfl upper
  · rfl

theorem skipExponent_absent {text : List Char} (lower : text.head? ≠ some 'e')
    (upper : text.head? ≠ some 'E') : skipExponent text = .ok text := by
  unfold skipExponent
  split
  case h_7 => rfl
  all_goals first | exact absurd rfl lower | exact absurd rfl upper

/-- An exponent is passed over with its sign and all its digits. -/
theorem skipExponent_letter {c : Char} (letter : c = 'e' ∨ c = 'E')
    {sign digits rest : List Char} {down : Bool} (isSign : ExponentSign sign down)
    (run : Digits digits) (stops : NoDigit rest) :
    skipExponent (c :: (sign ++ (digits ++ rest))) = .ok rest := by
  have skipped := skipDigits_run run stops
  cases isSign with
  | plus | minus => rcases letter with rfl | rfl <;> exact skipped
  | none =>
    obtain ⟨d, others, rfl⟩ := List.exists_cons_of_ne_nil run.nonempty
    have digit := run.each d List.mem_cons_self
    have plus : d ≠ '+' := digit_ne digit rfl
    have minus : d ≠ '-' := digit_ne digit rfl
    rcases letter with rfl | rfl
    all_goals
      rw [List.nil_append, List.cons_append] at *
      unfold skipExponent
      split <;> grind

/-- An exponent reaches as far as its own characters say. -/
theorem withExponent_letter_front {c : Char} (letter : c = 'e' ∨ c = 'E') {behind rest : List Char}
    (read : withExponent negative significand exponent (c :: behind) = .ok (value, rest)) :
    ∃ front, behind = front ++ rest ∧ skipExponent (c :: behind) = .ok rest ∧
      ∀ other, EndsNumber other →
        withExponent negative significand exponent (c :: (front ++ other)) =
          .ok (value, other) := by
  obtain ⟨sign, digits, down, isSign, run, stops, rfl, made⟩ :=
    (withExponent_letter_iff letter).1 read
  refine ⟨sign ++ digits, by simp, skipExponent_letter letter isSign run stops,
    fun other ends => ?_⟩
  exact (withExponent_letter_iff letter).2
    ⟨sign, digits, down, isSign, run, ends.noDigit, by simp, made⟩

/-- An exponent, or none, reaches as far as its own characters say. -/
theorem withExponent_front {text rest : List Char} (stops : NoDigit text)
    (read : withExponent negative significand exponent text = .ok (value, rest)) :
    ∃ front, text = front ++ rest ∧ skipExponent text = .ok rest ∧
      ∀ other, EndsNumber other → NoDigit (front ++ other) ∧
        withExponent negative significand exponent (front ++ other) = .ok (value, other) := by
  by_cases letter : text.head? = some 'e' ∨ text.head? = some 'E'
  · obtain ⟨c, behind, isLetter, rfl⟩ : ∃ c behind, (c = 'e' ∨ c = 'E') ∧ text = c :: behind := by
      cases text with
      | nil => simp at letter
      | cons c behind => exact ⟨c, behind, by simpa using letter, rfl⟩
    obtain ⟨front, rfl, skipped, reads⟩ := withExponent_letter_front isLetter read
    exact ⟨c :: front, rfl, skipped, fun other ends => ⟨stops, reads other ends⟩⟩
  · rw [not_or] at letter
    rw [withExponent_absent letter.1 letter.2] at read
    obtain ⟨number, made, same⟩ := map_eq_ok_iff.1 read
    cases same
    refine ⟨[], rfl, skipExponent_absent letter.1 letter.2, fun other ends => ⟨ends.noDigit, ?_⟩⟩
    obtain ⟨-, lower, upper⟩ := ends.unlettered
    rw [List.nil_append, withExponent_absent lower upper, made]
    rfl

end

/-! ### Numbers -/

section

variable {negative : Bool} {digits : List Char} {value : Number}

/-- The significand of digits with a fraction, and the power of ten that it is scaled by. -/
def pointed (digits fraction : List Char) : Nat × Int :=
  let (significand, leftOver) := absorb 0 digits
  let (significand, unused) := absorb significand fraction
  (significand, leftOver - (fraction.length - unused))

theorem number_plain (run : WholeDigits digits) {behind : List Char} (ends : EndsNumber behind) :
    number negative (digits ++ behind) =
      (wholeNumber negative (absorb 0 digits).1 (absorb 0 digits).2).map
        fun number => (number, behind) := by
  unfold number
  simp only [takeWhile_digits run.toDigits ends.noDigit, dropWhile_digits run.toDigits ends.noDigit,
    run.isEmpty, run.plain, Bool.false_eq_true, ↓reduceIte]
  cases behind with
  | nil => rfl
  | cons c behind =>
    obtain ⟨_, point, lower, upper⟩ := ends
    split
    · exact absurd (List.cons.inj ‹_›).1 point
    · exact absurd (List.cons.inj ‹_›).1 lower
    · exact absurd (List.cons.inj ‹_›).1 upper
    · rfl

theorem number_point (run : WholeDigits digits) {fraction behind : List Char}
    (isFraction : Digits fraction) (stops : NoDigit behind) :
    number negative (digits ++ '.' :: (fraction ++ behind)) =
      withExponent negative (pointed digits fraction).1 (pointed digits fraction).2 behind := by
  have point : NoDigit ('.' :: (fraction ++ behind)) := rfl
  unfold number
  simp only [takeWhile_digits run.toDigits point, dropWhile_digits run.toDigits point, run.isEmpty,
    run.plain, takeWhile_digits isFraction stops, dropWhile_digits isFraction stops,
    isFraction.isEmpty, Bool.false_eq_true, ↓reduceIte, pointed]

theorem number_letter (run : WholeDigits digits) {c : Char} (letter : c = 'e' ∨ c = 'E')
    (behind : List Char) :
    number negative (digits ++ c :: behind) =
      withExponent negative (absorb 0 digits).1 (absorb 0 digits).2 (c :: behind) := by
  have stops : NoDigit (c :: behind) := by rcases letter with rfl | rfl <;> rfl
  unfold number
  simp only [takeWhile_digits run.toDigits stops, dropWhile_digits run.toDigits stops, run.isEmpty,
    run.plain, Bool.false_eq_true, ↓reduceIte]
  rcases letter with rfl | rfl <;> rfl

/-- What can stand behind the first run of digits of a number. -/
theorem number_starts {text rest : List Char} (read : number negative text = .ok (value, rest)) :
    ∃ digits behind, text = digits ++ behind ∧ WholeDigits digits ∧
      (EndsNumber behind ∨ (∃ c after, (c = 'e' ∨ c = 'E') ∧ behind = c :: after) ∨
        ∃ fraction after, Digits fraction ∧ NoDigit after ∧
          behind = '.' :: (fraction ++ after)) := by
  unfold number at read
  simp only at read
  split at read
  · cases read
  next filled =>
    split at read
    · cases read
    next plain =>
      obtain ⟨digits, behind, rfl, run, stops⟩ := digits_split (by simpa using filled)
      rw [takeWhile_digits run stops] at plain read
      rw [dropWhile_digits run stops] at read
      refine ⟨digits, behind, rfl, ⟨run, by simpa using plain⟩, ?_⟩
      split at read
      next after =>
        split at read
        · cases read
        next filled =>
          obtain ⟨fraction, after, rfl, isFraction, stops⟩ := digits_split (by simpa using filled)
          exact .inr (.inr ⟨fraction, after, isFraction, stops, rfl⟩)
      next after => exact .inr (.inl ⟨_, after, .inl rfl, rfl⟩)
      next after => exact .inr (.inl ⟨_, after, .inr rfl, rfl⟩)
      next point lower upper =>
        refine .inl ?_
        cases behind with
        | nil => trivial
        | cons c behind =>
          refine ⟨stops, ?_, ?_, ?_⟩
          · rintro rfl
            exact point _ rfl
          · rintro rfl
            exact lower _ rfl
          · rintro rfl
            exact upper _ rfl

theorem skipNumber_plain (run : WholeDigits digits) {behind : List Char} (stops : NoDigit behind)
    (point : behind.head? ≠ some '.') : skipNumber (digits ++ behind) = skipExponent behind := by
  unfold skipNumber
  simp only [takeWhile_digits run.toDigits stops, run.plain, skipDigits_run run.toDigits stops,
    Bool.false_eq_true, ↓reduceIte]
  split
  next same => cases same
  next after same =>
    cases same
    exact absurd rfl point
  next after _ same =>
    cases same
    rfl

theorem skipNumber_point (run : WholeDigits digits) {fraction behind : List Char}
    (isFraction : Digits fraction) (stops : NoDigit behind) :
    skipNumber (digits ++ '.' :: (fraction ++ behind)) = skipExponent behind := by
  have point : NoDigit ('.' :: (fraction ++ behind)) := rfl
  unfold skipNumber
  simp only [takeWhile_digits run.toDigits point, run.plain, skipDigits_run run.toDigits point,
    skipDigits_run isFraction stops, Bool.false_eq_true, ↓reduceIte]

/-- A number that is read reaches as far as its own characters say, and as far as it would be
passed over. -/
theorem number_front {text rest : List Char} (read : number negative text = .ok (value, rest)) :
    ∃ front, text = front ++ rest ∧ skipNumber text = .ok rest ∧
      ∀ other, EndsNumber other → number negative (front ++ other) = .ok (value, other) := by
  obtain ⟨digits, behind, rfl, run, ends | ⟨c, after, letter, rfl⟩ |
    ⟨fraction, after, isFraction, stops, rfl⟩⟩ := number_starts read
  · obtain ⟨point, lower, upper⟩ := ends.unlettered
    rw [number_plain run ends] at read
    obtain ⟨number, made, same⟩ := map_eq_ok_iff.1 read
    cases same
    refine ⟨digits, rfl, ?_, fun other ends => ?_⟩
    · rw [skipNumber_plain run ends.noDigit point, skipExponent_absent lower upper]
    · rw [number_plain run ends, made]
      rfl
  · have stops : NoDigit (c :: after) := by rcases letter with rfl | rfl <;> rfl
    have point : (c :: after).head? ≠ some '.' := by rcases letter with rfl | rfl <;> simp
    rw [number_letter run letter] at read
    obtain ⟨front, rfl, skipped, reads⟩ := withExponent_letter_front letter read
    refine ⟨digits ++ c :: front, by simp, ?_, fun other ends => ?_⟩
    · rw [skipNumber_plain run stops point, skipped]
    · rw [List.append_assoc, List.cons_append, number_letter run letter]
      exact reads other ends
  · rw [number_point run isFraction stops] at read
    obtain ⟨front, rfl, skipped, reads⟩ := withExponent_front stops read
    refine ⟨digits ++ '.' :: (fraction ++ front), by simp, ?_, fun other ends => ?_⟩
    · rw [skipNumber_point run isFraction stops, skipped]
    · obtain ⟨stops, exponent⟩ := reads other ends
      rw [List.append_assoc, List.cons_append, List.append_assoc, number_point run isFraction stops]
      exact exponent

end

/-! ### Numbers as values -/

theorem decodeNumber_eq_ok_iff {expected : String} {depth : Nat} {text rest : List Char}
    {value : Number} :
    Codec.decodeNumber expected depth text = .ok (value, rest) ↔
      (∃ behind, dropSpace text = '-' :: behind ∧ number true behind = .ok (value, rest)) ∨
        ∃ c behind, isDigit c = true ∧ dropSpace text = c :: behind ∧
          number false (c :: behind) = .ok (value, rest) := by
  unfold Codec.decodeNumber
  constructor
  · intro read
    split at read
    next behind minus => exact .inl ⟨behind, minus, read⟩
    next c behind _ shown =>
      split at read
      next digit => exact .inr ⟨c, behind, digit, shown, read⟩
      · cases read
    · cases read
  · rintro (⟨behind, minus, read⟩ | ⟨c, behind, digit, shown, read⟩)
    · simp only [minus, read]
    · simp only [shown]
      split
      next same => exact absurd (List.cons.inj same).1 (digit_ne digit rfl)
      next same =>
        obtain ⟨rfl, rfl⟩ := List.cons.inj same
        rw [if_pos digit, read]
      next same => cases same

/-- A number, wherever it is asked for, reaches as far as its own characters say. -/
theorem decodeNumber_front {expected : String} {depth : Nat} {text rest : List Char}
    {value : Number} (taken : Codec.decodeNumber expected depth text = .ok (value, rest)) :
    ∃ front, text = front ++ rest ∧ ∀ other, EndsNumber other →
      Codec.decodeNumber expected depth (front ++ other) = .ok (value, other) := by
  obtain ⟨behind, minus, read⟩ | ⟨c, behind, digit, shown, read⟩ := decodeNumber_eq_ok_iff.1 taken
  · obtain ⟨before, blank, rfl⟩ := (dropSpace_eq_cons_iff rfl).1 minus
    obtain ⟨front, rfl, -, reads⟩ := number_front read
    refine ⟨before ++ '-' :: front, by simp, fun other ends => ?_⟩
    exact decodeNumber_eq_ok_iff.2 (.inl ⟨front ++ other,
      (dropSpace_eq_cons_iff rfl).2 ⟨before, blank, by simp⟩, reads other ends⟩)
  · have visible := isSpace_digit digit
    obtain ⟨before, blank, rfl⟩ := (dropSpace_eq_cons_iff visible).1 shown
    obtain ⟨front, shape, -, reads⟩ := number_front read
    -- No number is empty, so the first digit is one of its own characters.
    cases front with
    | nil => exact absurd (reads [] trivial) nofun
    | cons d front =>
      obtain ⟨rfl, rfl⟩ := List.cons.inj shape
      refine ⟨before ++ c :: front, by simp, fun other ends => ?_⟩
      exact decodeNumber_eq_ok_iff.2 (.inr ⟨c, front ++ other, digit,
        (dropSpace_eq_cons_iff visible).2 ⟨before, blank, by simp⟩, reads other ends⟩)

/-- What is read as a number is a number where any value is read. -/
theorem decode_of_decodeNumber {expected : String} {depth inner : Nat} {text rest : List Char}
    {value : Number} (read : Codec.decodeNumber expected depth text = .ok (value, rest)) :
    Value.decode inner text = .ok (.number value, rest) := by
  rw [decode_eq_ok_iff]
  obtain ⟨behind, minus, read⟩ | ⟨c, behind, digit, shown, read⟩ := decodeNumber_eq_ok_iff.1 read
  · exact minus ▸ .minus read
  · exact shown ▸ .digit digit read

end BackgroundWork.Json
