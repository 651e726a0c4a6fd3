import BackgroundWork.Timestamp
import BackgroundWork.Proofs.JsonReading

set_option autoImplicit false

/-!
Moments of the years 0 to 9999 are read back from their text. Numbers are padded to a fixed width,
so each part of the text is told apart by the separator behind it, and the fraction of a second
regains the digits that its shorter forms leave out. A leap second is written as the second 60
and is left aside here.

Main statement: `Timestamp.ofText_text`.
-/

namespace BackgroundWork.Timestamp

open Json (isDigit digitValue isDigit_natText digit_ne)
open Numeric (natText)

/-! ### Padded numbers -/

theorem isBlank_digit {c : Char} (digit : isDigit c = true) : Text.isBlank c = false := by
  have bounds : 48 ≤ c.toNat ∧ c.toNat ≤ 57 := by
    simpa [isDigit, Char.le_def, UInt32.le_iff_toNat_le] using digit
  simp [Text.isBlank]
  omega

theorem isDigit_padded (width n : Nat) : ∀ c ∈ padded width n, isDigit c = true := by
  intro c among
  rcases List.mem_append.1 among with zero | written
  · obtain rfl := List.eq_of_mem_replicate zero
    rfl
  · exact isDigit_natText c written

theorem length_padded {width n : Nat} (positive : 0 < width) (fits : n < Nat.pow 10 width) :
    (padded width n).length = width := by
  have short : (natText n).length ≤ width := (Nat.length_toDigits_le_iff (by decide) positive).2 fits
  simp only [padded, List.length_append, List.length_replicate]
  omega

theorem digitsValue_eq (digits : List Char) : digitsValue digits = Nat.ofDigitChars 10 digits 0 := by
  have step : (fun value c => value * 10 + digitValue c) =
      fun value (c : Char) => 10 * value + (c.toNat - '0'.toNat) := by
    funext value c
    rw [Nat.mul_comm, digitValue]
  rw [digitsValue, step, Nat.ofDigitChars_eq_foldl]

theorem digitsValue_padded (width n : Nat) : digitsValue (padded width n) = n := by
  have zeros : ∀ count, Nat.ofDigitChars 10 (List.replicate count '0') 0 = 0 := by
    intro count
    induction count with
    | zero => rfl
    | succ count ih =>
      rw [List.replicate_succ, Nat.ofDigitChars_cons]
      exact ih
  have whole : Nat.ofDigitChars 10 (natText n) 0 = n := Nat.ofDigitChars_ten_toDigits
  rw [digitsValue_eq, padded, Nat.ofDigitChars_append, zeros, whole]

theorem number_padded {width count n : Nat} (positive : 0 < count) (within : count ≤ width)
    (fits : n < Nat.pow 10 count) {rest : List Char} (ends : rest.takeWhile isDigit = []) :
    number width (padded count n ++ rest) = .ok (n, rest) := by
  have length := length_padded positive fits
  have taken : ((padded count n ++ rest).take width).takeWhile isDigit = padded count n := by
    have stops : (rest.take (width - count)).takeWhile isDigit = [] := by
      cases rest with
      | nil => simp
      | cons c rest =>
        have other : isDigit c = false :=
          Bool.eq_false_iff.2 fun digit => by simp [digit] at ends
        cases width - count with
        | zero => rfl
        | succ more => simp [other]
    rw [List.take_append, length, List.take_of_length_le (by omega),
      List.takeWhile_append_of_pos (isDigit_padded count n), stops, List.append_nil]
  have filled : (padded count n).isEmpty = false := by
    rw [List.isEmpty_eq_false_iff]
    intro none
    simp [none] at length
    omega
  have nonempty : padded count n ++ rest ≠ [] := by
    intro none
    simp [(List.append_eq_nil_iff.1 none).1] at filled
  unfold number
  split
  · exact absurd ‹_› nonempty
  · simp only [taken, filled, Bool.false_eq_true, ↓reduceIte, digitsValue_padded,
      List.drop_left]

theorem trimStart_padded {width n : Nat} (positive : 0 < width) (fits : n < Nat.pow 10 width)
    (rest : List Char) : Text.trimStart (padded width n ++ rest) = padded width n ++ rest := by
  have length := length_padded positive fits
  cases written : padded width n with
  | nil =>
    simp [written] at length
    omega
  | cons c letters =>
    have digit : isDigit c = true := isDigit_padded width n c (by simp [written])
    rw [List.cons_append, Text.trimStart, List.dropWhile_cons_of_neg (by simp [isBlank_digit digit])]

theorem part_padded {least greatest n : Nat} (fits : n < 100) (above : least ≤ n)
    (below : n ≤ greatest) (rest : List Char) (ends : rest.takeWhile isDigit = []) :
    part least greatest (padded 2 n ++ rest) = .ok (n, rest) := by
  have inside : (decide (least ≤ n) && decide (n ≤ greatest)) = true := by simp [above, below]
  rw [part, trimStart_padded (by decide) fits]
  simp only [number_padded (by decide) (Nat.le_refl 2) fits ends, inside, ↓reduceIte]

theorem separator_cons {c : Char} (shown : Text.isBlank c = false) (rest : List Char) :
    separator c (c :: rest) = .ok rest := by
  rw [separator, Text.trimStart, List.dropWhile_cons_of_neg (by simp [shown])]
  simp only [↓reduceIte]

/-! ### Day and time -/

theorem year_yearText {y : Int} (least : 0 ≤ y) (greatest : y ≤ 9999) (rest : List Char)
    (ends : rest.takeWhile isDigit = []) : year (yearText y ++ rest) = .ok (y, rest) := by
  have plain : yearText y = padded 4 y.toNat := by simp [yearText, least, greatest]
  have fits : y.toNat < 10000 := by omega
  have read := number_padded (by decide) (Nat.le_refl 4) fits ends
  have length : (padded 4 y.toNat).length = 4 := length_padded (by decide) fits
  have whole : (y.toNat : Int) = y := by omega
  rw [plain, year, trimStart_padded (by decide) fits]
  cases written : padded 4 y.toNat with
  | nil => simp [written] at length
  | cons c letters =>
    have digit : isDigit c = true := isDigit_padded 4 y.toNat c (by simp [written])
    rw [written] at read
    rw [List.cons_append] at read ⊢
    split
    · exact absurd (List.cons.inj ‹_›).1 (digit_ne digit rfl)
    · exact absurd (List.cons.inj ‹_›).1 (digit_ne digit rfl)
    · simp only [read, Except.map, whole]

theorem dateParts_text (date : Date) (least : 0 ≤ date.year) (greatest : date.year ≤ 9999)
    (rest : List Char) :
    dateParts (yearText date.year ++ '-' :: padded 2 date.month ++ '-' :: padded 2 date.day ++
        'T' :: rest) =
      .ok ((date.year, date.month, date.day), 'T' :: rest) := by
  have valid := date.valid
  simp only [isDate, Bool.and_eq_true, decide_eq_true_eq] at valid
  obtain ⟨⟨⟨⟨_, month_pos⟩, month_le⟩, day_pos⟩, day_le⟩ := valid
  have days : daysInMonth date.year date.month ≤ 31 := by
    unfold daysInMonth
    split
    · split <;> omega
    · split <;> omega
  have day_le' : date.day ≤ 31 := by omega
  have year := year_yearText least greatest
    ('-' :: (padded 2 date.month ++ '-' :: (padded 2 date.day ++ 'T' :: rest))) rfl
  have month := part_padded (by omega) month_pos month_le
    ('-' :: (padded 2 date.day ++ 'T' :: rest)) rfl
  have day := part_padded (by omega) day_pos day_le' ('T' :: rest) rfl
  simp only [dateParts, List.append_assoc, List.cons_append, year, month, day,
    separator_cons (show Text.isBlank '-' = false from rfl), bind, Except.bind, pure, Except.pure]

theorem fraction_fractionText {nanosecond : Nat} (fits : nanosecond < 1000000000)
    (rest : List Char) (ends : rest.takeWhile isDigit = []) (plain : rest.head? ≠ some '.') :
    fraction (fractionText nanosecond ++ rest) = .ok (nanosecond, rest) := by
  have kept : rest.dropWhile isDigit = rest := by
    have whole : rest.takeWhile isDigit ++ rest.dropWhile isDigit = rest :=
      List.takeWhile_append_dropWhile
    rwa [ends] at whole
  have digits : ∀ count n : Nat, 0 < count → count ≤ 9 → n < Nat.pow 10 count →
      fraction ('.' :: padded count n ++ rest) = .ok (n * Nat.pow 10 (9 - count), rest) := by
    intro count n positive within small
    have read := number_padded positive within small ends
    have length := length_padded positive small
    have behind : (padded count n ++ rest).length - rest.length = count := by
      rw [List.length_append, length]
      omega
    simp only [List.cons_append, fraction, read, behind, kept]
  unfold fractionText
  by_cases none : nanosecond = 0
  · rw [if_pos none, List.nil_append, none]
    unfold fraction
    split
    · exact absurd rfl plain
    · rfl
  by_cases millis : nanosecond % 1000000 = 0
  · have back : nanosecond / 1000000 * Nat.pow 10 (9 - 3) = nanosecond :=
      Nat.div_mul_cancel (Nat.dvd_of_mod_eq_zero millis)
    have small : nanosecond / 1000000 < 1000 := by omega
    rw [if_neg none, if_pos millis, digits 3 _ (by decide) (by decide) small, back]
  by_cases micros : nanosecond % 1000 = 0
  · have back : nanosecond / 1000 * Nat.pow 10 (9 - 6) = nanosecond :=
      Nat.div_mul_cancel (Nat.dvd_of_mod_eq_zero micros)
    have small : nanosecond / 1000 < 1000000 := by omega
    rw [if_neg none, if_neg millis, if_pos micros, digits 6 _ (by decide) (by decide) small, back]
  · have back : nanosecond * Nat.pow 10 (9 - 9) = nanosecond := Nat.mul_one nanosecond
    rw [if_neg none, if_neg millis, if_neg micros, digits 9 _ (by decide) (by decide) fits, back]

theorem timeParts_text {hour minute second nanosecond : Nat} (hours : hour < 24)
    (minutes : minute < 60) (seconds : second < 60) (fits : nanosecond < 1000000000) :
    timeParts (padded 2 hour ++ ':' :: padded 2 minute ++ ':' :: padded 2 second ++
        fractionText nanosecond ++ ['Z']) =
      .ok ((hour, minute, second, nanosecond), ['Z']) := by
  have behind : (fractionText nanosecond ++ ['Z']).takeWhile isDigit = [] := by
    unfold fractionText
    split
    · rfl
    · split
      · rfl
      · split <;> rfl
  have hour_le : hour ≤ 23 := by omega
  have minute_le : minute ≤ 59 := by omega
  have second_le : second ≤ 60 := by omega
  have read_hour := part_padded (by omega) (Nat.zero_le hour) hour_le
    (':' :: (padded 2 minute ++ ':' :: (padded 2 second ++ (fractionText nanosecond ++ ['Z'])))) rfl
  have read_minute := part_padded (by omega) (Nat.zero_le minute) minute_le
    (':' :: (padded 2 second ++ (fractionText nanosecond ++ ['Z']))) rfl
  have read_second := part_padded (by omega) (Nat.zero_le second) second_le _ behind
  have read_fraction := fraction_fractionText fits ['Z'] rfl (by decide)
  simp only [timeParts, List.append_assoc, List.cons_append, read_hour, read_minute, read_second,
    read_fraction, separator_cons (show Text.isBlank ':' = false from rfl), bind, Except.bind, pure,
    Except.pure]

/-! ### Moments -/

theorem of?_date (date : Date) : Date.of? date.year date.month date.day = some date := by
  rw [Date.of?, dif_pos date.valid]

/-- A clock without offset shows universal time. -/
theorem ofLocal?_zero (moment : Timestamp) :
    ofLocal? moment.date moment.time.hour.val moment.time.minute.val moment.time.second
      moment.time.nanosecond 0 = some moment := by
  obtain ⟨date, ⟨hour, minute, second, nanosecond⟩⟩ := moment
  have hours := hour.isLt
  have minutes := minute.isLt
  have past : ¬((hour.val * 60 + minute.val : Int) - 0 < 0) := by omega
  have today : (hour.val * 60 + minute.val : Int) - 0 < 1440 := by omega
  have whole : (((hour.val * 60 + minute.val : Int) - 0) % 1440).toNat =
      hour.val * 60 + minute.val := by omega
  have hour_back : Fin.ofNat 24 ((hour.val * 60 + minute.val) / 60) = hour := by
    apply Fin.ext
    simp only [Fin.ofNat]
    omega
  have minute_back : Fin.ofNat 60 ((hour.val * 60 + minute.val) % 60) = minute := by
    apply Fin.ext
    simp only [Fin.ofNat]
    omega
  simp only [ofLocal?, past, today, ↓reduceIte, Option.map_some, whole, hour_back, minute_back]

/-- Whether a moment lies in the years 0 to 9999 and is no leap second. -/
structure IsPlain (moment : Timestamp) : Prop where
  year_nonneg : 0 ≤ moment.date.year
  year_le : moment.date.year ≤ 9999
  no_leap : moment.time.nanosecond.val < 1000000000

instance (moment : Timestamp) : Decidable moment.IsPlain :=
  decidable_of_iff (0 ≤ moment.date.year ∧ moment.date.year ≤ 9999 ∧
      moment.time.nanosecond.val < 1000000000)
    ⟨fun ⟨least, greatest, plain⟩ => ⟨least, greatest, plain⟩,
      fun ⟨least, greatest, plain⟩ => ⟨least, greatest, plain⟩⟩

/-- A plain moment is read back from its text. -/
theorem ofText_text {moment : Timestamp} (plain : moment.IsPlain) :
    ofText moment.text = .ok moment := by
  obtain ⟨least, greatest, fits⟩ := plain
  have second := moment.time.second.isLt
  have noLeap : ¬1000000000 ≤ moment.time.nanosecond.val := by omega
  have written : moment.text.toList = yearText moment.date.year ++
      '-' :: padded 2 moment.date.month ++ '-' :: padded 2 moment.date.day ++
      'T' :: (padded 2 moment.time.hour.val ++ ':' :: padded 2 moment.time.minute.val ++
        ':' :: padded 2 moment.time.second.val ++ fractionText moment.time.nanosecond.val ++
        ['Z']) := by
    simp [text, noLeap]
  have day := dateParts_text moment.date least greatest
    (padded 2 moment.time.hour.val ++ ':' :: padded 2 moment.time.minute.val ++
      ':' :: padded 2 moment.time.second.val ++ fractionText moment.time.nanosecond.val ++ ['Z'])
  have time := timeParts_text moment.time.hour.isLt moment.time.minute.isLt second fits
  have ordinary : ¬moment.time.second.val = 60 := by omega
  have second_back : Fin.ofNat 60 moment.time.second.val = moment.time.second :=
    Fin.ext (Nat.mod_eq_of_lt second)
  have nanosecond_back : Fin.ofNat 2000000000 moment.time.nanosecond.val =
      moment.time.nanosecond :=
    Fin.ext (Nat.mod_eq_of_lt moment.time.nanosecond.isLt)
  have between : ∀ rest, betweenParts ('T' :: rest) = .ok rest := fun _ => rfl
  have universal : offset ['Z'] = .ok (0, []) := rfl
  have nothing : (Text.trimStart []).isEmpty = true := rfl
  unfold ofText
  simp only [written, day, between, time, universal, nothing, ordinary, second_back,
    nanosecond_back, of?_date, ofLocal?_zero, bind, Except.bind, pure, Except.pure,
    Bool.not_true, Bool.false_eq_true, ↓reduceIte]
  exact if_pos (by decide)

end BackgroundWork.Timestamp
