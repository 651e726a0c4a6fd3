import BackgroundWork.Proofs.ShortestDecimal

set_option autoImplicit false

/-!
How finite numbers are written. The decimal of a number in single precision takes one of the forms
of the grammar, its digits fit a significand, and its value is one that double precision has room
for. So its text is read as that very decimal wherever it stands.

Main statement: `floatText_number`.
-/

namespace BackgroundWork.Json

open Numeric

/-! ### Room for a number -/

/-- Scaling down always succeeds. -/
theorem scaleByPower_down (x : Binary64) {exponent : Int} (down : exponent < 0) :
    ∃ scaled, scaleByPower x exponent = .ok scaled := by
  fun_induction scaleByPower x exponent with
  | case1 | case2 | case5 => omega
  | case3 | case4 => exact ⟨_, rfl⟩
  | case6 _ _ _ _ _ ih =>
    exact ih (by simp only [greatestPower] at *; omega)

/-- Up to a hundred decimal places there is room for every significand of 64 bits. -/
theorem scaleByPower_up {significand exponent : Nat} (fits : significand < 18446744073709551616)
    (small : exponent ≤ 100) :
    ∃ scaled, scaleByPower (.ofNat significand) exponent = .ok scaled := by
  have factor : (Binary.ofNat significand : Binary64).units <
      2 ^ (64 + 2) * Format.binary64.one := Binary.units_ofNat_lt (by decide) (by omega)
  have power : (powerOfTen exponent).units < 2 ^ (4 * exponent + 2) * Format.binary64.one := by
    refine Binary.units_ofNat_lt (by decide) ?_
    calc 10 ^ exponent ≤ 16 ^ exponent := Nat.pow_le_pow_left (by decide) exponent
      _ = 2 ^ (4 * exponent) := (Nat.pow_mul 2 4 exponent).symm
  have room : 64 + 2 + (4 * exponent + 2) + Format.binary64.scale -
      Format.binary64.fractionBits + 2 < 2 ^ Format.binary64.exponentBits - 1 := by
    have scale : Format.binary64.scale = 1074 := rfl
    have bits : Format.binary64.fractionBits = 52 ∧ 2 ^ Format.binary64.exponentBits = 2048 :=
      ⟨rfl, rfl⟩
    omega
  have finite : ((Binary.ofNat significand : Binary64).times (powerOfTen exponent)).isFinite =
      true := Binary.times_isFinite factor.le power.le room
  have near : (exponent : Int).natAbs ≤ greatestPower := by
    simp only [Int.natAbs_natCast, greatestPower]
    omega
  refine ⟨(Binary.ofNat significand).times (powerOfTen exponent), ?_⟩
  rw [scaleByPower, if_pos near, if_pos (Int.natCast_nonneg exponent)]
  exact if_pos finite

theorem float_ok (negative : Bool) {significand : Nat} {exponent : Int}
    (fits : significand < 18446744073709551616) (small : exponent ≤ 100) :
    ∃ value, float negative significand exponent = .ok value := by
  have scaled : ∃ scaled, scaleByPower (.ofNat significand) exponent = .ok scaled := by
    rcases Int.lt_or_le exponent 0 with down | up
    · exact scaleByPower_down _ down
    · obtain ⟨places, rfl⟩ := Int.eq_ofNat_of_zero_le up
      exact scaleByPower_up fits (by omega)
  obtain ⟨scaled, made⟩ := scaled
  exact ⟨_, by rw [float, made]; rfl⟩

/-! ### Significands -/

theorem ofDigitChars_zeros (n count : Nat) :
    Nat.ofDigitChars 10 (List.replicate count '0') n = n * 10 ^ count := by
  induction count generalizing n with
  | zero => exact (Nat.mul_one n).symm
  | succ count ih =>
    rw [List.replicate_succ, Nat.ofDigitChars_cons, ih, Nat.sub_self, Nat.add_zero, Nat.pow_succ']
    ring

/-- The digits of a number around a point are its significand, if they fit. -/
theorem pointed_eq {digits fraction : List Char} {significand : Nat}
    (value : Nat.ofDigitChars 10 (digits ++ fraction) 0 = significand)
    (fits : significand < 18446744073709551616) :
    pointed digits fraction = (significand, -(fraction.length : Int)) := by
  rw [Nat.ofDigitChars_append] at value
  rw [← value] at fits
  have before : Nat.ofDigitChars 10 digits 0 < 18446744073709551616 :=
    Nat.lt_of_le_of_lt (le_ofDigitChars fraction _) fits
  simp [pointed, absorb_eq before, absorb_eq fits, value]

/-! ### The parts of a decimal -/

theorem digits_natText (n : Nat) : Digits (natText n) :=
  ⟨Nat.toDigits_ne_nil, isDigit_natText⟩

theorem WholeDigits.zero : WholeDigits ['0'] :=
  ⟨⟨List.cons_ne_nil _ _, List.all_eq_true.1 rfl⟩, rfl⟩

theorem isDigit_zeros (n : Nat) : ∀ c ∈ List.replicate n '0', isDigit c = true := by
  intro c among
  rw [List.eq_of_mem_replicate among]
  rfl

/-- Digits that do not start with a zero can stand before a point. -/
theorem WholeDigits.of_head {digits : List Char} (run : Digits digits)
    (head : digits.head? ≠ some '0') : WholeDigits digits :=
  ⟨run, by simp [head]⟩

theorem wholeDigits_zeros {n : Nat} (positive : 0 < n) (zeros : Nat) :
    WholeDigits (natText n ++ List.replicate zeros '0') := by
  have head := natText_head positive
  obtain ⟨c, letters, written, -⟩ := Written.natText_starts n
  refine .of_head ⟨?_, List.forall_mem_append.2 ⟨isDigit_natText, isDigit_zeros zeros⟩⟩ ?_
  · rw [written]
    exact List.cons_ne_nil _ _
  · rw [written] at head ⊢
    exact head

theorem wholeDigits_take {n count : Nat} (positive : 0 < n) (some : 0 < count) :
    WholeDigits ((natText n).take count) := by
  have head := natText_head positive
  obtain ⟨c, letters, written, -⟩ := Written.natText_starts n
  obtain ⟨more, rfl⟩ := Nat.exists_eq_succ_of_ne_zero some.ne'
  refine .of_head ⟨?_, fun c among => isDigit_natText c (List.mem_of_mem_take among)⟩ ?_
  · rw [written, List.take_succ_cons]
    exact List.cons_ne_nil _ _
  · rw [written] at head ⊢
    exact head

theorem digits_drop {n count : Nat} (some : count < (natText n).length) :
    Digits ((natText n).drop count) where
  nonempty none := by
    have length := congrArg List.length none
    rw [List.length_drop, List.length_nil] at length
    omega
  each c among := isDigit_natText c (List.mem_of_mem_drop among)

/-! ### Reading a decimal -/

/-- A text that is read as a decimal, whatever stands behind it that does not go on with it. -/
def SpellsDecimal (negative : Bool) (text : List Char) (x : Decimal) : Prop :=
  ∀ rest, EndsNumber rest →
    number negative (text ++ rest) =
      (float negative x.digits x.exponent).map fun value => (value, rest)

/-- An exponent as it is written behind its letter. -/
def exponentText (exponent : Int) : List Char :=
  (if exponent < 0 then '-' else '+') :: natText exponent.natAbs

theorem exponentValue?_natText {n : Nat} (small : n < 2147483648) :
    exponentValue? (natText n) = some n := by
  have digit : (fun (value : Nat) c => value * 10 + digitValue c) =
      fun value c => 10 * value + (c.toNat - '0'.toNat) := by
    funext value c
    rw [Nat.mul_comm, digitValue]
  have whole : (natText n).foldl (fun value c => value * 10 + digitValue c) 0 = n := by
    rw [digit]
    exact Nat.ofDigitChars_ten_toDigits
  rw [exponentValue?, whole]
  exact if_pos small

/-- An exponent behind a significand raises its power of ten. -/
theorem withExponent_written (negative : Bool) (significand : Nat) (places : Int) {exponent : Int}
    (small : exponent.natAbs < 2147483648) {rest : List Char} (ends : EndsNumber rest) :
    withExponent negative significand places ('e' :: (exponentText exponent ++ rest)) =
      (float negative significand (places + exponent)).map fun value => (value, rest) := by
  have sign : ExponentSign [if exponent < 0 then '-' else '+'] (exponent < 0) := by
    by_cases down : exponent < 0
    · simp only [down, ↓reduceIte, decide_true]
      exact .minus
    · simp only [down, ↓reduceIte, decide_false]
      exact .plus
  have digits : exponentDigits (exponentText exponent ++ rest) =
      .ok ((decide (exponent < 0), natText exponent.natAbs), rest) :=
    exponentDigits_eq_ok_iff.2 ⟨_, sign, digits_natText _, ends.noDigit, rfl⟩
  have raised : (if decide (exponent < 0) = true then places - (exponent.natAbs : Int)
      else places + exponent.natAbs) = places + exponent := by
    split
    next down =>
      have below := of_decide_eq_true down
      omega
    next up =>
      have above := of_decide_eq_false (Bool.eq_false_iff.2 up)
      omega
  rw [withExponent_letter (.inl rfl), digits]
  simp only [Except.bind, exponentiated, exponentValue?_natText small, raised]

section

variable (negative : Bool) {whole : List Char} (run : WholeDigits whole)

include run

/-- Digits with a fraction. -/
theorem spells_point {fraction : List Char} (isFraction : Digits fraction) {x : Decimal}
    (digits : Nat.ofDigitChars 10 (whole ++ fraction) 0 = x.digits)
    (exponent : x.exponent = -(fraction.length : Int)) (fits : x.digits < 18446744073709551616) :
    SpellsDecimal negative (whole ++ '.' :: fraction) x := by
  intro rest ends
  obtain ⟨-, lower, upper⟩ := ends.unlettered
  rw [List.append_assoc, List.cons_append, number_point run isFraction ends.noDigit,
    pointed_eq digits fits, withExponent_absent lower upper, exponent]

/-- Digits with an exponent. -/
theorem spells_letter {x : Decimal} (digits : Nat.ofDigitChars 10 whole 0 = x.digits)
    (fits : x.digits < 18446744073709551616) (small : x.exponent.natAbs < 2147483648) :
    SpellsDecimal negative (whole ++ 'e' :: exponentText x.exponent) x := by
  intro rest ends
  rw [← digits] at fits
  rw [List.append_assoc, List.cons_append, number_letter run (.inl rfl), absorb_eq fits, digits,
    withExponent_written negative _ _ small ends, Int.natCast_zero, Int.zero_add]

/-- Digits with a fraction and an exponent. -/
theorem spells_point_letter {fraction : List Char} (isFraction : Digits fraction) {x : Decimal}
    (digits : Nat.ofDigitChars 10 (whole ++ fraction) 0 = x.digits) {exponent : Int}
    (places : exponent = x.exponent + fraction.length) (fits : x.digits < 18446744073709551616)
    (small : exponent.natAbs < 2147483648) :
    SpellsDecimal negative (whole ++ '.' :: (fraction ++ 'e' :: exponentText exponent)) x := by
  intro rest ends
  have raised : -(fraction.length : Int) + exponent = x.exponent := by omega
  rw [List.append_assoc, List.cons_append, List.append_assoc, List.cons_append,
    number_point run isFraction (noDigit_cons.2 rfl), pointed_eq digits fits,
    withExponent_written negative _ _ small ends, raised]

end

/-! ### Decimals -/

section

variable (negative : Bool) {x : Decimal}

/-- A decimal without places: a zero is added behind the point. -/
theorem spells_whole (positive : 0 < x.digits) {zeros : Nat} (exponent : x.exponent = zeros)
    (short : (natText x.digits).length + zeros ≤ 18) :
    (x.shifted (zeros + 1)).digits < 18446744073709551616 ∧
      SpellsDecimal negative (natText x.digits ++ List.replicate zeros '0' ++ ['.', '0'])
        (x.shifted (zeros + 1)) := by
  have filled : 0 < (natText x.digits).length :=
    List.length_pos_iff.2 (digits_natText x.digits).nonempty
  have digits : x.digits < 10 ^ (natText x.digits).length :=
    (Nat.length_toDigits_le_iff (by decide) filled).1 (Nat.le_refl _)
  have size : x.digits * 10 ^ (zeros + 1) < 18446744073709551616 := by
    calc x.digits * 10 ^ (zeros + 1)
        < 10 ^ (natText x.digits).length * 10 ^ (zeros + 1) :=
          Nat.mul_lt_mul_of_pos_right digits (Nat.pow_pos (by decide))
      _ = 10 ^ ((natText x.digits).length + (zeros + 1)) := (Nat.pow_add ..).symm
      _ ≤ 10 ^ 19 := Nat.pow_le_pow_right (by decide) (by omega)
      _ < 18446744073709551616 := by decide
  have value : Nat.ofDigitChars 10 (natText x.digits ++ List.replicate zeros '0' ++ ['0']) 0 =
      x.digits * 10 ^ (zeros + 1) := by
    rw [List.append_assoc, ← List.replicate_succ', Nat.ofDigitChars_append, ofDigitChars_zeros]
    exact congrArg (· * 10 ^ (zeros + 1)) Nat.ofDigitChars_ten_toDigits
  refine ⟨size, spells_point negative (wholeDigits_zeros positive zeros) WholeDigits.zero.toDigits
    value ?_ size⟩
  simp [Decimal.shifted, exponent]

/-- A decimal with the point among its digits. -/
theorem spells_inside (positive : 0 < x.digits) (fits : x.digits < 18446744073709551616)
    {count : Nat} (some : 0 < count) (inside : count < (natText x.digits).length)
    (exponent : (count : Int) = (natText x.digits).length + x.exponent) :
    SpellsDecimal negative ((natText x.digits).take count ++ '.' :: (natText x.digits).drop count)
      x := by
  refine spells_point negative (wholeDigits_take positive some) (digits_drop inside) ?_ ?_ fits
  · rw [List.take_append_drop]
    exact Nat.ofDigitChars_ten_toDigits
  · rw [List.length_drop]
    omega

/-- A decimal below one. -/
theorem spells_below (fits : x.digits < 18446744073709551616) {zeros : Nat}
    (exponent : x.exponent = -((zeros + (natText x.digits).length : Nat) : Int)) :
    SpellsDecimal negative ('0' :: '.' :: List.replicate zeros '0' ++ natText x.digits) x := by
  have decimals : Digits (List.replicate zeros '0' ++ natText x.digits) :=
    ⟨by simp [(digits_natText x.digits).nonempty],
      List.forall_mem_append.2 ⟨isDigit_zeros _, isDigit_natText⟩⟩
  have zero : Nat.ofDigitChars 10 ['0'] 0 = 0 := rfl
  refine spells_point negative .zero decimals ?_ ?_ fits
  · rw [Nat.ofDigitChars_append, Nat.ofDigitChars_append, zero, ofDigitChars_zeros, Nat.zero_mul]
    exact Nat.ofDigitChars_ten_toDigits
  · rw [List.length_append, List.length_replicate, exponent]

/-- A decimal with an exponent: one digit stands before the point, if there is one. -/
theorem spells_scientific (positive : 0 < x.digits) (fits : x.digits < 18446744073709551616)
    {exponent : Int}
    (places : exponent = (natText x.digits).length + x.exponent - 1)
    (small : exponent.natAbs < 2147483648) :
    SpellsDecimal negative ((natText x.digits).take 1 ++
      (if ((natText x.digits).drop 1).isEmpty then [] else '.' :: (natText x.digits).drop 1) ++
        'e' :: exponentText exponent) x := by
  have first : WholeDigits ((natText x.digits).take 1) := wholeDigits_take positive Nat.one_pos
  have value : Nat.ofDigitChars 10 (natText x.digits) 0 = x.digits := Nat.ofDigitChars_ten_toDigits
  split
  next single =>
    have count : (natText x.digits).length ≤ 1 :=
      List.drop_eq_nil_iff.1 (List.isEmpty_iff.1 single)
    have filled : 0 < (natText x.digits).length :=
      List.length_pos_iff.2 (digits_natText x.digits).nonempty
    have same : exponent = x.exponent := by omega
    rw [List.take_of_length_le count] at first ⊢
    rw [List.append_nil, same]
    exact spells_letter negative first value fits (same ▸ small)
  next several =>
    have more : 1 < (natText x.digits).length :=
      Nat.lt_of_not_le fun few => several (List.isEmpty_iff.2 (List.drop_eq_nil_iff.2 few))
    rw [List.append_assoc, List.cons_append]
    refine spells_point_letter negative first (digits_drop more) ?_ ?_ fits small
    · rw [List.take_append_drop, value]
    · rw [List.length_drop]
      omega

/-- A positive decimal is read as it was written, perhaps with zeros at its end. -/
theorem spells_decimal (positive : 0 < x.digits) (fits : x.digits < 18446744073709551616)
    {form : DecimalForm} (plain : form.greatestPlain < 18)
    (least : -1000 ≤ x.exponent) (greatest : x.exponent ≤ 1000) :
    ∃ places, (x.shifted places).digits < 18446744073709551616 ∧
      SpellsDecimal negative (x.text form) (x.shifted places) := by
  have short : (natText x.digits).length ≤ 20 :=
    (Nat.length_toDigits_le_iff (by decide) (by decide)).2 (Nat.lt_trans fits (by decide))
  have asWritten : x.shifted 0 = x := by
    simp [Decimal.shifted]
  unfold Decimal.text
  dsimp only
  split
  next inside =>
    simp only [Bool.and_eq_true, decide_eq_true_eq] at inside
    split
    next up =>
      obtain ⟨zeros, exponent⟩ := Int.eq_ofNat_of_zero_le up
      rw [exponent, Int.toNat_natCast]
      exact ⟨zeros + 1, spells_whole negative positive exponent (by omega)⟩
    next down =>
      refine ⟨0, asWritten.symm ▸ fits, asWritten.symm ▸ ?_⟩
      split
      next above => exact spells_inside negative positive fits (by omega) (by omega) (by omega)
      next below => exact spells_below negative fits (by omega)
  next outside =>
    refine ⟨0, asWritten.symm ▸ fits, asWritten.symm ▸ ?_⟩
    exact spells_scientific negative positive fits rfl (by omega)

end

/-! ### Numbers in single precision -/

/-- In single precision values are below `10 ^ 39`. -/
theorem wholeDigits_le {magnitude : Nat} (finite : magnitude < Format.binary32.infinity) :
    Format.binary32.wholeDigits magnitude ≤ 39 := by
  have exponent : magnitude / Format.binary32.fractions < 255 := by
    rw [Nat.div_lt_iff_lt_mul Format.fractions_pos]
    exact finite
  have units : Format.binary32.units magnitude < 2 ^ 128 * Format.binary32.one := by
    calc Format.binary32.units magnitude
        < 2 ^ 23 * 2 ^ (magnitude / Format.binary32.fractions) := Format.units_lt _
      _ = 2 ^ (23 + magnitude / Format.binary32.fractions) := (Nat.pow_add ..).symm
      _ ≤ 2 ^ (128 + Format.binary32.scale) :=
          Nat.pow_le_pow_right (by decide) (by
            have scale : Format.binary32.scale = 149 := rfl
            omega)
      _ = 2 ^ 128 * Format.binary32.one := Nat.pow_add ..
  have whole : Format.binary32.units magnitude / Format.binary32.one < 2 ^ 128 :=
    (Nat.div_lt_iff_lt_mul Format.one_pos).2 units
  exact (Nat.length_toDigits_le_iff (by decide) (by decide)).2 (Nat.lt_trans whole (by decide))

/-- The digits of a finite number are those of a decimal that rounds to it. -/
theorem spells_body {x : Binary32} (finite : x.isFinite = true) (negative : Bool) :
    ∃ decimal : Decimal, decimal.roundsTo .binary32 x.magnitude = true ∧
      decimal.digits < 18446744073709551616 ∧ decimal.exponent ≤ 100 ∧
      SpellsDecimal negative (if x.magnitude = 0 then ['0', '.', '0']
        else (Format.binary32.shortest x.magnitude).text Format.binary32.decimalForm) decimal := by
  split
  next zero =>
    refine ⟨⟨0, -1⟩, ?_, by decide, by decide, ?_⟩
    · rw [zero]
      decide +kernel
    · exact spells_point negative .zero WholeDigits.zero.toDigits rfl rfl (by decide)
  next filled =>
    have positive := Nat.pos_of_ne_zero filled
    obtain ⟨-, least, greatest, -⟩ : Format.binary32.Found x.magnitude
        (Format.binary32.wholeDigits x.magnitude) (-Format.binary32.scale)
        (Format.binary32.shortest x.magnitude) := Format.found_shortest positive
    have scale : Format.binary32.scale = 149 := rfl
    have whole := wholeDigits_le (of_decide_eq_true finite)
    have fits : (Format.binary32.shortest x.magnitude).digits < 18446744073709551616 :=
      (Format.shortest_digits_le positive).trans_lt (by decide)
    have plain : Format.binary32.decimalForm.greatestPlain < 18 := by decide
    obtain ⟨places, size, spells⟩ := spells_decimal negative
      (Format.shortest_digits_pos positive) fits plain (by omega) (by omega)
    refine ⟨_, ?_, size, ?_, spells⟩
    · rw [Decimal.shifted_roundsTo]
      exact Format.shortest_roundsTo positive
    · rw [Decimal.shifted]
      dsimp only
      omega

/-- The text of a finite number reads as what a decimal is read as that rounds to the number,
whatever stands behind it that does not go on with it. -/
theorem floatText_number {x : Binary32} (finite : x.isFinite = true) :
    ∃ (decimal : Decimal) (value : Number), decimal.roundsTo .binary32 x.magnitude = true ∧
      float x.negative decimal.digits decimal.exponent = .ok value ∧
      ∀ expected depth rest, EndsNumber rest →
        Codec.decodeNumber expected depth (floatText x ++ rest) = .ok (value, rest) := by
  obtain ⟨decimal, rounds, fits, small, spells⟩ := spells_body finite x.negative
  obtain ⟨value, made⟩ := float_ok x.negative fits small
  refine ⟨decimal, value, rounds, made, fun expected depth rest ends => ?_⟩
  have read := spells rest ends
  rw [made] at read
  rw [floatText, if_pos finite, Binary.text, decodeNumber_eq_ok_iff]
  cases sign : x.negative with
  | true =>
    rw [sign] at read
    exact .inl ⟨_, rfl, read⟩
  | false =>
    rw [sign] at read
    refine .inr ?_
    simp only [Bool.false_eq_true, ↓reduceIte]
    -- A number starts with a digit.
    obtain ⟨digits, behind, shape, run, -⟩ := number_starts read
    obtain ⟨c, others, rfl⟩ := List.exists_cons_of_ne_nil run.nonempty
    have digit := run.each c List.mem_cons_self
    rw [shape] at read ⊢
    exact ⟨c, others ++ behind, digit, dropSpace_cons (isSpace_digit digit) _, read⟩

end BackgroundWork.Json
