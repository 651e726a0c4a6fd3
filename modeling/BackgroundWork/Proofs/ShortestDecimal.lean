import BackgroundWork.Proofs.FloatReading

set_option autoImplicit false

/-!
The decimal that a number is written as. The search through the grids meets a point that rounds to
the magnitude, at the latest on the grid on which the value itself lies, so what it finds reads
back under exact rounding. It stops at a grid that is no finer than the magnitudes are apart, so
that a decimal has no more digits than the magnitudes are precise. And rounding does not make a
number much greater, so that no number which is written becomes an infinite one.

Main statements: `shortest_roundsTo`, `shortest_digits_le`, `times_isFinite`.
-/

namespace BackgroundWork.Numeric

/-! ### Rounded quotients -/

theorem roundQuotient_le (numerator denominator : Nat) :
    roundQuotient numerator denominator ≤ numerator / denominator + 1 := by
  unfold roundQuotient
  dsimp only
  split
  · omega
  · split
    · omega
    · split <;> omega

theorem roundQuotient_mul {denominator : Nat} (positive : 0 < denominator) (quotient : Nat) :
    roundQuotient (quotient * denominator) denominator = quotient := by
  unfold roundQuotient
  simp only [Nat.mul_mod_left, Nat.mul_zero, positive, Nat.mul_div_cancel _ positive, ↓reduceIte]

/-- A rounded quotient is off by half at most. -/
theorem roundQuotient_near (numerator : Nat) {denominator : Nat} (positive : 0 < denominator) :
    2 * numerator ≤ 2 * (roundQuotient numerator denominator * denominator) + denominator ∧
      2 * (roundQuotient numerator denominator * denominator) ≤ 2 * numerator + denominator := by
  have parts : denominator * (numerator / denominator) + numerator % denominator = numerator :=
    Nat.div_add_mod _ _
  rw [Nat.mul_comm] at parts
  have left : numerator % denominator < denominator := Nat.mod_lt numerator positive
  have next : (numerator / denominator + 1) * denominator =
      numerator / denominator * denominator + denominator := Nat.succ_mul ..
  unfold roundQuotient
  dsimp only
  split
  · omega
  · split
    · rw [next]
      omega
    · split
      · omega
      · rw [next]
        omega

/-- Whether a decimal rounds to a magnitude. -/
def Decimal.roundsTo (x : Decimal) (format : Format) (magnitude : Nat) : Bool :=
  format.roundsTo magnitude (x.digits * (format.gridStep x.exponent).1)
    (format.gridStep x.exponent).2

namespace Format

variable {format : Format} {magnitude : Nat}

/-! ### The interval of a magnitude -/

/-- How far the magnitude before is away. -/
def gap (format : Format) (magnitude : Nat) : Nat :=
  format.units magnitude - format.units (magnitude - 1)

theorem gap_pos (positive : 0 < magnitude) : 0 < format.gap magnitude :=
  Nat.sub_pos_of_lt (units_strictMono (by omega))

theorem units_mul_eq (magnitude denominator : Nat) :
    format.units magnitude * denominator =
      format.units (magnitude - 1) * denominator + format.gap magnitude * denominator := by
  have ordered : format.units (magnitude - 1) ≤ format.units magnitude :=
    units_mono (Nat.sub_le magnitude 1)
  rw [← Nat.add_mul, gap, Nat.add_sub_cancel' ordered]

theorem gap_succ (magnitude : Nat) :
    format.gap (magnitude + 1) = 2 ^ (magnitude / format.fractions - 1) := by
  rw [gap, Nat.add_sub_cancel, units_succ, Nat.add_sub_cancel_left]

theorem gap_mono (positive : 0 < magnitude) : format.gap magnitude ≤ format.gap (magnitude + 1) := by
  obtain ⟨magnitude, rfl⟩ := Nat.exists_eq_succ_of_ne_zero positive.ne'
  rw [gap_succ, gap_succ]
  have exponents : magnitude / format.fractions ≤ (magnitude + 1) / format.fractions :=
    Nat.div_le_div_right (Nat.le_succ _)
  exact Nat.pow_le_pow_right (by decide) (by omega)

/-- A value is at most three times as many gaps as there are fractions. -/
theorem units_le_gap (positive : 0 < magnitude) :
    format.units magnitude ≤ 3 * format.fractions * format.gap magnitude := by
  obtain ⟨magnitude, rfl⟩ := Nat.exists_eq_succ_of_ne_zero positive.ne'
  have before : format.units magnitude < format.fractions * 2 ^ (magnitude / format.fractions) :=
    units_lt magnitude
  have exponent : 2 ^ (magnitude / format.fractions) ≤
      2 * 2 ^ (magnitude / format.fractions - 1) := by
    rw [← Nat.pow_succ']
    exact Nat.pow_le_pow_right (by decide) (by omega)
  have some : 1 ≤ format.fractions := fractions_pos
  rw [units_succ, gap_succ]
  generalize 2 ^ (magnitude / format.fractions - 1) = step at *
  calc format.units magnitude + step
      ≤ format.fractions * (2 * step) + format.fractions * step :=
        Nat.add_le_add (before.le.trans (Nat.mul_le_mul_left _ exponent))
          (Nat.le_mul_of_pos_left _ some)
    _ = 3 * format.fractions * step := by ring

/-- What is nearer than half a gap to the value of a magnitude rounds to it. -/
theorem roundsTo_near (positive : 0 < magnitude) {numerator denominator : Nat}
    (low : 2 * (format.units magnitude * denominator) <
      2 * numerator + format.gap magnitude * denominator)
    (high : 2 * numerator <
      2 * (format.units magnitude * denominator) + format.gap magnitude * denominator) :
    format.roundsTo magnitude numerator denominator = true := by
  have before : format.units magnitude * denominator =
      format.units (magnitude - 1) * denominator + format.gap magnitude * denominator :=
    units_mul_eq magnitude denominator
  have after : format.units (magnitude + 1) * denominator =
      format.units magnitude * denominator + format.gap (magnitude + 1) * denominator :=
    units_mul_eq (magnitude + 1) denominator
  have wider : format.gap magnitude * denominator ≤ format.gap (magnitude + 1) * denominator :=
    Nat.mul_le_mul_right _ (gap_mono positive)
  have above : (format.units (magnitude - 1) + format.units magnitude) * denominator <
      2 * numerator := by
    rw [Nat.add_mul]
    omega
  have below : 2 * numerator <
      (format.units magnitude + format.units (magnitude + 1)) * denominator := by
    rw [Nat.add_mul]
    omega
  unfold roundsTo
  dsimp only
  split
  · simp only [above.le, below.le, decide_true, Bool.and_self]
  · simp only [above, below, decide_true, Bool.and_self]

/-- Zero rounds to no other magnitude. -/
theorem roundsTo_zero (positive : 0 < magnitude) {denominator : Nat} (filled : 0 < denominator) :
    format.roundsTo magnitude 0 denominator = false := by
  have some : 0 < format.units magnitude :=
    Nat.lt_of_le_of_lt (Nat.zero_le _) (units_strictMono positive)
  have low : 0 < (format.units (magnitude - 1) + format.units magnitude) * denominator :=
    Nat.mul_pos (by omega) filled
  have beyond : ¬ (format.units (magnitude - 1) + format.units magnitude) * denominator ≤ 0 :=
    Nat.not_le.2 low
  unfold roundsTo
  dsimp only
  split
  · simp only [Nat.mul_zero, beyond, decide_false, Bool.false_and]
  · simp only [Nat.mul_zero, Nat.not_lt_zero, decide_false, Bool.false_and]

theorem roundsTo_mul {factor : Nat} (filled : 0 < factor) (numerator denominator : Nat) :
    format.roundsTo magnitude (numerator * factor) (denominator * factor) =
      format.roundsTo magnitude numerator denominator := by
  unfold roundsTo
  simp only [← Nat.mul_assoc, Nat.mul_le_mul_right_iff filled, Nat.mul_lt_mul_right filled]

/-- Equal fractions round alike. -/
theorem roundsTo_congr {numerator denominator numerator' denominator' : Nat}
    (filled : 0 < denominator) (filled' : 0 < denominator')
    (same : numerator * denominator' = numerator' * denominator) :
    format.roundsTo magnitude numerator denominator =
      format.roundsTo magnitude numerator' denominator' := by
  rw [← roundsTo_mul filled' numerator denominator, same, Nat.mul_comm denominator,
    roundsTo_mul filled numerator' denominator']

/-! ### The grids -/

theorem gridStep_pos (exponent : Int) :
    0 < (format.gridStep exponent).1 ∧ 0 < (format.gridStep exponent).2 :=
  ⟨Nat.mul_pos one_pos (Nat.pow_pos (by decide)), Nat.pow_pos (by decide)⟩

/-- A coarser grid has steps of so many times the size. -/
theorem gridStep_add (format : Format) (exponent : Int) (places : Nat) :
    (format.gridStep (exponent + places)).1 * (format.gridStep exponent).2 =
      10 ^ places * (format.gridStep exponent).1 * (format.gridStep (exponent + places)).2 := by
  have powers : (exponent + places).toNat + (-exponent).toNat =
      places + exponent.toNat + (-(exponent + places)).toNat := by omega
  unfold gridStep
  simp only [Nat.pow_eq]
  calc format.one * 10 ^ (exponent + places).toNat * 10 ^ (-exponent).toNat
      = format.one * 10 ^ ((exponent + places).toNat + (-exponent).toNat) := by
        rw [Nat.pow_add, Nat.mul_assoc]
    _ = format.one * 10 ^ (places + exponent.toNat + (-(exponent + places)).toNat) := by
        rw [powers]
    _ = 10 ^ places * (format.one * 10 ^ exponent.toNat) *
          10 ^ (-(exponent + places)).toNat := by
        rw [Nat.pow_add, Nat.pow_add]
        ring

/-- A point that is found on a grid rounds to the magnitude, and is at most one step beyond its
value. -/
theorem onGrid_spec {exponent : Int} {digits : Nat}
    (found : format.onGrid magnitude exponent = some digits) :
    format.roundsTo magnitude (digits * (format.gridStep exponent).1)
        (format.gridStep exponent).2 = true ∧
      digits ≤ format.units magnitude * (format.gridStep exponent).2 /
        (format.gridStep exponent).1 + 1 := by
  unfold onGrid at found
  dsimp only at found
  split at found
  next fits =>
    cases found
    exact ⟨fits, roundQuotient_le _ _⟩
  · split at found
    next fits =>
      cases found
      exact ⟨fits, Nat.le_succ _⟩
    · split at found
      next fits =>
        cases found
        exact ⟨fits, Nat.le_refl _⟩
      · cases found

theorem onGrid_closest {exponent : Int}
    (fits : format.roundsTo magnitude
      (roundQuotient (format.units magnitude * (format.gridStep exponent).2)
        (format.gridStep exponent).1 * (format.gridStep exponent).1)
      (format.gridStep exponent).2 = true) :
    format.onGrid magnitude exponent ≠ none := by
  unfold onGrid
  dsimp only
  rw [if_pos fits]
  exact nofun

/-- A grid whose steps are smaller than the gap has a point. -/
theorem onGrid_fine (positive : 0 < magnitude) {exponent : Int}
    (fine : (format.gridStep exponent).1 < format.gap magnitude * (format.gridStep exponent).2) :
    format.onGrid magnitude exponent ≠ none := by
  have step : 0 < (format.gridStep exponent).1 := (gridStep_pos exponent).1
  obtain ⟨low, high⟩ :=
    roundQuotient_near (format.units magnitude * (format.gridStep exponent).2) step
  exact onGrid_closest (roundsTo_near positive (by omega) (by omega))

/-- On the grid of the decimals of the least unit lies the value itself. -/
theorem onGrid_finest (positive : 0 < magnitude) :
    format.onGrid magnitude (-format.scale) ≠ none := by
  have step : format.gridStep (-format.scale) = (format.one, 10 ^ format.scale) := by
    simp [gridStep]
  have value : format.units magnitude * 10 ^ format.scale =
      format.units magnitude * 5 ^ format.scale * format.one := by
    rw [Nat.mul_assoc, one, Nat.pow_eq, ← Nat.mul_pow]
  have distance : 0 < format.gap magnitude * 10 ^ format.scale :=
    Nat.mul_pos (gap_pos positive) (Nat.pow_pos (by decide))
  refine onGrid_closest ?_
  rw [step]
  dsimp only
  rw [value, roundQuotient_mul one_pos, ← value]
  exact roundsTo_near positive (by omega) (by omega)

/-- What a search that starts from one grid finds, if a later grid has a point: it is on the first
grid that has any. -/
structure Found (format : Format) (magnitude : Nat) (first last : Int) (decimal : Decimal) :
    Prop where
  point : format.onGrid magnitude decimal.exponent = some decimal.digits
  least : last ≤ decimal.exponent
  greatest : decimal.exponent ≤ first
  coarser : decimal.exponent = first ∨ format.onGrid magnitude (decimal.exponent + 1) = none

theorem found_searchGrids {first last : Int} (filled : format.onGrid magnitude last ≠ none)
    (ordered : last ≤ first) {fuel : Nat} (within : first - last < fuel) :
    format.Found magnitude first last (format.searchGrids magnitude fuel first) := by
  induction fuel generalizing first with
  | zero => omega
  | succ fuel ih =>
    cases here : format.onGrid magnitude first with
    | some digits =>
      simp only [searchGrids, here]
      exact ⟨here, ordered, le_refl first, .inl rfl⟩
    | none =>
      have other : last ≠ first := by
        rintro rfl
        exact filled here
      obtain ⟨point, least, greatest, coarser⟩ := @ih (first - 1) (by omega) (by omega)
      simp only [searchGrids, here]
      refine ⟨point, least, by omega, .inr ?_⟩
      rcases coarser with same | none
      · rw [same, Int.sub_add_cancel]
        exact here
      · exact none

/-! ### The shortest decimal -/

/-- How many digits the whole part of a magnitude's value has. -/
def wholeDigits (format : Format) (magnitude : Nat) : Nat :=
  (Nat.toDigits 10 (format.units magnitude / format.one)).length

theorem lt_wholeDigits (magnitude : Nat) :
    format.units magnitude / format.one < 10 ^ format.wholeDigits magnitude :=
  (Nat.length_toDigits_le_iff (by decide) Nat.length_toDigits_pos).1 (Nat.le_refl _)

theorem found_shortest (positive : 0 < magnitude) :
    format.Found magnitude (format.wholeDigits magnitude) (-format.scale)
      (format.shortest magnitude) :=
  found_searchGrids (onGrid_finest positive) (by omega) (by
    unfold wholeDigits
    push_cast
    omega)

/-- The decimal that a magnitude is written as rounds to it. -/
theorem shortest_roundsTo (positive : 0 < magnitude) :
    (format.shortest magnitude).roundsTo format magnitude = true :=
  (onGrid_spec (found_shortest positive).point).1

theorem shortest_digits_pos (positive : 0 < magnitude) :
    0 < (format.shortest magnitude).digits := by
  have rounds : (format.shortest magnitude).roundsTo format magnitude = true :=
    shortest_roundsTo positive
  by_contra none
  rw [Decimal.roundsTo, Nat.eq_zero_of_not_pos none, Nat.zero_mul,
    roundsTo_zero positive (gridStep_pos _).2] at rounds
  cases rounds

/-- A grid with steps of a tenth of the gap has few points up to the value. -/
theorem shortest_digits_le (positive : 0 < magnitude) :
    (format.shortest magnitude).digits ≤ 30 * format.fractions + 1 := by
  have found : format.Found magnitude (format.wholeDigits magnitude) (-format.scale)
      (format.shortest magnitude) := found_shortest positive
  refine (onGrid_spec found.point).2.trans (Nat.add_le_add_right ?_ 1)
  have coarser := found.coarser
  generalize (format.shortest magnitude).exponent = exponent at coarser ⊢
  rcases coarser with rfl | empty
  · -- The steps of the first grid are greater than the value.
    have below : format.units magnitude < 10 ^ format.wholeDigits magnitude * format.one :=
      (Nat.div_lt_iff_lt_mul one_pos).1 (lt_wholeDigits magnitude)
    have step : format.gridStep (format.wholeDigits magnitude) =
        (format.one * 10 ^ format.wholeDigits magnitude, 1) := by
      simp [gridStep]
    rw [step, Nat.mul_one, Nat.div_eq_of_lt (below.trans_eq (Nat.mul_comm ..))]
    exact Nat.zero_le _
  · -- The grid before was too coarse.
    have coarse : format.gap magnitude * (format.gridStep (exponent + 1)).2 ≤
        (format.gridStep (exponent + 1)).1 :=
      Nat.le_of_not_lt fun fine => onGrid_fine positive fine empty
    have next : (format.gridStep (exponent + 1)).1 * (format.gridStep exponent).2 =
        10 ^ 1 * (format.gridStep exponent).1 * (format.gridStep (exponent + 1)).2 :=
      format.gridStep_add exponent 1
    have filled : 0 < (format.gridStep (exponent + 1)).2 := (gridStep_pos (exponent + 1)).2
    have tenth : format.gap magnitude * (format.gridStep exponent).2 ≤
        10 * (format.gridStep exponent).1 := by
      refine Nat.le_of_mul_le_mul_right ?_ filled
      calc format.gap magnitude * (format.gridStep exponent).2 * (format.gridStep (exponent + 1)).2
          = format.gap magnitude * (format.gridStep (exponent + 1)).2 *
              (format.gridStep exponent).2 := Nat.mul_right_comm ..
        _ ≤ (format.gridStep (exponent + 1)).1 * (format.gridStep exponent).2 :=
            Nat.mul_le_mul_right _ coarse
        _ = 10 * (format.gridStep exponent).1 * (format.gridStep (exponent + 1)).2 := next
    refine Nat.div_le_of_le_mul ?_
    calc format.units magnitude * (format.gridStep exponent).2
        ≤ 3 * format.fractions * format.gap magnitude * (format.gridStep exponent).2 :=
          Nat.mul_le_mul_right _ (units_le_gap positive)
      _ = 3 * format.fractions * (format.gap magnitude * (format.gridStep exponent).2) :=
          Nat.mul_assoc ..
      _ ≤ 3 * format.fractions * (10 * (format.gridStep exponent).1) := Nat.mul_le_mul_left _ tenth
      _ = (format.gridStep exponent).1 * (30 * format.fractions) := by ring

/-! ### Rounding -/

/-- A fraction that is at most a power of two is rounded to a magnitude that is hardly greater. -/
theorem nearest_le {numerator denominator exponent : Nat}
    (small : numerator ≤ 2 ^ exponent * denominator) :
    format.nearest numerator denominator ≤
      (exponent + format.scale - format.fractionBits + 2) * format.fractions := by
  let quotient := numerator * format.one / denominator
  let shift := quotient.log2 - format.fractionBits
  have size : quotient ≤ 2 ^ (exponent + format.scale) := by
    refine Nat.div_le_of_le_mul ?_
    calc numerator * format.one ≤ 2 ^ exponent * denominator * format.one :=
          Nat.mul_le_mul_right _ small
      _ = denominator * 2 ^ (exponent + format.scale) := by
          rw [one, Nat.pow_eq, Nat.pow_add]
          ring
  have log : quotient.log2 ≤ exponent + format.scale := by
    by_cases zero : quotient = 0
    · rw [zero]
      exact Nat.zero_le _
    · refine (Nat.pow_le_pow_iff_right (by decide : 1 < 2)).1 ?_
      exact (Nat.log2_self_le zero).trans size
  -- What is left of the digits after the shift is one exponent's worth of fractions at most.
  have short : quotient / 2 ^ shift < 2 * format.fractions := by
    rw [Nat.div_lt_iff_lt_mul (Nat.two_pow_pos shift)]
    calc quotient < 2 ^ (quotient.log2 + 1) := Nat.lt_log2_self
      _ ≤ 2 ^ (format.fractionBits + 1 + shift) := Nat.pow_le_pow_right (by decide) (by omega)
      _ = 2 * format.fractions * 2 ^ shift := by
          rw [fractions, Nat.pow_eq, Nat.pow_add, Nat.pow_succ, Nat.mul_comm 2]
  have rounded : roundQuotient (numerator * format.one) (denominator * 2 ^ shift) ≤
      2 * format.fractions := by
    have bound := roundQuotient_le (numerator * format.one) (denominator * 2 ^ shift)
    rw [← Nat.div_div_eq_div_mul] at bound
    exact bound.trans short
  have places : shift ≤ exponent + format.scale - format.fractionBits := by omega
  calc format.nearest numerator denominator
      ≤ shift * format.fractions +
          roundQuotient (numerator * format.one) (denominator * 2 ^ shift) := Nat.min_le_left _ _
    _ ≤ (exponent + format.scale - format.fractionBits) * format.fractions +
          2 * format.fractions := Nat.add_le_add (Nat.mul_le_mul_right _ places) rounded
    _ = _ := (Nat.add_mul ..).symm

/-- What is rounded from at most a power of two stands for less than four times that. -/
theorem units_nearest_lt {numerator denominator exponent : Nat}
    (small : numerator ≤ 2 ^ exponent * denominator)
    (normal : format.fractionBits ≤ format.scale) :
    format.units (format.nearest numerator denominator) < 2 ^ (exponent + 2) * format.one := by
  have exponents : format.nearest numerator denominator / format.fractions ≤
      exponent + format.scale - format.fractionBits + 2 :=
    Nat.div_le_of_le_mul ((nearest_le small).trans_eq (Nat.mul_comm _ _))
  calc format.units (format.nearest numerator denominator)
      < format.fractions * 2 ^ (format.nearest numerator denominator / format.fractions) :=
        units_lt _
    _ ≤ 2 ^ format.fractionBits * 2 ^ (exponent + format.scale - format.fractionBits + 2) :=
        Nat.mul_le_mul_left _ (Nat.pow_le_pow_right (by decide) exponents)
    _ = 2 ^ (exponent + 2) * format.one := by
        rw [one, Nat.pow_eq, ← Nat.pow_add, ← Nat.pow_add]
        congr 1
        omega

end Format

/-! ### Zeros at the end -/

/-- The same number with more zeros at its end. -/
def Decimal.shifted (x : Decimal) (places : Nat) : Decimal :=
  ⟨x.digits * 10 ^ places, x.exponent - places⟩

theorem Decimal.shifted_roundsTo {format : Format} {magnitude : Nat} (x : Decimal) (places : Nat) :
    (x.shifted places).roundsTo format magnitude = x.roundsTo format magnitude := by
  have coarser : (format.gridStep x.exponent).1 * (format.gridStep (x.exponent - places)).2 =
      10 ^ places * (format.gridStep (x.exponent - places)).1 *
        (format.gridStep x.exponent).2 := by
    have steps := format.gridStep_add (x.exponent - places) places
    rwa [Int.sub_add_cancel] at steps
  refine Format.roundsTo_congr (Format.gridStep_pos _).2 (Format.gridStep_pos _).2 ?_
  calc x.digits * 10 ^ places * (format.gridStep (x.exponent - places)).1 *
        (format.gridStep x.exponent).2
      = x.digits * (10 ^ places * (format.gridStep (x.exponent - places)).1 *
          (format.gridStep x.exponent).2) := by ring
    _ = x.digits * (format.gridStep x.exponent).1 *
          (format.gridStep (x.exponent - places)).2 := by rw [← coarser, Nat.mul_assoc]

namespace Binary

variable {format : Format}

/-- A natural number up to a power of two becomes less than four times that. -/
theorem units_ofNat_lt (normal : format.fractionBits ≤ format.scale) {n exponent : Nat}
    (small : n ≤ 2 ^ exponent) :
    (ofNat n : Binary format).units < 2 ^ (exponent + 2) * format.one :=
  Format.units_nearest_lt (small.trans_eq (Nat.mul_one _).symm) normal

/-- A product of two numbers up to powers of two is finite, if the format has room for it. -/
theorem times_isFinite {x y : Binary format} {first second : Nat}
    (left : x.units ≤ 2 ^ first * format.one) (right : y.units ≤ 2 ^ second * format.one)
    (room : first + second + format.scale - format.fractionBits + 2 <
      2 ^ format.exponentBits - 1) :
    (x.times y).isFinite = true := by
  have product : x.units * y.units ≤ 2 ^ (first + second) * (format.one * format.one) := by
    calc x.units * y.units ≤ 2 ^ first * format.one * (2 ^ second * format.one) :=
          Nat.mul_le_mul left right
      _ = 2 ^ (first + second) * (format.one * format.one) := by
          rw [Nat.pow_add]
          ring
  refine decide_eq_true ?_
  calc format.nearest (x.units * y.units) (format.one * format.one)
      ≤ (first + second + format.scale - format.fractionBits + 2) * format.fractions :=
        Format.nearest_le product
    _ < (2 ^ format.exponentBits - 1) * format.fractions :=
        Nat.mul_lt_mul_of_pos_right room Format.fractions_pos

end Binary
end BackgroundWork.Numeric
