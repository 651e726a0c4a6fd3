import BackgroundWork.Numeric.Binary

set_option autoImplicit false

/-!
The shortest decimal that reads back. The reals that round to a given magnitude form an interval
between the midpoints to its two neighbours. The coarsest decimal grid with a point in that
interval gives the fewest digits, and of its points the nearest to the value is taken, an exact
tie going to the even digit.
-/

namespace BackgroundWork.Numeric

/-- The number `digits * 10 ^ exponent`. -/
structure Decimal where
  digits : Nat
  exponent : Int
  deriving DecidableEq, Repr

namespace Format

variable (format : Format)

/-- Whether `numerator / denominator` least units round to the magnitude. The ends of the interval
are midpoints and belong to the even magnitude. -/
def roundsTo (magnitude numerator denominator : Nat) : Bool :=
  let low := (format.units (magnitude - 1) + format.units magnitude) * denominator
  let high := (format.units magnitude + format.units (magnitude + 1)) * denominator
  if magnitude % 2 = 0 then low ≤ 2 * numerator && 2 * numerator ≤ high
  else low < 2 * numerator && 2 * numerator < high

/-- The number of least units in `10 ^ exponent`, as a fraction. -/
def gridStep (exponent : Int) : Nat × Nat :=
  (format.one * Nat.pow 10 exponent.toNat, Nat.pow 10 (-exponent).toNat)

/-- The point of the grid of step `10 ^ exponent` that lies nearest to the magnitude's value, if
it rounds to the magnitude. -/
def onGrid (magnitude : Nat) (exponent : Int) : Option Nat :=
  let (step, denominator) := format.gridStep exponent
  let below := format.units magnitude * denominator / step
  let fits (digits : Nat) := format.roundsTo magnitude (digits * step) denominator
  let closest := roundQuotient (format.units magnitude * denominator) step
  if fits closest then some closest
  else if fits below then some below
  else if fits (below + 1) then some (below + 1)
  else none

/-- The first of the `fuel` grids from step `10 ^ exponent` downwards that has a point which
rounds to the magnitude. -/
def searchGrids (magnitude : Nat) : Nat → Int → Decimal
  | 0, exponent => ⟨0, exponent⟩
  | fuel + 1, exponent =>
    match format.onGrid magnitude exponent with
    | some digits => ⟨digits, exponent⟩
    | none => searchGrids magnitude fuel (exponent - 1)

/-- The shortest decimal that rounds to a magnitude other than zero. No point of a grid coarser
than the whole part has digits is in the interval, and the grid of the least unit itself has one. -/
def shortest (magnitude : Nat) : Decimal :=
  let wholeDigits := (Nat.toDigits 10 (format.units magnitude / format.one)).length
  format.searchGrids magnitude (wholeDigits + format.scale + 1) wholeDigits

end Format

/-- Where a number is written positionally, as bounds on its decimal exponent. -/
structure DecimalForm where
  leastPlain : Int
  greatestPlain : Int

/-- In single precision the numbers from 0.000001 up to 10^13 are written positionally, in double
precision those from 0.00001 up to 10^16; others have an exponent. -/
def Format.decimalForm (format : Format) : DecimalForm :=
  if format = .binary32 then ⟨-6, 12⟩ else ⟨-5, 15⟩

/-- The decimal digits of a natural number. -/
def natText (n : Nat) : List Char :=
  Nat.toDigits 10 n

theorem natText_injective {first second : Nat} (same : natText first = natText second) :
    first = second := by
  have read (n : Nat) : Nat.ofDigitChars 10 (natText n) 0 = n := Nat.ofDigitChars_ten_toDigits
  rw [← read first, same, read]

/-- An integer, with a minus sign if it is negative. -/
def intText (i : Int) : List Char :=
  if i < 0 then '-' :: natText i.natAbs else natText i.natAbs

/-- A positive decimal in positional notation, with at least one digit on each side of the point,
or with one digit before the point and a signed exponent. -/
def Decimal.text (form : DecimalForm) (x : Decimal) : List Char :=
  let digits := natText x.digits
  let count : Int := digits.length
  let exponent := count + x.exponent - 1
  if form.leastPlain ≤ exponent && exponent ≤ form.greatestPlain then
    if 0 ≤ x.exponent then digits ++ List.replicate x.exponent.toNat '0' ++ ['.', '0']
    else if 0 ≤ exponent then
      digits.take (exponent.toNat + 1) ++ '.' :: digits.drop (exponent.toNat + 1)
    else '0' :: '.' :: List.replicate (-exponent - 1).toNat '0' ++ digits
  else
    let fraction := digits.drop 1
    let exponentText := (if exponent < 0 then '-' else '+') :: natText exponent.natAbs
    digits.take 1 ++ (if fraction.isEmpty then [] else '.' :: fraction) ++ 'e' :: exponentText

/-- A finite number as the shortest decimal that reads back; zero keeps its sign. -/
def Binary.text {format : Format} (x : Binary format) : List Char :=
  let body := if x.magnitude = 0 then ['0', '.', '0']
    else (format.shortest x.magnitude).text format.decimalForm
  if x.negative then '-' :: body else body

end BackgroundWork.Numeric
