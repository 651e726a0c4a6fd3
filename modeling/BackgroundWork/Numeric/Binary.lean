set_option autoImplicit false

/-!
Binary floating-point numbers as exact data. A number is a sign and a magnitude, where the
magnitude is the exponent field followed by the fraction field, so that greater values have
greater magnitudes and each magnitude is one more than its lower neighbour. Every finite value is
a whole number of the format's least unit, so all arithmetic here is on natural numbers, and
rounding is to the nearest value with ties to the even magnitude.
-/

namespace BackgroundWork.Numeric

/-- The widths of the fields of a binary interchange format. -/
structure Format where
  fractionBits : Nat
  exponentBits : Nat
  deriving DecidableEq, Repr

namespace Format

/-- Double precision. -/
def binary64 : Format := ⟨52, 11⟩

/-- Single precision. -/
def binary32 : Format := ⟨23, 8⟩

/-- The least unit is `2 ^ (- scale)`. -/
def scale (format : Format) : Nat :=
  Nat.pow 2 (format.exponentBits - 1) - 2 + format.fractionBits

/-- How many least units make one. -/
def one (format : Format) : Nat :=
  Nat.pow 2 format.scale

/-- How many fractions there are. -/
def fractions (format : Format) : Nat :=
  Nat.pow 2 format.fractionBits

/-- The magnitude of infinity; greater magnitudes are no numbers. -/
def infinity (format : Format) : Nat :=
  (Nat.pow 2 format.exponentBits - 1) * format.fractions

/-- How many least units a magnitude stands for. -/
def units (format : Format) (magnitude : Nat) : Nat :=
  let exponent := magnitude / format.fractions
  let fraction := magnitude % format.fractions
  if exponent = 0 then fraction else (format.fractions + fraction) * Nat.pow 2 (exponent - 1)

end Format

/-- The quotient rounded to a whole number, a half going to the even neighbour. -/
def roundQuotient (numerator denominator : Nat) : Nat :=
  let quotient := numerator / denominator
  let twice := 2 * (numerator % denominator)
  if twice < denominator then quotient
  else if denominator < twice then quotient + 1
  else if quotient % 2 = 0 then quotient else quotient + 1

/-- The magnitude nearest to `numerator / denominator`; what lies beyond the greatest finite
value becomes infinity. -/
def Format.nearest (format : Format) (numerator denominator : Nat) : Nat :=
  let scaled := numerator * format.one
  let shift := Nat.log2 (scaled / denominator) - format.fractionBits
  let rounded := shift * format.fractions + roundQuotient scaled (denominator * Nat.pow 2 shift)
  min rounded format.infinity

/-- A number of the given format. -/
structure Binary (format : Format) where
  negative : Bool
  magnitude : Nat
  deriving DecidableEq, Repr

/-- A number in double precision. -/
abbrev Binary64 := Binary .binary64

/-- A number in single precision. -/
abbrev Binary32 := Binary .binary32

namespace Binary

variable {format : Format}

/-- Positive zero. -/
def zero : Binary format := ⟨false, 0⟩

/-- The number one. -/
def one : Binary format := ⟨false, format.nearest 1 1⟩

/-- Infinity of the given sign. -/
def infinite (negative : Bool) : Binary format := ⟨negative, format.infinity⟩

/-- A value that is no number. -/
def undefined : Binary format := ⟨false, format.infinity + 1⟩

/-- Whether a value is no number. -/
def isUndefined (x : Binary format) : Bool :=
  format.infinity < x.magnitude

/-- Whether a value is a number and not infinite. -/
def isFinite (x : Binary format) : Bool :=
  x.magnitude < format.infinity

/-- Whether a number is below zero; negative zero is not. -/
def isNegative (x : Binary format) : Bool :=
  x.negative && x.magnitude != 0 && !x.isUndefined

/-- How many least units the absolute value is. -/
def units (x : Binary format) : Nat :=
  format.units x.magnitude

/-- The number nearest to a natural number. -/
def ofNat (n : Nat) : Binary format := ⟨false, format.nearest n 1⟩

/-- The number nearest to an integer. -/
def ofInt (i : Int) : Binary format := ⟨i < 0, format.nearest i.natAbs 1⟩

/-- The product of the absolute values, with the sign of `x`. -/
def times (x y : Binary format) : Binary format :=
  { x with magnitude := format.nearest (x.units * y.units) (format.one * format.one) }

/-- The quotient of the absolute values, with the sign of `x`. -/
def dividedBy (x y : Binary format) : Binary format :=
  { x with magnitude := format.nearest x.units y.units }

/-- The nearest number of another format. -/
def convert (target : Format) (x : Binary format) : Binary target :=
  if x.isUndefined then undefined
  else if x.isFinite then ⟨x.negative, target.nearest x.units format.one⟩
  else infinite x.negative

end Binary
end BackgroundWork.Numeric
