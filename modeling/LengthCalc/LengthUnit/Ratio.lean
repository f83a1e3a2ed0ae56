import LengthCalc.Decimal.Rounding
import LengthCalc.LengthUnit.Basic

namespace LengthCalc

/-!
# Conversion ratios

Each unit has an exact count per inch.  The ratio from one unit to another is
the quotient of these counts, rounded to six significant digits with a half
away from zero and written without trailing zeros; a unit has ratio one to
itself.
-/

namespace LengthUnit

/-- Millimeters in one inch. -/
def millimetersPerInch : Decimal :=
  ⟨254, 1, by decide, by decide⟩

/-- Millimeters in one centimeter. -/
def millimetersPerCentimeter : Decimal :=
  ⟨10, 0, by decide, Decimal.zero_scale_le⟩

/-- Points in one inch. -/
def pointsPerInch : Decimal :=
  ⟨72, 0, by decide, Decimal.zero_scale_le⟩

/-- Pixels in one inch. -/
def pixelsPerInch : Decimal :=
  ⟨300, 0, by decide, Decimal.zero_scale_le⟩

/-- Significant digits kept in a ratio. -/
def ratioDigits : Nat :=
  6

/-- A fraction of natural numbers. -/
structure Count where
  numerator : Nat
  denominator : Nat
  deriving Repr, DecidableEq

/-- The quotient of two decimals as a fraction, both being positive. -/
def Count.quotient (left right : Decimal) : Count where
  numerator := left.coefficient.natAbs * 10 ^ right.scale
  denominator := right.coefficient.natAbs * 10 ^ left.scale

/-- How many of a unit make up one inch, exactly. -/
def perInch : LengthUnit → Count
  | .millimeter => .quotient millimetersPerInch .one
  | .centimeter => .quotient millimetersPerInch millimetersPerCentimeter
  | .inch => .quotient .one .one
  | .pixel => .quotient pixelsPerInch .one
  | .point => .quotient pointsPerInch .one

/-- How many of `target` make up one of `source`, exactly. -/
def exactRatio (source target : LengthUnit) : Count where
  numerator := target.perInch.numerator * source.perInch.denominator
  denominator := target.perInch.denominator * source.perInch.numerator

/--
The smallest scale at which a positive fraction shows all its significant
digits, counted up to the largest scale that a decimal has.
-/
def Count.significantScale (count : Count) (digits : Nat) : Nat :=
  ((List.range 29).find? fun scale =>
    10 ^ (digits - 1) * count.denominator ≤ count.numerator * 10 ^ scale).getD 28

/-- The ratio of two units before its trailing zeros are dropped. -/
def roundedRatio (source target : LengthUnit) : Decimal :=
  let exact := exactRatio source target
  let scale := exact.significantScale ratioDigits
  ⟨nearestAway (exact.numerator * 10 ^ scale) exact.denominator, scale, by
    cases source <;> cases target <;> decide, by
    cases source <;> cases target <;> decide⟩

/-- What an amount in `source` is multiplied by to become one in `target`. -/
def ratio (source target : LengthUnit) : Decimal :=
  if source = target then
    .one
  else
    (roundedRatio source target).normalize

/-- Every ratio with its two units, in the order of the units. -/
def ratioTable : List (LengthUnit × LengthUnit × Decimal) :=
  all.flatMap fun source =>
    all.map fun target => (source, target, ratio source target)

end LengthUnit

end LengthCalc
