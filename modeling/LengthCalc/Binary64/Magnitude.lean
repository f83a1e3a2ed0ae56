import LengthCalc.Decimal.Rounding

namespace LengthCalc

/-!
# Magnitudes

A magnitude is `significand * 2 ^ exponent`: the significand has at most 53
bits, and the exponent lies between -1074 and 971.  A ratio is rounded to the
nearest magnitude, and of two nearest ones to the one whose significand is
even.
-/

/-- A nonnegative binary number of limited precision. -/
structure Magnitude where
  significand : Nat
  exponent : Int
  deriving Repr, DecidableEq

namespace Magnitude

/-- The number of bits of a significand. -/
def precision : Nat :=
  53

/-- The exponent of the finest magnitudes. -/
def leastExponent : Int :=
  -1074

/-- The exponent of the coarsest magnitudes. -/
def greatestExponent : Int :=
  971

/-- Zero. -/
def zero : Magnitude :=
  ⟨0, leastExponent⟩

/-- Whether a magnitude is zero. -/
def isZero (value : Magnitude) : Bool :=
  value.significand = 0

/-- The numerator of the exact value of a magnitude. -/
def numerator (value : Magnitude) : Nat :=
  value.significand * 2 ^ value.exponent.toNat

/-- The denominator of the exact value of a magnitude. -/
def denominator (value : Magnitude) : Nat :=
  2 ^ (-value.exponent).toNat

/-- The numerator of a ratio after division by a power of two. -/
def scaledNumerator (numerator : Nat) (exponent : Int) : Nat :=
  numerator * 2 ^ (-exponent).toNat

/-- The denominator of a ratio after division by a power of two. -/
def scaledDenominator (denominator : Nat) (exponent : Int) : Nat :=
  denominator * 2 ^ exponent.toNat

/--
The least exponent at which the integer part of a positive ratio has no more
bits than a significand.  The binary logarithms give it up to one.
-/
def exponentOf (numerator denominator : Nat) : Int :=
  let estimate : Int :=
    (numerator.log2 : Int) - (denominator.log2 : Int) - (precision : Int)
  let start := max estimate leastExponent
  if 2 ^ precision * scaledDenominator denominator start ≤
      scaledNumerator numerator start then
    start + 1
  else
    start

/-- The magnitude nearest to a ratio; there is none if the ratio is too large. -/
def ofRatio? (numerator denominator : Nat) : Option Magnitude :=
  if numerator = 0 then
    some zero
  else
    let exponent := exponentOf numerator denominator
    let rounded :=
      (nearestEven (scaledNumerator numerator exponent)
        (scaledDenominator denominator exponent)).toNat
    let nearest : Magnitude :=
      if rounded = 2 ^ precision then
        ⟨2 ^ (precision - 1), exponent + 1⟩
      else
        ⟨rounded, exponent⟩
    if greatestExponent < nearest.exponent then none else some nearest

/-- The number of decimal digits of a natural number. -/
def width (number : Nat) : Nat :=
  (Nat.toDigits 10 number).length

/--
The magnitude nearest to `digits * 10 ^ exponent`.  Exponents that are far out
of range are decided by the number of digits alone.
-/
def ofDecimal? (digits : Nat) (exponent : Int) : Option Magnitude :=
  let size : Int := width digits + exponent
  if digits = 0 ∨ size < -330 then
    some zero
  else if 310 < size then
    none
  else
    ofRatio? (digits * 10 ^ exponent.toNat) (10 ^ (-exponent).toNat)

/-- The magnitude nearest to a product. -/
def times? (left right : Magnitude) : Option Magnitude :=
  ofRatio? (left.numerator * right.numerator)
    (left.denominator * right.denominator)

/-- The magnitude nearest to a quotient. -/
def over? (left right : Magnitude) : Option Magnitude :=
  ofRatio? (left.numerator * right.denominator)
    (left.denominator * right.numerator)

/-- The natural number nearest to a magnitude; a half is rounded up. -/
def nearestNatural (value : Magnitude) : Nat :=
  nearestAway value.numerator value.denominator

end Magnitude

end LengthCalc
