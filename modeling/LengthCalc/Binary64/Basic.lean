import LengthCalc.Binary64.Magnitude

namespace LengthCalc

/-!
# Binary numbers

A binary number is a magnitude with a sign, an infinity, or no number at all.
There are two zeros.
-/

/-- A binary number of 64 bits. -/
inductive Binary64 where
  /-- The result of an operation that has none. -/
  | nan
  /-- A number beyond the largest magnitude. -/
  | infinity (isNegative : Bool)
  /-- A magnitude with a sign. -/
  | finite (isNegative : Bool) (magnitude : Magnitude)
  deriving Repr, DecidableEq

namespace Binary64

/-- The number of a magnitude, which is infinite if there is none. -/
def ofMagnitude? (isNegative : Bool) : Option Magnitude → Binary64
  | some magnitude => .finite isNegative magnitude
  | none => .infinity isNegative

/-- The number nearest to `± digits * 10 ^ exponent`. -/
def ofDecimal (isNegative : Bool) (digits : Nat) (exponent : Int) : Binary64 :=
  ofMagnitude? isNegative (Magnitude.ofDecimal? digits exponent)

/-- Whether a number differs from zero. -/
def isNonzero : Binary64 → Bool
  | .nan => true
  | .infinity _ => true
  | .finite _ magnitude => !magnitude.isZero

/--
The natural number nearest to a number within a bound; a half is rounded up.
What is negative or no number counts as zero.
-/
def toNatural (bound : Nat) : Binary64 → Nat
  | .nan => 0
  | .infinity true => 0
  | .infinity false => bound
  | .finite true _ => 0
  | .finite false magnitude => min magnitude.nearestNatural bound

end Binary64

end LengthCalc
