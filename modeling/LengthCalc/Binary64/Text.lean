import LengthCalc.Binary64.Basic
import LengthCalc.Text.Digit

namespace LengthCalc

/-!
# The text of binary numbers

A number is written with the fewest digits that only it is nearest to, around
a point and without an exponent.  Of several texts with the fewest digits the
one nearest to the number is taken.
-/

namespace Magnitude

/--
A point on a grid of decimal numbers between two neighbours of a magnitude:
`digits * 10 ^ exponent`.
-/
structure GridPoint where
  digits : Nat
  exponent : Int
  deriving Repr, DecidableEq

/--
The lower end of the numbers that are nearest to a magnitude, in quarters of
the unit of its significand.  Below a power of two the distance to the next
magnitude is halved.
-/
def lowerQuarters (value : Magnitude) : Nat :=
  if value.significand = 2 ^ (precision - 1) ∧
      leastExponent < value.exponent then
    4 * value.significand - 1
  else
    4 * value.significand - 2

/-- The upper end of the numbers that are nearest to a magnitude. -/
def upperQuarters (value : Magnitude) : Nat :=
  4 * value.significand + 2

/-- A number of quarters as a multiple of a grid's unit: the numerator. -/
def gridNumerator (value : Magnitude) (quarters : Nat) (exponent : Int) : Nat :=
  quarters * 2 ^ (value.exponent - 2).toNat * 10 ^ (-exponent).toNat

/-- A number of quarters as a multiple of a grid's unit: the denominator. -/
def gridDenominator (value : Magnitude) (exponent : Int) : Nat :=
  2 ^ (2 - value.exponent).toNat * 10 ^ exponent.toNat

/-- Whether a multiple of a grid's unit is nearest to a magnitude. -/
def readsBack (value : Magnitude) (digits : Nat) (exponent : Int) : Bool :=
  let point := digits * value.gridDenominator exponent
  let lower := value.gridNumerator value.lowerQuarters exponent
  let upper := value.gridNumerator value.upperQuarters exponent
  if value.significand % 2 = 0 then
    lower ≤ point && point ≤ upper
  else
    lower < point && point < upper

/--
The point of a grid that is nearest to a magnitude among those that read back;
of two equally near ones it is the upper one.
-/
def pointOn? (value : Magnitude) (exponent : Int) : Option GridPoint :=
  let numerator := value.gridNumerator (4 * value.significand) exponent
  let denominator := value.gridDenominator exponent
  let below := numerator / denominator
  let isNearerBelow :=
    2 * numerator < (2 * below + 1) * denominator
  let above := below + 1
  match value.readsBack below exponent, value.readsBack above exponent with
  | true, true => some ⟨if isNearerBelow then below else above, exponent⟩
  | true, false => some ⟨below, exponent⟩
  | false, true => some ⟨above, exponent⟩
  | false, false => none

/-- The point on the coarsest grid that has one, from a grid downward. -/
def firstPoint (value : Magnitude) : (grids : Nat) → (exponent : Int) → GridPoint
  | 0, _ => ⟨value.significand, 0⟩
  | grids + 1, exponent =>
      match value.pointOn? exponent with
      | some point => point
      | none => firstPoint value grids (exponent - 1)

/-- The number of grids on one of which every magnitude has a point. -/
def gridCount : Nat :=
  20

/-- The shortest decimal number that a positive magnitude is nearest to. -/
def shortest (value : Magnitude) : GridPoint :=
  let top : Int := (width value.numerator : Int) - width value.denominator + 1
  value.firstPoint gridCount top

/-- The digits of a positive number around its point, without an exponent. -/
def GridPoint.toChars (point : GridPoint) : List Char :=
  let written := Nat.toDigits 10 point.digits
  if 0 ≤ point.exponent then
    written ++ List.replicate point.exponent.toNat '0'
  else
    let places := (-point.exponent).toNat
    let padded := List.replicate (places + 1 - written.length) '0' ++ written
    padded.take (padded.length - places) ++
      '.' :: padded.drop (padded.length - places)

/-- The digits of a magnitude. -/
def toChars (value : Magnitude) : List Char :=
  if value.isZero then ['0'] else value.shortest.toChars

end Magnitude

namespace Binary64

/-- A minus sign, if there is to be one. -/
def signChars (isNegative : Bool) : List Char :=
  if isNegative then ['-'] else []

/-- The characters of a number as it is written. -/
def toChars : Binary64 → List Char
  | .nan => ['N', 'a', 'N']
  | .infinity isNegative => signChars isNegative ++ ['i', 'n', 'f']
  | .finite isNegative magnitude =>
      signChars isNegative ++ magnitude.toChars

/-- The text of a number as it is written. -/
def text (value : Binary64) : String :=
  String.ofList value.toChars

/-- The exponent behind the digits of a number, zero if there is none. -/
def exponent? : List Char → Option Int
  | [] => some 0
  | letter :: rest =>
      if letter = 'e' ∨ letter = 'E' then signed? rest else none

/-- The digits behind a point, if there is one, and what follows them. -/
def splitFraction : List Char → List Char × List Char
  | '.' :: rest =>
      (rest.takeWhile Char.isDigit, rest.dropWhile Char.isDigit)
  | rest => ([], rest)

/-- The number of digits around an optional point and an optional exponent. -/
def ofDigits? (isNegative : Bool) (characters : List Char) : Option Binary64 :=
  let whole := characters.takeWhile Char.isDigit
  let (fraction, rest) := splitFraction (characters.dropWhile Char.isDigit)
  if whole.isEmpty && fraction.isEmpty then
    none
  else
    (exponent? rest).map fun exponent =>
      ofDecimal isNegative (digitsValue (whole ++ fraction))
        (exponent - fraction.length)

/-- The number that a word stands for, capitals or not. -/
def ofWord? (isNegative : Bool) (word : String) : Option Binary64 :=
  if word = "inf" ∨ word = "infinity" then
    some (.infinity isNegative)
  else if word = "nan" then
    some .nan
  else
    none

/-- The number that a text stands for: a sign, then digits or a word. -/
def ofText? (text : String) : Option Binary64 :=
  let (isNegative, unsigned) := splitSign text.toList
  ofDigits? isNegative unsigned <|>
    ofWord? isNegative (lowercase (String.ofList unsigned))

end Binary64

end LengthCalc
