import LengthCalc.Binary64.Text
import LengthCalc.Decimal.Text

namespace LengthCalc

/-!
# Numbers of JSON

A number is kept as it is written.  As a decimal, an integer of 64 bits is
exact; any other number is first the binary number that its leading digits and
its exponent give, and then the decimal that has the text of that number.
-/

/-- A number as it is written: digits around a point, and an exponent. -/
structure Numeral where
  isNegative : Bool
  whole : List Char
  /-- The digits behind the point; there is no point without them. -/
  fraction : List Char
  /-- Whether the exponent is negative, and its digits. -/
  exponent : Option (Bool × List Char)
  deriving Repr, DecidableEq

namespace Numeral

/-- The characters of an exponent. -/
def exponentChars : Option (Bool × List Char) → List Char
  | none => []
  | some (isNegative, digits) =>
      'e' :: (if isNegative then ['-'] else []) ++ digits

/-- The characters of a number. -/
def toChars (numeral : Numeral) : List Char :=
  Binary64.signChars numeral.isNegative ++ numeral.whole ++
    (if numeral.fraction.isEmpty then [] else '.' :: numeral.fraction) ++
    exponentChars numeral.exponent

/-- The value of an exponent. -/
def exponentValue : Option (Bool × List Char) → Int
  | none => 0
  | some (isNegative, digits) =>
      if isNegative then -(digitsValue digits : Int) else digitsValue digits

/-- The largest number that the leading digits make up. -/
def significandBound : Nat :=
  2 ^ 64 - 1

/--
Take digits behind a number as long as it stays within its bound, and give the
digits that are left.
-/
def takeDigits (significand : Nat) : List Char → Nat × List Char
  | [] => (significand, [])
  | digit :: rest =>
      if significand * 10 + digitValue digit ≤ significandBound then
        takeDigits (significand * 10 + digitValue digit) rest
      else
        (significand, digit :: rest)

/-- The largest power of ten that is multiplied or divided by at once. -/
def largestPower : Nat :=
  308

/-- A power of ten as a magnitude. -/
def powerOfTen? (exponent : Nat) : Option Magnitude :=
  Magnitude.ofDecimal? 1 exponent

/-- A magnitude divided by the largest power of ten. -/
def lowered? (value : Magnitude) : Option Magnitude :=
  (powerOfTen? largestPower).bind value.over?

/--
A magnitude times a power of ten, with one rounding for each multiplication or
division.  There is none if it is too large.
-/
def scaled? (value : Magnitude) (exponent : Int) : Option Magnitude :=
  if 0 ≤ exponent then
    if exponent ≤ largestPower then
      (powerOfTen? exponent.toNat).bind value.times?
    else if value.isZero then
      some value
    else
      none
  else if _inReach : -(largestPower : Int) ≤ exponent then
    (powerOfTen? exponent.natAbs).bind value.over?
  else if value.isZero then
    some value
  else
    (lowered? value).bind fun smaller =>
      scaled? smaller (exponent + largestPower)
termination_by (-exponent).toNat
decreasing_by
  simp only [largestPower] at *
  omega

/-- The binary number of a numeral; there is none if it is too large. -/
def toBinary? (numeral : Numeral) : Option Binary64 :=
  let (leading, dropped) := takeDigits 0 numeral.whole
  let (significand, ignored) := takeDigits leading numeral.fraction
  let places : Int :=
    (dropped.length : Int) + ignored.length - numeral.fraction.length
  ((Magnitude.ofRatio? significand 1).bind fun start =>
    scaled? start (exponentValue numeral.exponent + places)).map
      (.finite numeral.isNegative)

/-- Whether a numeral is an integer of 64 bits. -/
def isWord (numeral : Numeral) : Bool :=
  let value := digitsValue numeral.whole
  numeral.fraction.isEmpty && numeral.exponent.isNone &&
    (if numeral.isNegative then
      value ≤ 2 ^ 63
    else
      value ≤ significandBound)

/-- The decimal that a numeral stands for. -/
def toDecimal? (numeral : Numeral) : Option Decimal :=
  if numeral.isWord then
    (Decimal.ofChars numeral.toChars).toOption
  else
    numeral.toBinary?.bind fun binary =>
      (Decimal.ofChars binary.toChars).toOption

end Numeral

end LengthCalc
