import LengthCalc.Decimal.Text

namespace LengthCalc

/-!
# Decimals with an exponent

A decimal text, the letter `e` in capitals or not, and an exponent.  A negative
exponent adds to the scale, and a positive one takes from it.  Where a positive
exponent is larger than the scale, the rest of it multiplies the coefficient.
Nothing is rounded: a value that does not fit is refused.
-/

namespace Decimal

/-- The decimal of a coefficient and a scale, if both are in bounds. -/
def ofParts? (coefficient : Int) (scale : Nat) : Option Decimal :=
  if bounded : coefficient.natAbs < 2 ^ 96 ∧ scale ≤ 28 then
    some ⟨coefficient, scale, bounded.1, bounded.2⟩
  else
    none

/-- The value times a power of ten. -/
def raised? (value : Decimal) (exponent : Nat) : Option Decimal :=
  ofParts?
    (value.coefficient * 10 ^ (exponent - value.scale))
    (value.scale - exponent)

/-- The value divided by a power of ten. -/
def lowered? (value : Decimal) (exponent : Nat) : Option Decimal :=
  ofParts? value.coefficient (value.scale + exponent)

/-- The largest exponent that is read, which is also the largest scale. -/
def exponentBound : Nat :=
  28

/-- Whether a character stands between a decimal and its exponent. -/
def isExponentLetter (character : Char) : Bool :=
  character = 'e' || character = 'E'

/-- The value of an exponent without its minus sign. -/
def exponent? (characters : List Char) : Option Nat :=
  (unsigned? characters).filter fun value => value ≤ exponentBound

/-- The decimal of a base and what stands behind its letter. -/
def withExponent? (value : Decimal) : List Char → Option Decimal
  | '-' :: digits => (exponent? digits).bind value.lowered?
  | digits => (exponent? digits).bind value.raised?

/-- The decimal of a text that has an exponent. -/
def ofScientific? (text : String) : Option Decimal :=
  let base := text.toList.takeWhile fun character =>
    !isExponentLetter character
  match text.toList.drop base.length with
  | [] => none
  | _ :: written =>
      (ofChars base).toOption.bind fun value => value.withExponent? written

/-- The decimal of a text that may have an exponent. -/
def ofAnyText? (text : String) : Option Decimal :=
  (ofText text).toOption <|> ofScientific? text

end Decimal

end LengthCalc
