import LengthCalc.Decimal.Basic
import LengthCalc.Text.Digit

namespace LengthCalc

/-!
# Decimal text

A decimal is written with an optional minus sign, its integer part and, where
the scale is positive, a point and exactly as many digits as the scale says.
Reading accepts an optional sign and digits around an optional point, with
underscores behind the first digit.  The digits are taken one by one as long as
the coefficient and the scale stay in bounds; behind the point, the first digit
that no longer fits rounds the value and ends the reading.
-/

namespace Decimal

/-- The last `width` decimal digits of a number, the most significant first. -/
def lastDigits : (width : Nat) → (number : Nat) → List Char
  | 0, _ => []
  | width + 1, number =>
      lastDigits width (number / 10) ++ [Nat.digitChar (number % 10)]

/-- The minus sign of a negative decimal. -/
def signChars (value : Decimal) : List Char :=
  if value.coefficient < 0 then ['-'] else []

/-- The digits before the point, without superfluous zeros. -/
def wholeDigits (value : Decimal) : List Char :=
  Nat.toDigits 10 (value.coefficient.natAbs / 10 ^ value.scale)

/-- The point and the digits after it, as many as the scale says. -/
def fractionChars (value : Decimal) : List Char :=
  if value.scale = 0 then
    []
  else
    '.' ::
      lastDigits value.scale (value.coefficient.natAbs % 10 ^ value.scale)

/-- The characters of a decimal as it is written. -/
def toChars (value : Decimal) : List Char :=
  value.signChars ++ value.wholeDigits ++ value.fractionChars

/-- The text of a decimal as it is written. -/
def text (value : Decimal) : String :=
  String.ofList value.toChars

instance : ToString Decimal :=
  ⟨text⟩

/-- Why a text is not read as a decimal. -/
inductive ReadFault where
  | malformed
  | outOfRange
  deriving Repr, DecidableEq

/-- A coefficient and a scale while digits are being read. -/
structure Reading where
  magnitude : Nat
  scale : Nat
  magnitude_lt : magnitude < 2 ^ 96
  scale_le : scale ≤ 28

namespace Reading

/-- Nothing has been read. -/
def empty : Reading :=
  ⟨0, 0, by decide, zero_scale_le⟩

/--
Account for the first digit that does not fit.  From five on it adds one to the
coefficient; a coefficient that leaves its bounds by that gives up one place of
the fraction.
-/
def roundUp (reading : Reading) (digit : Nat) : Except ReadFault Reading :=
  if digit < 5 then
    .ok reading
  else if bounded : reading.magnitude + 1 < 2 ^ 96 then
    .ok { reading with
      magnitude := reading.magnitude + 1
      magnitude_lt := bounded }
  else if reading.scale = 0 then
    .error .outOfRange
  else
    .ok ⟨(reading.magnitude + 5) / 10, reading.scale - 1, by
      have bound := reading.magnitude_lt
      omega, Nat.le_trans (Nat.sub_le _ _) reading.scale_le⟩

/-- The end of a text, which has to hold a digit. -/
def finish (reading : Reading) (hasDigit : Bool) : Except ReadFault Reading :=
  if hasDigit then .ok reading else .error .malformed

/-- The digit that a character behind the last place counts as. -/
def extraDigit? (character : Char) : Option Nat :=
  if character.isDigit then
    some (digitValue character)
  else if character = '_' ∨ character = '.' then
    some 0
  else
    none

/-- Account for the character behind the last place, which ends the reading. -/
def close (reading : Reading) (character : Char) : Except ReadFault Reading :=
  match extraDigit? character with
  | some digit => reading.roundUp digit
  | none => .error .malformed

/--
Read what follows the point, up to the first digit that does not fit or the
first character behind the last place.
-/
def readFraction
    (reading : Reading)
    (hasDigit : Bool) :
    List Char → Except ReadFault Reading
  | [] => reading.finish hasDigit
  | character :: rest =>
      if room : reading.scale < 28 then
        if character.isDigit then
          if bounded :
              reading.magnitude * 10 + digitValue character < 2 ^ 96 then
            readFraction
              ⟨reading.magnitude * 10 + digitValue character,
                reading.scale + 1, bounded, room⟩
              true rest
          else
            reading.roundUp (digitValue character)
        else if character = '_' ∧ hasDigit = true then
          readFraction reading hasDigit rest
        else
          .error .malformed
      else
        reading.close character

/-- Read what stands before the point, all of which has to fit, and the rest. -/
def readWhole
    (reading : Reading)
    (hasDigit : Bool) :
    List Char → Except ReadFault Reading
  | [] => reading.finish hasDigit
  | character :: rest =>
      if character.isDigit then
        if bounded :
            reading.magnitude * 10 + digitValue character < 2 ^ 96 then
          readWhole
            { reading with
              magnitude := reading.magnitude * 10 + digitValue character
              magnitude_lt := bounded }
            true rest
        else
          .error .outOfRange
      else if character = '.' then
        readFraction reading hasDigit rest
      else if character = '_' ∧ hasDigit = true then
        readWhole reading hasDigit rest
      else
        .error .malformed

/-- The decimal of a reading and a sign. -/
def toDecimal (reading : Reading) (isNegative : Bool) : Decimal where
  coefficient :=
    if isNegative then -(reading.magnitude : Int) else reading.magnitude
  scale := reading.scale
  coefficient_lt := by
    have bound := reading.magnitude_lt
    split <;> simpa using bound
  scale_le := reading.scale_le

end Reading

/-- Read a decimal without its sign. -/
def ofUnsigned
    (isNegative : Bool)
    (characters : List Char) :
    Except ReadFault Decimal :=
  match Reading.empty.readWhole false characters with
  | .ok reading => .ok (reading.toDecimal isNegative)
  | .error fault => .error fault

/-- Read an optional sign and what follows it. -/
def ofChars (characters : List Char) : Except ReadFault Decimal :=
  let (isNegative, unsigned) := splitSign characters
  ofUnsigned isNegative unsigned

/-- Read a decimal from its text. -/
def ofText (text : String) : Except ReadFault Decimal :=
  ofChars text.toList

end Decimal

end LengthCalc
