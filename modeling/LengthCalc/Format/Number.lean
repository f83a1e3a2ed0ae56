import LengthCalc.Decimal.Rounding
import LengthCalc.Decimal.Text

namespace LengthCalc

/-!
# Number format

How amounts are shown: rounded to a largest number of digits after the point,
without trailing zeros, and with optional separators between the thousands of
the integer part.
-/

/-- The choices that govern how numbers are shown. -/
structure FormatOptions where
  maxFractionDigits : Nat := 3
  grouping : Bool := false
  deriving Repr, DecidableEq, Inhabited

/--
Put a comma behind every digit that is followed by a positive multiple of three
digits.
-/
def separateThousands : List Char → List Char
  | [] => []
  | digit :: rest =>
      if rest ≠ [] ∧ rest.length % 3 = 0 then
        digit :: ',' :: separateThousands rest
      else
        digit :: separateThousands rest

namespace FormatOptions

/-- The value that is shown in place of an amount. -/
def rounded (options : FormatOptions) (value : Decimal) : Decimal :=
  (value.roundTo options.maxFractionDigits).normalize

/-- The characters of an amount as it is shown. -/
def decimalChars
    (options : FormatOptions)
    (value : Decimal) :
    List Char :=
  let shown := options.rounded value
  let whole :=
    if options.grouping then
      separateThousands shown.wholeDigits
    else
      shown.wholeDigits
  shown.signChars ++ whole ++ shown.fractionChars

/-- The text of an amount as it is shown. -/
def decimalText (options : FormatOptions) (value : Decimal) : String :=
  String.ofList (options.decimalChars value)

end FormatOptions

end LengthCalc
