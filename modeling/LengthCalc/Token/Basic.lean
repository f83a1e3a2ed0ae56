import LengthCalc.Decimal.Text
import LengthCalc.LengthUnit.Basic

namespace LengthCalc

/-!
# Tokens

The smallest meaningful pieces of an expression.  The sign of a number belongs
to the number.
-/

/-- A piece of an expression. -/
inductive Token where
  | openBracket
  | closeBracket
  | plus
  | minus
  | number (value : Decimal)
  | unit (lengthUnit : LengthUnit)
  deriving Repr, DecidableEq

namespace Token

/-- The text of a token. -/
def text : Token → String
  | .openBracket => "("
  | .closeBracket => ")"
  | .plus => "+"
  | .minus => "-"
  | .number value => value.text
  | .unit lengthUnit => lengthUnit.code

instance : ToString Token :=
  ⟨text⟩

end Token

end LengthCalc
