import LengthCalc.Expression.Conversion
import LengthCalc.Expression.Text
import LengthCalc.Format.Expression

namespace LengthCalc

/-!
# The calculator

The operations that a front end needs, for one choice of number format: read an
expression, calculate it, and write expressions and results.
-/

/-- A number format to calculate with. -/
structure Calculator where
  options : FormatOptions := {}
  deriving Repr, DecidableEq, Inhabited

namespace Calculator

/-- Read the text of an expression. -/
def analyze (_ : Calculator) (text : String) : Except Failure Expression :=
  Expression.ofText text

/-- The value of an expression in the unit that a code names. -/
def calculate
    (_ : Calculator)
    (expression : Expression)
    (targetCode : String) :
    Except Failure Measurement :=
  expression.calculate targetCode

/-- The canonical text of an expression. -/
def pretty (calculator : Calculator) (expression : Expression) : String :=
  calculator.options.expressionText expression

/-- The text of a result. -/
def resultText (calculator : Calculator) (result : Measurement) : String :=
  calculator.options.measurementText result

end Calculator

end LengthCalc
