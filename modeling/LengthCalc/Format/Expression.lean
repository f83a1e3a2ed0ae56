import LengthCalc.Expression.Chain
import LengthCalc.Format.Number

namespace LengthCalc

/-!
# Canonical text

The text of a tree is its chain written out: the first operand, then each
operator between blanks and its right operand.  A group is written in brackets,
and so is a measurement on the right whose text begins with a minus sign.
-/

namespace FormatOptions

/-- The text of a measurement. -/
def measurementText
    (options : FormatOptions)
    (measurement : Measurement) :
    String :=
  options.decimalText measurement.amount ++ measurement.unit.code

/-- The text of a right operand, put in brackets where its sign needs them. -/
def operandText (right : Expression) (text : String) : String :=
  match right with
  | .measurement _ =>
      if text.toList.head? = some '-' then "(" ++ text ++ ")" else text
  | _ => text

mutual

/-- The canonical text of a tree. -/
def expressionText (options : FormatOptions) : Expression → String
  | .measurement leaf =>
      options.measurementText leaf
  | .brackets inner =>
      "(" ++ options.expressionText inner ++ ")"
  | .addition left right =>
      let chain := left.chainOnto [(.plus, right)]
      options.appendOperations
        (options.expressionText chain.head) chain.operations
  | .subtraction left right =>
      let chain := left.chainOnto [(.minus, right)]
      options.appendOperations
        (options.expressionText chain.head) chain.operations
termination_by expression => expression.nodeCount
decreasing_by
  all_goals simp only [Expression.nodeCount]
  · omega
  · have size := left.chainOnto_size [(.plus, right)]
    have kept := left.operationsSize_le_chainOnto [(.plus, right)]
    simp only [Chain.operationsSize] at size kept
    omega
  · have size := left.chainOnto_size [(.plus, right)]
    have positive := (left.chainOnto [(.plus, right)]).head.nodeCount_pos
    simp only [Chain.operationsSize] at size
    omega
  · have size := left.chainOnto_size [(.minus, right)]
    have kept := left.operationsSize_le_chainOnto [(.minus, right)]
    simp only [Chain.operationsSize] at size kept
    omega
  · have size := left.chainOnto_size [(.minus, right)]
    have positive := (left.chainOnto [(.minus, right)]).head.nodeCount_pos
    simp only [Chain.operationsSize] at size
    omega

/-- Write operations behind a text. -/
def appendOperations
    (options : FormatOptions)
    (written : String) :
    List (Operator × Expression) → String
  | [] =>
      written
  | (operator, right) :: later =>
      options.appendOperations
        (written ++ " " ++ operator.sign ++ " " ++
          operandText right (options.expressionText right))
        later
termination_by operations => Chain.operationsSize operations
decreasing_by
  all_goals simp only [Chain.operationsSize]
  all_goals omega

end

end FormatOptions

namespace Measurement

/-- The text of a measurement in the default format. -/
def text (measurement : Measurement) : String :=
  ({} : FormatOptions).measurementText measurement

end Measurement

namespace Expression

/-- The text of a tree in the default format. -/
def text (expression : Expression) : String :=
  ({} : FormatOptions).expressionText expression

end Expression

end LengthCalc
