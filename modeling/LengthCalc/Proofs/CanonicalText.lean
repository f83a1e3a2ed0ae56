import LengthCalc.Format.Expression
import LengthCalc.Proofs.DecimalReading
import LengthCalc.Proofs.NormalForm

namespace LengthCalc.FormatOptions

/-!
# Canonical text by recursion on the tree

The formatter walks along the left operands of a tree and writes the operations
behind the first operand.  Its text is the one that recursion on the tree gives.
-/

/-- Operations are written one behind the other. -/
theorem appendOperations_append
    (options : FormatOptions)
    (written : String)
    (front back : List (Operator × Expression)) :
    options.appendOperations written (front ++ back) =
      options.appendOperations
        (options.appendOperations written front) back := by
  induction front generalizing written with
  | nil =>
      rw [List.nil_append, appendOperations]
  | cons operation later inductionHypothesis =>
      rcases operation with ⟨operator, right⟩
      rw [List.cons_append, appendOperations, appendOperations,
        inductionHypothesis]

/-- The text of a tree is its chain written out. -/
theorem expressionText_eq_appendOperations
    (options : FormatOptions)
    (expression : Expression) :
    options.expressionText expression =
      options.appendOperations
        (options.expressionText (expression.chainOnto []).head)
        (expression.chainOnto []).operations := by
  cases expression with
  | measurement leaf =>
      rw [Expression.chainOnto, appendOperations]
  | brackets inner =>
      rw [Expression.chainOnto, appendOperations]
  | addition left right =>
      rw [expressionText, Expression.chainOnto]
  | subtraction left right =>
      rw [expressionText, Expression.chainOnto]

/-- One more operation is written behind the text of its left operand. -/
theorem expressionText_join
    (options : FormatOptions)
    (operator : Operator)
    (left right : Expression) :
    options.expressionText (operator.join left right) =
      options.expressionText left ++ " " ++ operator.sign ++ " " ++
        operandText right (options.expressionText right) := by
  rw [expressionText_eq_appendOperations, Expression.chainOnto_join,
    appendOperations_append, ← expressionText_eq_appendOperations,
    appendOperations, appendOperations]

/-- A measurement is written as a text of its own. -/
theorem expressionText_measurement
    (options : FormatOptions)
    (leaf : Measurement) :
    options.expressionText (.measurement leaf) =
      options.measurementText leaf := by
  rw [expressionText]

/-- Brackets are written around the text of what they hold. -/
theorem expressionText_brackets
    (options : FormatOptions)
    (inner : Expression) :
    options.expressionText (.brackets inner) =
      "(" ++ options.expressionText inner ++ ")" := by
  rw [expressionText]

/-- Whether a right operand gets brackets because of its sign. -/
def bracketsSign (options : FormatOptions) : Expression → Bool
  | .measurement leaf => (options.rounded leaf.amount).coefficient < 0
  | _ => false

/-- Separating thousands keeps the first digit. -/
theorem head?_separateThousands (digits : List Char) :
    (separateThousands digits).head? = digits.head? := by
  cases digits with
  | nil =>
      rfl
  | cons digit rest =>
      rw [separateThousands]
      split <;> rfl

/-- The digits of an amount as it is shown, without its sign. -/
def shownDigits (options : FormatOptions) (value : Decimal) : List Char :=
  (if options.grouping then
      separateThousands (options.rounded value).wholeDigits
    else
      (options.rounded value).wholeDigits) ++
    (options.rounded value).fractionChars

/-- An amount is written with its sign in front of its digits. -/
theorem decimalChars_eq (options : FormatOptions) (value : Decimal) :
    options.decimalChars value =
      (options.rounded value).signChars ++ options.shownDigits value :=
  List.append_assoc ..

/-- Without its sign an amount begins with a digit. -/
theorem exists_digit_shownDigits (options : FormatOptions) (value : Decimal) :
    ∃ digit rest,
      options.shownDigits value = digit :: rest ∧ digit.isDigit = true := by
  obtain ⟨digit, rest, shape⟩ :=
    List.exists_cons_of_ne_nil (options.rounded value).wholeDigits_ne_nil
  have isDigit : digit.isDigit = true :=
    (options.rounded value).allDigits_wholeDigits digit (by simp [shape])
  have wholeHead :
      (if options.grouping then
          separateThousands (options.rounded value).wholeDigits
        else
          (options.rounded value).wholeDigits).head? =
        some digit := by
    split <;> simp [head?_separateThousands, shape]
  obtain ⟨later, wholeShape⟩ := List.head?_eq_some_iff.mp wholeHead
  exact ⟨digit, later ++ (options.rounded value).fractionChars,
    by rw [shownDigits, wholeShape]; rfl, isDigit⟩

/-- The text of an amount begins with a minus exactly if it is negative. -/
theorem head?_decimalChars
    (options : FormatOptions)
    (value : Decimal)
    (later : List Char) :
    (options.decimalChars value ++ later).head? = some '-' ↔
      (options.rounded value).coefficient < 0 := by
  obtain ⟨digit, rest, shape, isDigit⟩ := options.exists_digit_shownDigits value
  have notMinus : digit ≠ '-' := by
    rintro rfl
    simp at isDigit
  rw [decimalChars_eq, shape]
  by_cases negative : (options.rounded value).coefficient < 0 <;>
    simp [Decimal.signChars, negative, notMinus]

/-- A measurement is written with its unit directly behind the amount. -/
theorem toList_measurementText
    (options : FormatOptions)
    (leaf : Measurement) :
    (options.measurementText leaf).toList =
      options.decimalChars leaf.amount ++ leaf.unit.code.toList := by
  simp [measurementText, decimalText]

/-- A right operand is bracketed exactly for its sign. -/
theorem operandText_eq
    (options : FormatOptions)
    (right : Expression) :
    operandText right (options.expressionText right) =
      if options.bracketsSign right then
        "(" ++ options.expressionText right ++ ")"
      else
        options.expressionText right := by
  cases right with
  | measurement leaf =>
      have head :
          (options.measurementText leaf).toList.head? = some '-' ↔
            (options.rounded leaf.amount).coefficient < 0 := by
        rw [toList_measurementText, head?_decimalChars]
      simp [operandText, bracketsSign, expressionText_measurement, head]
  | brackets inner =>
      rfl
  | addition left right =>
      rfl
  | subtraction left right =>
      rfl

/-- The text of a right operand: a measurement with a sign stands in brackets. -/
def rightText (right : Expression) (written : String) : String :=
  if right.isMeasurement = true ∧ written.toList.head? = some '-' then
    "(" ++ written ++ ")"
  else
    written

/-- The text of a tree by recursion on both operands. -/
def recursiveText (options : FormatOptions) : Expression → String
  | .measurement leaf =>
      options.decimalText leaf.amount ++ leaf.unit.code
  | .brackets inner =>
      "(" ++ options.recursiveText inner ++ ")"
  | .addition left right =>
      options.recursiveText left ++ " + " ++
        rightText right (options.recursiveText right)
  | .subtraction left right =>
      options.recursiveText left ++ " - " ++
        rightText right (options.recursiveText right)

/-- The rule for right operands is the one that the writing loop applies. -/
theorem rightText_eq_operandText (right : Expression) (written : String) :
    rightText right written = operandText right written := by
  cases right <;> simp [rightText, Expression.isMeasurement, operandText]

/-- Sums and differences are written in the same way. -/
theorem recursiveText_join
    (options : FormatOptions)
    (operator : Operator)
    (left right : Expression) :
    options.recursiveText (operator.join left right) =
      options.recursiveText left ++ " " ++ operator.sign ++ " " ++
        rightText right (options.recursiveText right) := by
  have signed :
      options.recursiveText left ++ " " ++ operator.sign ++ " " =
        options.recursiveText left ++ (" " ++ operator.sign ++ " ") := by
    simp only [String.append_assoc]
  rw [signed]
  cases operator <;> rfl

/-- Walking along the left operands gives the text that recursion gives. -/
theorem expressionText_eq_recursiveText
    (options : FormatOptions)
    (expression : Expression) :
    options.expressionText expression = options.recursiveText expression := by
  induction expression using Expression.join_induction with
  | measurement leaf =>
      rw [expressionText_measurement, recursiveText, measurementText]
  | brackets inner inductionHypothesis =>
      rw [expressionText_brackets, recursiveText, inductionHypothesis]
  | join operator left right leftHypothesis rightHypothesis =>
      rw [expressionText_join, recursiveText_join, leftHypothesis,
        rightHypothesis, rightText_eq_operandText]

end LengthCalc.FormatOptions
