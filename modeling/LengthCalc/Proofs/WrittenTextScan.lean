import LengthCalc.Proofs.ScannerComplete
import LengthCalc.Proofs.WrittenTokens

namespace LengthCalc

/-!
# Scanning written text

The text of a tree without separators is scanned into its written tokens: a
written number has the form of one and is read as its own value, and brackets
and operators are read as they are written.
-/

/-- An amount below zero is written with a minus in front. -/
theorem Decimal.signChars_eq (value : Decimal) :
    value.signChars = minusChars (decide (value.coefficient < 0)) := by
  simp [signChars, minusChars]

/-- A written amount has the form of a number and is its own literal. -/
theorem Decimal.numberForm_toChars (value : Decimal) :
    NumberForm value.toChars value.toChars := by
  have whole : IsDigitRun value.wholeDigits :=
    ⟨value.wholeDigits_ne_nil, value.allDigits_wholeDigits⟩
  rw [toChars, signChars_eq, List.append_assoc]
  by_cases unscaled : value.scale = 0
  · simpa [fractionChars, unscaled] using NumberForm.whole _ whole
  · have digits :
        IsDigitRun
          (lastDigits value.scale
            (value.coefficient.natAbs % 10 ^ value.scale)) := by
      refine ⟨?_, allDigits_lastDigits _ _⟩
      rw [← List.length_pos_iff, length_lastDigits]
      exact Nat.pos_of_ne_zero unscaled
    simpa [fractionChars, unscaled] using NumberForm.fraction _ whole digits

namespace Scanner

/-- A written amount with its unit is an operand. -/
theorem readsOperand_measurement (value : Decimal) (unit : LengthUnit) :
    ReadsOperand
      (value.toChars ++ unit.code.toList)
      [.number value, .unit unit] := by
  intro position found
  have stands : StandsAt ⟨position, .start, found⟩ .operand found.toList :=
    ⟨[], .start, by simp⟩
  obtain ⟨behindNumber, readNumber, standsNumber⟩ :=
    stands.number value.numberForm_toChars value.ofChars_toChars
  obtain ⟨next, readUnit, standsUnit⟩ :=
    standsNumber.unit unit.map_toLower_code
  refine ⟨next, ?_, by simpa using standsUnit.behind⟩
  rw [run_append_of_run readNumber, readUnit]

end Scanner

namespace FormatOptions

/-- Without grouping an amount is written as its rounded value. -/
theorem decimalChars_of_ungrouped
    {options : FormatOptions}
    (ungrouped : options.grouping = false)
    (value : Decimal) :
    options.decimalChars value = (options.rounded value).toChars := by
  simp [decimalChars, ungrouped, Decimal.toChars]

/-- A right operand is read again with the brackets that its sign may need. -/
theorem readsOperand_operandText
    {options : FormatOptions}
    {right : Expression}
    (reads :
      Scanner.ReadsOperand
        (options.expressionText right).toList
        (options.writtenTokens right)) :
    Scanner.ReadsOperand
      (operandText right (options.expressionText right)).toList
      (options.operandTokens right (options.writtenTokens right)) := by
  rw [operandText_eq, operandTokens]
  split
  · simpa using reads.brackets
  · exact reads

/-- Text without separators is read as its tokens. -/
theorem readsOperand_expressionText
    {options : FormatOptions}
    (ungrouped : options.grouping = false)
    (expression : Expression) :
    Scanner.ReadsOperand
      (options.expressionText expression).toList
      (options.writtenTokens expression) := by
  induction expression using Expression.join_induction with
  | measurement leaf =>
      rw [expressionText_measurement, toList_measurementText,
        decimalChars_of_ungrouped ungrouped]
      exact Scanner.readsOperand_measurement _ _
  | brackets inner inductionHypothesis =>
      rw [expressionText_brackets, writtenTokens]
      simpa using inductionHypothesis.brackets
  | join operator left right leftHypothesis rightHypothesis =>
      have operandReads := readsOperand_operandText rightHypothesis
      have reads := leftHypothesis.operation operator operandReads
      rw [expressionText_join, writtenTokens_join]
      simpa using reads

end FormatOptions

end LengthCalc
