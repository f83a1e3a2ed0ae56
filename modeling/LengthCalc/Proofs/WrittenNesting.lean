import LengthCalc.Proofs.Separators

namespace LengthCalc

/-!
# Nesting of written text

The brackets of a written text nest exactly as those among the tokens it is
written with, because numbers, units, operators and blanks have none.
-/

/-- The nesting of the round brackets in a text. -/
def bracketNesting (text : String) : Nat :=
  nestingOf '(' ')' text.toList

/-- It bounds the excess of opening brackets in all beginnings of the text. -/
theorem bracketNesting_le_iff (text : String) (bound : Nat) :
    bracketNesting text ≤ bound ↔
      ∀ front,
        front <+: text.toList →
        front.count '(' ≤ front.count ')' + bound :=
  nestingOf_le_iff '(' ')' (by decide) text.toList bound

/-- Dropping the commas keeps every other character. -/
theorem mem_dropCommas
    {character : Char}
    (plain : character ≠ ',')
    (characters : List Char) :
    character ∈ dropCommas characters ↔ character ∈ characters := by
  simp [dropCommas, plain]

namespace FormatOptions

/-- An amount is written with digits, commas, a point and a minus only. -/
theorem not_mem_decimalChars
    (options : FormatOptions)
    (value : Decimal)
    {character : Char}
    (noDigit : character.isDigit = false)
    (noSeparator : character ≠ ',' ∧ character ≠ '.' ∧ character ≠ '-') :
    character ∉ options.decimalChars value := by
  obtain ⟨noComma, noPoint, noMinus⟩ := noSeparator
  have ungroupedChars :
      options.ungrouped.decimalChars value =
        (options.rounded value).toChars :=
    decimalChars_of_ungrouped rfl value
  have digits := (options.rounded value).allDigits_wholeDigits
  rw [← mem_dropCommas noComma, dropCommas_decimalChars, ungroupedChars]
  simp [Decimal.toChars, digits.not_mem noDigit,
    Decimal.not_mem_signChars _ noMinus,
    Decimal.not_mem_fractionChars _ noDigit noPoint]

/-- A measurement is written with its amount and the code of its unit only. -/
theorem not_mem_measurementText
    (options : FormatOptions)
    (leaf : Measurement)
    {character : Char}
    (noDigit : character.isDigit = false)
    (noSeparator : character ≠ ',' ∧ character ≠ '.' ∧ character ≠ '-')
    (noLetter : ∀ unit : LengthUnit, character ∉ unit.code.toList) :
    character ∉ (options.measurementText leaf).toList := by
  rw [toList_measurementText, List.mem_append, not_or]
  exact ⟨options.not_mem_decimalChars leaf.amount noDigit noSeparator,
    noLetter leaf.unit⟩

/-- A measurement is written without brackets. -/
theorem nestingBefore_measurementText
    (options : FormatOptions)
    (leaf : Measurement)
    (nesting : Nat) :
    nestingBefore '(' ')' (options.measurementText leaf).toList nesting =
      nesting := by
  have noOpening :=
    options.not_mem_measurementText leaf
      (show Char.isDigit '(' = false from rfl) (by decide)
      (by intro unit; cases unit <;> decide)
  have noClosing :=
    options.not_mem_measurementText leaf
      (show Char.isDigit ')' = false from rfl) (by decide)
      (by intro unit; cases unit <;> decide)
  exact nestingBefore_of_not_mem _ _ noOpening noClosing nesting

/-- A text nests its brackets as the tokens that it is written with. -/
theorem nestingBefore_expressionText
    (options : FormatOptions)
    (expression : Expression)
    (nesting : Nat) :
    nestingBefore '(' ')' (options.expressionText expression).toList nesting =
      nestingBefore .openBracket .closeBracket
        (options.writtenTokens expression) nesting := by
  induction expression using Expression.join_induction generalizing nesting with
  | measurement leaf =>
      rw [expressionText_measurement, nestingBefore_measurementText]
      rfl
  | brackets inner inductionHypothesis =>
      rw [expressionText_brackets, writtenTokens]
      simp [nestingBefore_cons, nestingStep, inductionHypothesis]
  | join operator left right leftHypothesis rightHypothesis =>
      have charNoBracket :
          operator.signChar ≠ '(' ∧ operator.signChar ≠ ')' := by
        cases operator <;> decide
      have tokenNoBracket :
          operator.token ≠ .openBracket ∧
            operator.token ≠ .closeBracket := by
        cases operator <;> decide
      rw [expressionText_join, writtenTokens_join, operandText_eq,
        operandTokens]
      split <;>
        simp [nestingBefore_cons, nestingStep, charNoBracket, tokenNoBracket,
          leftHypothesis, rightHypothesis]

/-- The brackets of a written text are nested as its tokens are. -/
theorem bracketNesting_expressionText
    (options : FormatOptions)
    (expression : Expression) :
    bracketNesting (options.expressionText expression) =
      Token.nesting (options.writtenTokens expression) :=
  options.nestingBefore_expressionText expression 0

end FormatOptions

end LengthCalc
