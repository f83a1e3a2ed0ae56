import LengthCalc.Proofs.ComposedText
import LengthCalc.Proofs.ConversionAccuracy
import LengthCalc.Proofs.ExactSums
import LengthCalc.Report

namespace LengthCalc

/-!
# Results are results of themselves

What is printed for a result is the text of a measurement in the target unit.
It is read as just that measurement, and the value of a measurement in its own
unit is the measurement, so that the same is printed again.
-/

namespace Decimal

@[simp] theorem zero_add? (value : Decimal) :
    zero.add? value = some value :=
  rfl

/-- A product with one is exact; a zero loses the places of its fraction. -/
theorem mul?_one
    {value : Decimal}
    (brief : value.IsBrief) :
    value.mul? .one = some value := by
  by_cases noCoefficient : value.coefficient = 0
  · rw [eq_zero_of_isBrief brief noCoefficient]
    rfl
  · have bounded : (value.coefficient * 1).natAbs < 2 ^ 96 := by
      rw [Int.mul_one]
      exact value.coefficient_lt
    have fitted := fit?_of_bounded bounded value.scale_le
    simpa [mul?, one, noCoefficient] using fitted

end Decimal

namespace Totals

/-- One total is one entry. -/
theorem entries_insert_empty (unit : LengthUnit) (amount : Decimal) :
    (empty.insert unit amount).entries = [(unit, amount)] := by
  cases unit <;> rfl

/-- The first leaf is the total of its unit. -/
theorem count?_empty (leaf : Measurement) :
    empty.count? false leaf = some (empty.insert leaf.unit leaf.amount) := by
  simp [count?, amount]

end Totals

namespace Expression

/-- The only total of a measurement is its amount. -/
theorem totals?_ofAmount (amount : Decimal) (unit : LengthUnit) :
    (ofAmount amount unit).totals? =
      some (Totals.empty.insert unit amount) := by
  rw [totals?_eq]
  simp [ofAmount, signedLeaves, Totals.countAll?, Totals.count?_empty]

/-- A measurement is converted by one product. -/
theorem convert?_ofAmount
    (amount : Decimal)
    (source target : LengthUnit) :
    (ofAmount amount source).convert? target =
      (amount.mul? (LengthUnit.ratio source target)).map
        fun product => ⟨product, target⟩ := by
  rw [convert?, totals?_ofAmount]
  simp only [Totals.convert?, Totals.entries_insert_empty, List.foldlM_cons,
    List.foldlM_nil, Totals.addConverted?]
  cases amount.mul? (LengthUnit.ratio source target) <;> rfl

/-- An amount alone is converted by one product. -/
theorem convert_ofAmount_eq_ok_iff
    {amount : Decimal}
    {source target : LengthUnit}
    {result : Measurement} :
    (ofAmount amount source).convert target = .ok result ↔
      ∃ product,
        amount.mul? (LengthUnit.ratio source target) = some product ∧
          result = ⟨product, target⟩ := by
  rw [convert, convert?_ofAmount]
  cases amount.mul? (LengthUnit.ratio source target) <;> simp [eq_comm]

/-- The value of a measurement in its own unit is the measurement. -/
theorem convert_measurement
    {amount : Decimal}
    (brief : amount.IsBrief)
    (unit : LengthUnit) :
    (ofAmount amount unit).convert unit = .ok ⟨amount, unit⟩ := by
  refine convert_ofAmount_eq_ok_iff.mpr ⟨amount, ?_, rfl⟩
  rw [LengthUnit.ratio, if_pos rfl, Decimal.mul?_one brief]

end Expression

/-- Blanks may follow an operand. -/
theorem Scanner.ReadsOperand.blanks
    {characters : List Char}
    {tokens : List Token}
    (reads : ReadsOperand characters tokens)
    {ending : List Char}
    (allBlank : ∀ character ∈ ending, isBlank character = true) :
    ReadsOperand (characters ++ ending) tokens := by
  intro position found
  obtain ⟨ended, readOperand, behind⟩ := reads position found
  obtain ⟨last, readEnding, stands⟩ :=
    (StandsAt.of_behind behind).blanks allBlank
  refine ⟨last, ?_, stands.behind⟩
  rw [run_append_of_run readOperand, readEnding]

namespace FormatOptions

variable {options : FormatOptions}

/-- The text of a measurement is read as the measurement that it shows. -/
theorem ofText_measurementText
    (ungrouped : options.grouping = false)
    (leaf : Measurement)
    {ending : String}
    (allBlank : ∀ character ∈ ending.toList, isBlank character = true) :
    Expression.ofText (options.measurementText leaf ++ ending) =
      .ok (.ofAmount (options.rounded leaf.amount) leaf.unit) := by
  have written :=
    Scanner.readsOperand_measurement (options.rounded leaf.amount) leaf.unit
  have reads :
      Scanner.ReadsOperand (options.measurementText leaf ++ ending).toList
        [.number (options.rounded leaf.amount), .unit leaf.unit] := by
    rw [String.toList_append, toList_measurementText,
      decimalChars_of_ungrouped ungrouped]
    exact written.blanks allBlank
  have noBrackets :
      Token.nesting
        [.number (options.rounded leaf.amount), .unit leaf.unit] = 0 := by
    simp
  exact Expression.ofText_of_reads reads (.term (.measurement _ _))
    (by simp [noBrackets])

/-- A measurement and what is shown in place of it have the same text. -/
theorem measurementText_rounded (options : FormatOptions) (leaf : Measurement) :
    options.measurementText ⟨options.rounded leaf.amount, leaf.unit⟩ =
      options.measurementText leaf := by
  simp only [measurementText, decimalText, decimalChars, rounded_rounded]

end FormatOptions

namespace Calculator

variable {calculator : Calculator}
variable {input target report : String}

/-- What it takes for the value of a text to be printed. -/
theorem valueReport_eq_ok_iff :
    calculator.valueReport input target false = .ok report ↔
      ∃ expression unit result,
        Expression.ofText input = .ok expression ∧
          LengthUnit.ofCode (trim target) = .ok unit ∧
          expression.convert unit = .ok result ∧
          calculator.options.measurementText result ++ "\n" = report := by
  unfold valueReport evaluate analyze calculate Expression.calculate
  cases read : Expression.ofText input with
  | error failure => simp [Except.map]
  | ok expression =>
      cases found : LengthUnit.ofCode (trim target) with
      | error failure => simp [Except.map]
      | ok unit =>
          cases converted : expression.convert unit with
          | error failure => simp [Except.map, converted]
          | ok result => simp [Except.map, converted, resultText]

/-- The text of a result has the report of the result. -/
theorem valueReport_measurementText
    (ungrouped : calculator.options.grouping = false)
    {unit : LengthUnit}
    (found : LengthUnit.ofCode (trim target) = .ok unit)
    (amount : Decimal)
    {ending : String}
    (allBlank : ∀ character ∈ ending.toList, isBlank character = true) :
    calculator.valueReport
        (calculator.options.measurementText ⟨amount, unit⟩ ++ ending)
        target false =
      .ok (calculator.options.measurementText ⟨amount, unit⟩ ++ "\n") := by
  have read :=
    FormatOptions.ofText_measurementText ungrouped ⟨amount, unit⟩ allBlank
  have converted :=
    Expression.convert_measurement
      (calculator.options.isBrief_rounded amount) unit
  have text :=
    calculator.options.measurementText_rounded ⟨amount, unit⟩
  refine valueReport_eq_ok_iff.mpr ⟨_, _, _, read, found, converted, ?_⟩
  rw [text]

/--
Without separators results are results of themselves: the text that is printed
for any input is read again, and with the same target the same text is printed
for it, whether its line break is taken along or not.
-/
theorem valueReport_stable
    (ungrouped : calculator.options.grouping = false)
    (evaluated : calculator.valueReport input target false = .ok report) :
    ∃ result,
      report = result ++ "\n" ∧
        calculator.valueReport result target false = .ok report ∧
        calculator.valueReport report target false = .ok report := by
  obtain ⟨expression, targetUnit, ⟨amount, unit⟩, -, found, converted, rfl⟩ :=
    valueReport_eq_ok_iff.mp evaluated
  obtain ⟨-, -, -, rfl⟩ := Expression.totals_of_convert converted
  have noEnding : ∀ character ∈ "".toList, isBlank character = true := by
    simp
  have newline : isBlank '\n' = true := by
    decide
  have lineBreak : ∀ character ∈ "\n".toList, isBlank character = true := by
    simpa using newline
  have ofResult := valueReport_measurementText ungrouped found amount noEnding
  have ofReport := valueReport_measurementText ungrouped found amount lineBreak
  rw [String.append_empty] at ofResult
  exact ⟨_, rfl, ofResult, ofReport⟩

/-- A point less an inch. -/
def pointLessInch : Expression :=
  .subtraction (.ofAmount .one .point) (.ofAmount .one .inch)

/-- The text is read as the difference. -/
theorem ofText_pointLessInch :
    Expression.ofText "1pt - 1in" = .ok pointLessInch := by
  have scanned :
      tokenize "1pt - 1in" =
        .ok [.number .one, .unit .point, .minus, .number .one, .unit .inch] :=
    rfl
  have form :=
    ChainForm.operation .minus (.term (.measurement .one .point))
      (.measurement .one .inch)
  exact (Expression.ofText_eq_ok_iff _ _).mpr ⟨_, scanned, form, by decide⟩

/-- The difference is converted to a result below zero. -/
theorem convert_pointLessInch :
    pointLessInch.convert .centimeter =
      .ok ⟨⟨-25047222, 7, by decide, by decide⟩, .centimeter⟩ := by
  rw [Expression.convert, Expression.convert?, Expression.totals?_eq]
  decide

/-- Of the seven digits behind its point three are shown and read again. -/
theorem valueReport_stable_point :
    Calculator.valueReport {} "1pt - 1in" " Cm " false =
        .ok "-2.505cm\n" ∧
      Calculator.valueReport {} "-2.505cm" " Cm " false =
        .ok "-2.505cm\n" := by
  have evaluated :
      Calculator.valueReport {} "1pt - 1in" " Cm " false =
        .ok "-2.505cm\n" :=
    valueReport_eq_ok_iff.mpr
      ⟨_, _, _, ofText_pointLessInch, rfl, convert_pointLessInch, by decide⟩
  obtain ⟨result, shape, again, -⟩ := valueReport_stable rfl evaluated
  have lines : "-2.505cm" ++ "\n" = result ++ "\n" := shape
  rw [String.append_left_inj] at lines
  subst lines
  exact ⟨evaluated, again⟩

end Calculator

end LengthCalc
