import LengthCalc.Proofs.RoundTrip

namespace LengthCalc

/-!
# Stable text

The text of a tree that was read is read again and gives the same text, with
one exception: a negative amount on the right of an operator is written in
brackets of its own, and inside as many groups as the limit allows these
brackets are one level too deep.
-/

namespace Expression

/-- A text that is read stands for a shallow tree in normal form. -/
theorem isNormal_of_ofText
    {text : String}
    {expression : Expression}
    (accepted : ofText text = .ok expression) :
    expression.IsNormal ∧ expression.groupDepth ≤ nestingLimit := by
  obtain ⟨tokens, -, form, within⟩ :=
    (ofText_eq_ok_iff text expression).mp accepted
  exact ⟨form.isNormal, Nat.le_trans form.groupDepth_le within⟩

end Expression

namespace FormatOptions

/--
Somewhere inside exactly so many groups stands a right operand that is shown
with a minus sign.
-/
def SignedOperandAt (options : FormatOptions) : Nat → Expression → Prop
  | _, .measurement _ => False
  | 0, .brackets _ => False
  | depth + 1, .brackets inner => options.SignedOperandAt depth inner
  | depth, .addition left right =>
      options.SignedOperandAt depth left ∨
        options.SignedOperandAt depth right ∨
        depth = 0 ∧ options.bracketsSign right = true
  | depth, .subtraction left right =>
      options.SignedOperandAt depth left ∨
        options.SignedOperandAt depth right ∨
        depth = 0 ∧ options.bracketsSign right = true

/--
A right operand with a sign is found in an operand or is the right one itself.
-/
theorem signedOperandAt_join
    (options : FormatOptions)
    (depth : Nat)
    (operator : Operator)
    (left right : Expression) :
    options.SignedOperandAt depth (operator.join left right) ↔
      options.SignedOperandAt depth left ∨
        options.SignedOperandAt depth right ∨
        depth = 0 ∧ options.bracketsSign right = true := by
  cases operator <;> simp [Operator.join, SignedOperandAt]

/-- Only a measurement is put in brackets for its sign. -/
theorem measurement_of_bracketsSign
    {options : FormatOptions}
    {right : Expression}
    (signed : options.bracketsSign right = true) :
    ∃ leaf, right = .measurement leaf := by
  cases right with
  | measurement leaf => exact ⟨leaf, rfl⟩
  | brackets inner => simp [bracketsSign] at signed
  | addition left right => simp [bracketsSign] at signed
  | subtraction left right => simp [bracketsSign] at signed

/-- Brackets nest one level deeper. -/
theorem nesting_writtenTokens_brackets
    (options : FormatOptions)
    (inner : Expression) :
    Token.nesting (options.writtenTokens (.brackets inner)) =
      Token.nesting (options.writtenTokens inner) + 1 := by
  rw [writtenTokens, Token.nesting_openBracket,
    (options.chainForm_writtenTokens inner).nesting_append]
  simp

/-- The brackets of an operation are those of its operands and of a sign. -/
theorem nesting_writtenTokens_join
    (options : FormatOptions)
    (operator : Operator)
    (left right : Expression) :
    Token.nesting (options.writtenTokens (operator.join left right)) =
      max (Token.nesting (options.writtenTokens left))
        (max (Token.nesting (options.writtenTokens right))
          (if options.bracketsSign right then 1 else 0)) := by
  have operandNesting :
      Token.nesting
          (options.operandTokens right (options.writtenTokens right)) =
        max (Token.nesting (options.writtenTokens right))
          (if options.bracketsSign right then 1 else 0) := by
    unfold operandTokens
    split
    · next signed =>
        obtain ⟨leaf, rfl⟩ := measurement_of_bracketsSign signed
        rfl
    · exact (Nat.max_zero _).symm
  rw [writtenTokens_join,
    (options.chainForm_writtenTokens left).nesting_append,
    Token.nesting_operator, operandNesting]

/--
The written brackets of a tree exceed a depth that its groups keep to exactly
if a sign needs brackets at that depth.
-/
theorem lt_nesting_iff_signedOperandAt
    (options : FormatOptions)
    {expression : Expression}
    {depth : Nat}
    (shallow : expression.groupDepth ≤ depth) :
    depth < Token.nesting (options.writtenTokens expression) ↔
      options.SignedOperandAt depth expression := by
  induction expression using Expression.join_induction generalizing depth with
  | measurement leaf =>
      simp [writtenTokens, SignedOperandAt]
  | brackets inner inductionHypothesis =>
      cases depth with
      | zero =>
          simp [Expression.groupDepth] at shallow
      | succ lower =>
          rw [Expression.groupDepth, Nat.add_le_add_iff_right] at shallow
          rw [nesting_writtenTokens_brackets, Nat.add_lt_add_iff_right,
            SignedOperandAt, inductionHypothesis shallow]
  | join operator left right leftHypothesis rightHypothesis =>
      rw [Expression.groupDepth_join, Nat.max_le] at shallow
      -- The brackets of a sign are a single level around a measurement.
      have signBrackets :
          (depth < if options.bracketsSign right then 1 else 0) ↔
            depth = 0 ∧ options.bracketsSign right = true := by
        split <;> simp_all
      have exceeds (first second : Nat) :
          depth < max first second ↔ depth < first ∨ depth < second := by
        omega
      rw [nesting_writtenTokens_join, exceeds, exceeds,
        leftHypothesis shallow.1, rightHypothesis shallow.2, signBrackets,
        signedOperandAt_join]

/-- Rounding keeps the signs that need brackets. -/
theorem bracketsSign_mapAmounts
    (options : FormatOptions)
    (right : Expression) :
    options.bracketsSign (right.mapAmounts options.rounded) =
      options.bracketsSign right := by
  cases right <;> simp [Expression.mapAmounts, bracketsSign]

/-- A tree with rounded amounts is written as the tree itself. -/
theorem expressionText_mapAmounts
    (options : FormatOptions)
    (expression : Expression) :
    options.expressionText (expression.mapAmounts options.rounded) =
      options.expressionText expression := by
  induction expression using Expression.join_induction with
  | measurement leaf =>
      rw [Expression.mapAmounts, expressionText_measurement,
        expressionText_measurement]
      simp [measurementText, decimalText, decimalChars]
  | brackets inner inductionHypothesis =>
      rw [Expression.mapAmounts, expressionText_brackets,
        expressionText_brackets, inductionHypothesis]
  | join operator left right leftHypothesis rightHypothesis =>
      rw [Expression.mapAmounts_join, expressionText_join,
        expressionText_join, operandText_eq, operandText_eq,
        bracketsSign_mapAmounts, leftHypothesis, rightHypothesis]

/--
Text without separators that comes from a tree that was read is stable: it is
read again, and the tree gives the same text.  The exception is a negative
right operand inside as many groups as may be nested; then the text is refused
for its nesting.
-/
theorem expressionText_stable
    {options : FormatOptions}
    (ungrouped : options.grouping = false)
    {text : String}
    {expression : Expression}
    (accepted : Expression.ofText text = .ok expression) :
    (¬ options.SignedOperandAt nestingLimit expression →
      ∃ again,
        Expression.ofText (options.expressionText expression) = .ok again ∧
          options.expressionText again =
            options.expressionText expression) ∧
      (options.SignedOperandAt nestingLimit expression →
        Expression.ofText (options.expressionText expression) =
          .error (.syntactic .tooDeep)) := by
  obtain ⟨normal, shallow⟩ := Expression.isNormal_of_ofText accepted
  have noComma := no_comma_of_ungrouped ungrouped expression
  -- The groups of a tree that was read keep to the limit, so only the brackets
  -- of a sign can exceed it.
  have beyond := options.lt_nesting_iff_signedOperandAt shallow
  rw [← bracketNesting_expressionText] at beyond
  constructor
  · intro unsigned
    have within :
        bracketNesting (options.expressionText expression) ≤
          nestingLimit :=
      Nat.le_of_not_lt fun deep => unsigned (beyond.mp deep)
    refine ⟨_, ofText_canonical noComma within, ?_⟩
    rw [options.canonical_of_isNormal normal, expressionText_mapAmounts]
  · intro signed
    exact ofText_tooDeep noComma (beyond.mpr signed)

end FormatOptions

namespace Expression

/-- A negative summand inside so many groups. -/
def signedNest : Nat → Expression
  | 0 =>
      .addition
        (.ofAmount .one .millimeter)
        (.ofAmount Decimal.one.neg .millimeter)
  | depth + 1 =>
      .addition
        (.ofAmount .one .millimeter)
        (.brackets (signedNest depth))

/-- The negative summand written without brackets of its own. -/
def signedNestText : Nat → String
  | 0 => "1mm + -1mm"
  | depth + 1 => "1mm + (" ++ signedNestText depth ++ ")"

/-- The text has no more brackets than the tree has groups. -/
theorem readsOperand_signedNestText (depth : Nat) :
    ∃ tokens,
      Scanner.ReadsOperand (signedNestText depth).toList tokens ∧
        ChainForm tokens (signedNest depth) ∧
        Token.nesting tokens = depth := by
  have readsOne :
      Scanner.ReadsOperand "1mm".toList
        [.number .one, .unit .millimeter] :=
    Scanner.readsOperand_measurement .one .millimeter
  have oneForm : ChainForm _ (.ofAmount .one .millimeter) :=
    .term (.measurement _ _)
  induction depth with
  | zero =>
      have readsNegative :
          Scanner.ReadsOperand "-1mm".toList
            [.number Decimal.one.neg, .unit .millimeter] :=
        Scanner.readsOperand_measurement Decimal.one.neg .millimeter
      exact ⟨_, readsOne.operation .plus readsNegative,
        .operation .plus oneForm (.measurement _ _), rfl⟩
  | succ depth inductionHypothesis =>
      obtain ⟨tokens, reads, form, nesting⟩ := inductionHypothesis
      have compound : (signedNest depth).isFactor = false := by
        cases depth <;> rfl
      have groupForm := TermForm.group form
      rw [group_of_not_isFactor compound] at groupForm
      refine ⟨_, ?_, .operation .plus oneForm groupForm, ?_⟩
      · have whole := readsOne.operation .plus reads.brackets
        simpa [signedNestText, Operator.signChar] using whole
      · simp [form.nesting_append, nesting]

/-- The nested text is accepted up to the limit. -/
theorem ofText_signedNestText
    {depth : Nat}
    (within : depth ≤ nestingLimit) :
    ofText (signedNestText depth) = .ok (signedNest depth) := by
  obtain ⟨tokens, reads, form, nesting⟩ := readsOperand_signedNestText depth
  have scanned := (tokenize_eq_ok_iff _ tokens).mpr reads.tokensOf_eq
  exact (ofText_eq_ok_iff _ _).mpr
    ⟨tokens, scanned, form, by rw [nesting]; exact within⟩

end Expression

namespace FormatOptions

/-- The signed operand stands below all the brackets. -/
theorem signedOperandAt_signedNest (depth : Nat) :
    ({} : FormatOptions).SignedOperandAt depth (.signedNest depth) := by
  induction depth with
  | zero =>
      exact .inr (.inr ⟨rfl, rfl⟩)
  | succ depth inductionHypothesis =>
      exact .inr (.inl inductionHypothesis)

/-- Both cases occur: outside all groups and at the bottom of the limit. -/
theorem expressionText_stable_signedNest :
    (∃ again,
      Expression.ofText
          (({} : FormatOptions).expressionText (.signedNest 0)) =
          .ok again ∧
        ({} : FormatOptions).expressionText again =
          ({} : FormatOptions).expressionText (.signedNest 0)) ∧
      Expression.ofText
          (({} : FormatOptions).expressionText (.signedNest nestingLimit)) =
        .error (.syntactic .tooDeep) := by
  have outside :=
    expressionText_stable (show ({} : FormatOptions).grouping = false from rfl)
      (Expression.ofText_signedNestText (Nat.zero_le nestingLimit))
  have bottom :=
    expressionText_stable (show ({} : FormatOptions).grouping = false from rfl)
      (Expression.ofText_signedNestText (Nat.le_refl nestingLimit))
  refine ⟨outside.1 ?_, bottom.2 (signedOperandAt_signedNest nestingLimit)⟩
  simp [Expression.signedNest, Expression.ofAmount, SignedOperandAt, nestingLimit]

/-- A text within the limit whose tree is written beyond it. -/
theorem expressionText_not_stable :
    Expression.ofText (Expression.signedNestText nestingLimit) =
        .ok (.signedNest nestingLimit) ∧
      ({} : FormatOptions).grouping = false ∧
      ∀ again,
        Expression.ofText
            (({} : FormatOptions).expressionText (.signedNest nestingLimit)) ≠
          .ok again := by
  have accepted := Expression.ofText_signedNestText (Nat.le_refl nestingLimit)
  have shallow := (Expression.isNormal_of_ofText accepted).2
  refine ⟨accepted, rfl, ?_⟩
  intro again accepted
  have beyond :=
    (({} : FormatOptions).lt_nesting_iff_signedOperandAt shallow).mpr
      (signedOperandAt_signedNest nestingLimit)
  rw [← bracketNesting_expressionText] at beyond
  have noComma :=
    no_comma_of_ungrouped (show ({} : FormatOptions).grouping = false from rfl)
      (.signedNest nestingLimit)
  rw [ofText_tooDeep noComma beyond] at accepted
  simp at accepted

end FormatOptions

end LengthCalc
