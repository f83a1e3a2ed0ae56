import LengthCalc.Proofs.LexicalExact
import LengthCalc.Proofs.StableText
import LengthCalc.Proofs.WrittenNesting

namespace LengthCalc

/-!
# Where minus signs stand

A minus in the text of a tree that was read is an operator between blanks, or
the sign of a number that is not zero.  A sign begins the text or stands right
behind an opening bracket, because the right operands of such a tree are
measurements and groups, and a measurement that is shown with a sign gets
brackets there.
-/

/-- The characters that a number is shown with behind its sign. -/
def isNumberChar (character : Char) : Bool :=
  character.isDigit || character == ',' || character == '.'

/-- The last character of an operand. -/
def endsOperand (character : Char) : Bool :=
  character.isAlpha || character == ')'

/-- The first character of an operand that has no sign. -/
def beginsOperand (character : Char) : Bool :=
  character.isDigit || character == '('

/-- A minus between two blanks, behind one operand and in front of another. -/
structure IsOperatorMinus (before after : List Char) : Prop where
  operand_before :
    ∃ front last, before = front ++ [last, ' '] ∧ endsOperand last = true
  operand_after :
    ∃ first back, after = ' ' :: first :: back ∧ beginsOperand first = true

/--
A minus at the beginning or right behind an opening bracket, in front of a
number that is positive without it.  The number reaches up to the first letter.
-/
structure IsNumberSign (before after : List Char) : Prop where
  place : before = [] ∨ before.getLast? = some '('
  number :
    ∃ digits letter rest value,
      after = digits ++ letter :: rest ∧
        (∀ character ∈ digits, isNumberChar character = true) ∧
        letter.isAlpha = true ∧
        Decimal.ofChars (dropCommas digits) = .ok value ∧
        0 < value.coefficient

/-- A minus is an operator or a sign. -/
def IsPlacedMinus (before after : List Char) : Prop :=
  IsOperatorMinus before after ∨ IsNumberSign before after

/-- Every minus in a text is an operator or a sign. -/
def PlacesMinuses (text : List Char) : Prop :=
  ∀ before after, text = before ++ '-' :: after → IsPlacedMinus before after

namespace IsPlacedMinus

variable {before after : List Char}

/-- What follows further on does not matter. -/
theorem extend
    (placed : IsPlacedMinus before after)
    (more : List Char) :
    IsPlacedMinus before (after ++ more) := by
  rcases placed with operator | sign
  · obtain ⟨first, back, rfl, begins⟩ := operator.operand_after
    exact .inl ⟨operator.operand_before, first, back ++ more, rfl, begins⟩
  · obtain ⟨digits, letter, rest, value, rfl, shown⟩ := sign.number
    exact .inr ⟨sign.place, digits, letter, rest ++ more, value, by simp, shown⟩

/-- What stands further in front matters for a sign at the beginning only. -/
theorem shift
    (placed : IsPlacedMinus before after)
    (outer : List Char)
    (inside : before = [] → outer.getLast? = some '(') :
    IsPlacedMinus (outer ++ before) after := by
  rcases placed with operator | sign
  · obtain ⟨front, last, rfl, ends⟩ := operator.operand_before
    exact .inl ⟨⟨outer ++ front, last, by simp, ends⟩, operator.operand_after⟩
  · refine .inr ⟨.inr ?_, sign.number⟩
    rcases sign.place with rfl | opened
    · simpa using inside rfl
    · simp [List.getLast?_append, opened]

end IsPlacedMinus

/-- Of the characters between two operands only the operator can be a minus. -/
theorem blanks_around_minus
    {operator : Operator}
    {behind rest : List Char}
    (found : [' ', operator.signChar, ' '] = behind ++ '-' :: rest) :
    behind = [' '] ∧ rest = [' '] := by
  cases behind with
  | nil =>
      simp at found
  | cons blank others =>
      obtain ⟨rfl, later⟩ := List.cons.inj found
      cases others with
      | nil => exact ⟨rfl, (List.cons.inj later).2.symm⟩
      | cons _ more => cases more <;> simp at later

namespace PlacesMinuses

variable {text : List Char}

theorem of_not_mem (absent : '-' ∉ text) : PlacesMinuses text := by
  intro before after found
  exact (absent (by simp [found])).elim

/-- Brackets around a text let it begin with a sign. -/
theorem bracketed (placed : PlacesMinuses text) :
    PlacesMinuses ('(' :: (text ++ [')'])) := by
  intro before after found
  cases before with
  | nil =>
      simp at found
  | cons first others =>
      obtain ⟨rfl, inside⟩ := List.cons.inj found
      rcases append_eq_at inside with ⟨rest, inText⟩ | ⟨behind, -, closing⟩
      · have shape : after = rest ++ [')'] := by
          rw [inText] at inside
          simpa using inside.symm
        rw [shape]
        have extended := (placed others rest inText).extend [')']
        exact extended.shift ['('] fun _ => rfl
      · cases behind <;> simp at closing

/-- Behind an operand, an operator and another operand may follow. -/
theorem operation
    (placed : PlacesMinuses text)
    (ends : ∃ front last, text = front ++ [last] ∧ endsOperand last = true)
    (operator : Operator)
    {right : List Char}
    (placedRight : PlacesMinuses right)
    (begins :
      ∃ first back, right = first :: back ∧ beginsOperand first = true) :
    PlacesMinuses (text ++ ([' ', operator.signChar, ' '] ++ right)) := by
  obtain ⟨first, back, rfl, beginsFirst⟩ := begins
  intro before after found
  rcases append_eq_at found with ⟨rest, inText⟩ | ⟨behind, rfl, later⟩
  · have shape :
        after = rest ++ ([' ', operator.signChar, ' '] ++ first :: back) := by
      rw [inText] at found
      simpa using found.symm
    rw [shape]
    exact (placed before rest inText).extend _
  · rcases append_eq_at later with ⟨rest, inOperator⟩ | ⟨inner, rfl, inRight⟩
    · obtain ⟨rfl, rfl⟩ := blanks_around_minus inOperator
      obtain ⟨front, last, rfl, endsLast⟩ := ends
      rw [inOperator] at later
      refine .inl
        ⟨⟨front, last, by simp, endsLast⟩, first, back, ?_, beginsFirst⟩
      simpa using later.symm
    · rw [← List.append_assoc]
      refine (placedRight inner after inRight).shift _ fun atStart => ?_
      subst atStart
      obtain ⟨rfl, -⟩ := List.cons.inj inRight
      contradiction

end PlacesMinuses

namespace FormatOptions

/-- Behind its sign a number is shown with digits, separators and a point. -/
theorem isNumberChar_of_mem_shownDigits
    {options : FormatOptions}
    {value : Decimal}
    {character : Char}
    (member : character ∈ options.shownDigits value) :
    isNumberChar character = true := by
  by_cases comma : character = ','
  · simp [isNumberChar, comma]
  · rw [← mem_dropCommas comma, dropCommas_shownDigits, List.mem_append]
      at member
    rcases member with inWhole | inFraction
    · have isDigit := (options.rounded value).allDigits_wholeDigits _ inWhole
      simp [isNumberChar, isDigit]
    · refine Decidable.byContradiction fun other => ?_
      simp only [isNumberChar, Bool.or_eq_true, beq_iff_eq, not_or,
        Bool.not_eq_true] at other
      exact Decimal.not_mem_fractionChars _ other.1.1 other.2 inFraction

/-- A number that is shown with a sign is read as a positive one without it. -/
theorem ofChars_dropCommas_shownDigits
    {options : FormatOptions}
    {value : Decimal}
    (negative : (options.rounded value).coefficient < 0) :
    Decimal.ofChars (dropCommas (options.shownDigits value)) =
      .ok (options.rounded value).neg := by
  have unsigned :
      (options.rounded value).neg.toChars =
        (options.rounded value).wholeDigits ++
          (options.rounded value).fractionChars := by
    simp [Decimal.toChars, Decimal.signChars, Decimal.wholeDigits,
      Decimal.fractionChars, Int.le_of_lt negative]
  rw [dropCommas_shownDigits, ← unsigned, Decimal.ofChars_toChars]

theorem exists_code_letters (unit : LengthUnit) :
    ∃ first last,
      unit.code.toList = [first, last] ∧
        first.isAlpha = true ∧
        last.isAlpha = true := by
  cases unit <;> exact ⟨_, _, rfl, rfl, rfl⟩

/-- The only minus in the text of a measurement is a sign at its beginning. -/
theorem placesMinuses_measurementText
    (options : FormatOptions)
    (leaf : Measurement) :
    PlacesMinuses (options.measurementText leaf).toList := by
  obtain ⟨letter, last, code, letterIsAlpha, lastIsAlpha⟩ :=
    exists_code_letters leaf.unit
  have noMinus : '-' ∉ options.shownDigits leaf.amount ++ [letter, last] := by
    intro member
    rcases List.mem_append.mp member with inDigits | inCode
    · have isNumber := isNumberChar_of_mem_shownDigits inDigits
      contradiction
    · have isAlpha : Char.isAlpha '-' = true := by
        simp only [List.mem_cons, List.not_mem_nil, or_false] at inCode
        rcases inCode with rfl | rfl <;> assumption
      contradiction
  rw [toList_measurementText, decimalChars_eq, code, List.append_assoc]
  by_cases negative : (options.rounded leaf.amount).coefficient < 0
  · intro before after found
    simp only [Decimal.signChars, negative, ↓reduceIte, List.cons_append,
      List.nil_append] at found
    cases before with
    | nil =>
        obtain ⟨-, rfl⟩ := List.cons.inj found
        exact .inr ⟨.inl rfl, _, letter, [last], _, rfl,
          fun _ => isNumberChar_of_mem_shownDigits, letterIsAlpha,
          ofChars_dropCommas_shownDigits negative, by simpa using negative⟩
    | cons first others =>
        obtain ⟨-, later⟩ := List.cons.inj found
        exact (noMinus (by simp [later])).elim
  · simp only [Decimal.signChars, negative, ↓reduceIte, List.nil_append]
    exact .of_not_mem noMinus

theorem toList_bracketed (text : String) :
    ("(" ++ text ++ ")").toList = '(' :: (text.toList ++ [')']) := by
  simp

/-- A right operand is written as its tree is, or in brackets. -/
theorem operandText_cases (options : FormatOptions) (right : Expression) :
    operandText right (options.expressionText right) =
        options.expressionText right ∨
      operandText right (options.expressionText right) =
        "(" ++ options.expressionText right ++ ")" := by
  rw [operandText_eq]
  split
  · exact .inr rfl
  · exact .inl rfl

/-- The text of a tree ends like an operand. -/
theorem exists_last_expressionText
    (options : FormatOptions)
    (expression : Expression) :
    ∃ front last,
      (options.expressionText expression).toList = front ++ [last] ∧
        endsOperand last = true := by
  induction expression using Expression.join_induction with
  | measurement leaf =>
      obtain ⟨letter, last, code, -, isAlpha⟩ := exists_code_letters leaf.unit
      rw [expressionText_measurement, toList_measurementText, code]
      exact ⟨options.decimalChars leaf.amount ++ [letter], last, by simp,
        by simp [endsOperand, isAlpha]⟩
  | brackets inner _ =>
      rw [expressionText_brackets, toList_bracketed]
      exact ⟨'(' :: (options.expressionText inner).toList, ')', rfl, rfl⟩
  | join operator left right _ rightHypothesis =>
      obtain ⟨front, last, shape, ends⟩ :
          ∃ front last,
            (operandText right (options.expressionText right)).toList =
                front ++ [last] ∧
              endsOperand last = true := by
        rcases options.operandText_cases right with plain | bracketed
        · rw [plain]
          exact rightHypothesis
        · rw [bracketed, toList_bracketed]
          exact ⟨_ :: _, ')', rfl, rfl⟩
      rw [expressionText_join, String.toList_append, shape, ← List.append_assoc]
      exact ⟨_, last, rfl, ends⟩

/-- A measurement or a group on the right begins like an operand. -/
theorem exists_first_operandText
    (options : FormatOptions)
    {right : Expression}
    (factor : right.isFactor = true) :
    ∃ first back,
      (operandText right (options.expressionText right)).toList =
          first :: back ∧
        beginsOperand first = true := by
  rw [operandText_eq]
  by_cases signed : options.bracketsSign right = true
  · rw [if_pos signed, toList_bracketed]
    exact ⟨'(', _, rfl, rfl⟩
  · rw [if_neg signed]
    cases right with
    | measurement leaf =>
        obtain ⟨digit, rest, shape, isDigit⟩ :=
          options.exists_digit_shownDigits leaf.amount
        have nonnegative : ¬ (options.rounded leaf.amount).coefficient < 0 := by
          simpa [bracketsSign] using signed
        rw [expressionText_measurement, toList_measurementText,
          decimalChars_eq, Decimal.signChars, if_neg nonnegative, shape]
        exact ⟨digit, _, rfl, by simp [beginsOperand, isDigit]⟩
    | brackets inner =>
        rw [expressionText_brackets, toList_bracketed]
        exact ⟨'(', _, rfl, rfl⟩
    | addition left right => simp [Expression.isFactor] at factor
    | subtraction left right => simp [Expression.isFactor] at factor

/-- In the text of a tree in normal form every minus is an operator or a sign. -/
theorem placesMinuses_expressionText
    (options : FormatOptions)
    {expression : Expression}
    (normal : expression.IsNormal) :
    PlacesMinuses (options.expressionText expression).toList := by
  induction expression using Expression.join_induction with
  | measurement leaf =>
      rw [expressionText_measurement]
      exact options.placesMinuses_measurementText leaf
  | brackets inner inductionHypothesis =>
      rw [expressionText_brackets, toList_bracketed]
      exact (inductionHypothesis normal.1).bracketed
  | join operator left right leftHypothesis rightHypothesis =>
      obtain ⟨leftNormal, rightNormal, factor⟩ :=
        (Expression.isNormal_join operator left right).mp normal
      have placedRight :
          PlacesMinuses
            (operandText right (options.expressionText right)).toList := by
        rcases options.operandText_cases right with plain | bracketed
        · rw [plain]
          exact rightHypothesis rightNormal
        · rw [bracketed, toList_bracketed]
          exact (rightHypothesis rightNormal).bracketed
      have shape :
          (options.expressionText (operator.join left right)).toList =
            (options.expressionText left).toList ++
              ([' ', operator.signChar, ' '] ++
                (operandText right (options.expressionText right)).toList) := by
        rw [expressionText_join]
        simp
      rw [shape]
      exact (leftHypothesis leftNormal).operation
        (options.exists_last_expressionText left) operator placedRight
        (options.exists_first_operandText factor)

/--
In the canonical text of anything that is read, a minus is an operator between
blanks and operands, or a sign at the beginning or right behind an opening
bracket, and then the number behind it is not zero.  So no operator is followed
by a number with a bare sign.
-/
theorem expressionText_minuses
    (options : FormatOptions)
    {input : String}
    {expression : Expression}
    (accepted : Expression.ofText input = .ok expression) :
    (∀ before after,
      (options.expressionText expression).toList = before ++ '-' :: after →
      IsOperatorMinus before after ∨ IsNumberSign before after) ∧
      ∀ (operator : Operator) before after,
        (options.expressionText expression).toList ≠
          before ++ operator.signChar :: ' ' :: '-' :: after := by
  have normal := (Expression.isNormal_of_ofText accepted).1
  have placed := options.placesMinuses_expressionText normal
  refine ⟨placed, ?_⟩
  intro operator before after found
  have split :
      before ++ operator.signChar :: ' ' :: '-' :: after =
        (before ++ [operator.signChar, ' ']) ++ '-' :: after := by
    simp
  rw [split] at found
  rcases placed _ _ found with asOperator | asSign
  · obtain ⟨front, last, shape, ends⟩ := asOperator.operand_before
    have same : operator.signChar = last := by
      have lasts := (List.append_inj_right' shape rfl)
      simpa using lasts
    subst same
    cases operator <;> contradiction
  · rcases asSign.place with atStart | opened
    · simp at atStart
    · simp at opened

/-- Differences of amounts with signs, one of which is shown as zero. -/
def signedDifference : Expression :=
  .subtraction
    (.subtraction
      (.ofAmount Decimal.one.neg .millimeter)
      (.ofAmount ⟨-6, 5, by decide, by decide⟩ .millimeter))
    (.brackets
      (.subtraction
        (.ofAmount .one .inch)
        (.ofAmount Decimal.one.neg .centimeter)))

theorem ofText_signedDifference :
    Expression.ofText "-1mm - -0.00006mm - (1in - -1cm)" =
      .ok signedDifference := by
  have scanned :
      tokenize "-1mm - -0.00006mm - (1in - -1cm)" =
        .ok
          [.number Decimal.one.neg, .unit .millimeter, .minus,
            .number ⟨-6, 5, by decide, by decide⟩, .unit .millimeter, .minus,
            .openBracket, .number .one, .unit .inch,
            .minus, .number Decimal.one.neg, .unit .centimeter,
            .closeBracket] :=
    rfl
  have inner :=
    ChainForm.operation .minus
      (.term (.measurement .one .inch))
      (.measurement Decimal.one.neg .centimeter)
  have form :=
    ChainForm.operation .minus
      (.operation .minus
        (.term (.measurement Decimal.one.neg .millimeter))
        (.measurement ⟨-6, 5, by decide, by decide⟩ .millimeter))
      (.group inner)
  exact (Expression.ofText_eq_ok_iff _ _).mpr ⟨_, scanned, form, by decide⟩

/-- One sign begins the text, one gets brackets, and the one of zero is gone. -/
theorem expressionText_minuses_signedDifference :
    Expression.ofText "-1mm - -0.00006mm - (1in - -1cm)" =
        .ok signedDifference ∧
      FormatOptions.expressionText {} signedDifference =
        "-1mm - 0mm - (1in - (-1cm))" ∧
      ∀ before after,
        "-1mm - 0mm - (1in - (-1cm))".toList = before ++ '-' :: after →
        IsOperatorMinus before after ∨ IsNumberSign before after := by
  have written :
      FormatOptions.expressionText {} signedDifference =
        "-1mm - 0mm - (1in - (-1cm))" := by
    decide +kernel
  have placed := (expressionText_minuses {} ofText_signedDifference).1
  rw [written] at placed
  exact ⟨ofText_signedDifference, written, placed⟩

end FormatOptions

end LengthCalc
