import LengthCalc.Expression.Text
import LengthCalc.Proofs.WrittenTextScan

namespace LengthCalc

/-!
# Separators in written text

Grouping adds commas to a text and nothing else.  A comma has no place in an
expression, so the first one is where the scanner stops: everything in front of
it also begins the text without separators, which is read to its end.
-/

/-- The characters of a text without its commas. -/
def dropCommas (characters : List Char) : List Char :=
  characters.filter (· != ',')

@[simp] theorem dropCommas_nil : dropCommas [] = [] :=
  rfl

@[simp] theorem dropCommas_append (front back : List Char) :
    dropCommas (front ++ back) = dropCommas front ++ dropCommas back :=
  List.filter_append front back

@[simp] theorem dropCommas_comma (rest : List Char) :
    dropCommas (',' :: rest) = dropCommas rest :=
  rfl

/-- A character that is no comma is kept. -/
theorem dropCommas_cons
    {character : Char}
    (plain : character ≠ ',')
    (rest : List Char) :
    dropCommas (character :: rest) = character :: dropCommas rest := by
  simp [dropCommas, plain]

/-- A text without commas is kept. -/
theorem dropCommas_of_not_mem
    {characters : List Char}
    (plain : ',' ∉ characters) :
    dropCommas characters = characters := by
  refine List.filter_eq_self.mpr ?_
  intro character member
  have notComma : character ≠ ',' := by
    rintro rfl
    exact plain member
  simpa using notComma

/-- Separating thousands adds commas only. -/
theorem dropCommas_separateThousands (digits : List Char) :
    dropCommas (separateThousands digits) = dropCommas digits := by
  induction digits with
  | nil =>
      rfl
  | cons digit rest inductionHypothesis =>
      have shorter :
          dropCommas (digit :: separateThousands rest) =
            dropCommas (digit :: rest) := by
        by_cases comma : digit = ','
        · subst comma
          simpa using inductionHypothesis
        · rw [dropCommas_cons comma, dropCommas_cons comma,
            inductionHypothesis]
      rw [separateThousands]
      split
      · rw [← shorter]
        simp [dropCommas, List.filter_cons]
      · exact shorter

namespace Decimal

/-- Nothing but digits stands among digits. -/
theorem AllDigits.not_mem
    {characters : List Char}
    (digits : AllDigits characters)
    {character : Char}
    (noDigit : character.isDigit = false) :
    character ∉ characters := by
  intro member
  have digit := digits character member
  rw [noDigit] at digit
  contradiction

/-- A fraction is written with digits and a point only. -/
theorem not_mem_fractionChars
    (value : Decimal)
    {character : Char}
    (noDigit : character.isDigit = false)
    (noPoint : character ≠ '.') :
    character ∉ value.fractionChars := by
  unfold fractionChars
  split
  · exact List.not_mem_nil
  · have digits := allDigits_lastDigits value.scale
      (value.coefficient.natAbs % 10 ^ value.scale)
    simp [noPoint, digits.not_mem noDigit]

/-- A sign is written with a minus only. -/
theorem not_mem_signChars
    (value : Decimal)
    {character : Char}
    (noMinus : character ≠ '-') :
    character ∉ value.signChars := by
  unfold signChars
  split <;> simp [noMinus]

end Decimal

namespace FormatOptions

/-- The same format without separators. -/
def ungrouped (options : FormatOptions) : FormatOptions :=
  { options with grouping := false }

/-- Without its commas the digits of an amount are those without separators. -/
theorem dropCommas_shownDigits (options : FormatOptions) (value : Decimal) :
    dropCommas (options.shownDigits value) =
      (options.rounded value).wholeDigits ++
        (options.rounded value).fractionChars := by
  let shown := options.rounded value
  have wholePlain :
      dropCommas shown.wholeDigits = shown.wholeDigits :=
    dropCommas_of_not_mem (shown.allDigits_wholeDigits.not_mem rfl)
  have fractionPlain :
      dropCommas shown.fractionChars = shown.fractionChars :=
    dropCommas_of_not_mem (shown.not_mem_fractionChars rfl (by decide))
  rw [shownDigits, dropCommas_append, fractionPlain]
  split
  · rw [dropCommas_separateThousands, wholePlain]
  · rw [wholePlain]

/-- Without its commas an amount is shown as without separators. -/
theorem dropCommas_decimalChars
    (options : FormatOptions)
    (value : Decimal) :
    dropCommas (options.decimalChars value) =
      options.ungrouped.decimalChars value := by
  have noComma :=
    (options.rounded value).not_mem_signChars (show ',' ≠ '-' by decide)
  have plain :
      options.ungrouped.shownDigits value =
        (options.rounded value).wholeDigits ++
          (options.rounded value).fractionChars :=
    rfl
  rw [decimalChars_eq, decimalChars_eq, dropCommas_append,
    dropCommas_of_not_mem noComma, dropCommas_shownDigits, plain]
  rfl

/-- The codes of the units have no commas. -/
theorem dropCommas_code (unit : LengthUnit) :
    dropCommas unit.code.toList = unit.code.toList := by
  cases unit <;> rfl

/-- Without its commas a text is the text without separators. -/
theorem dropCommas_expressionText
    (options : FormatOptions)
    (expression : Expression) :
    dropCommas (options.expressionText expression).toList =
      (options.ungrouped.expressionText expression).toList := by
  induction expression using Expression.join_induction with
  | measurement leaf =>
      rw [expressionText_measurement, expressionText_measurement,
        toList_measurementText, toList_measurementText,
        dropCommas_append, dropCommas_decimalChars, dropCommas_code]
  | brackets inner inductionHypothesis =>
      rw [expressionText_brackets, expressionText_brackets]
      simp [dropCommas_cons, inductionHypothesis]
  | join operator left right leftHypothesis rightHypothesis =>
      have signPlain : operator.signChar ≠ ',' := by
        cases operator <;> decide
      have sameBrackets :
          options.ungrouped.bracketsSign right = options.bracketsSign right :=
        rfl
      rw [expressionText_join, expressionText_join, operandText_eq,
        operandText_eq, sameBrackets]
      split <;>
        simp [dropCommas_cons, leftHypothesis, rightHypothesis, signPlain]

/-- Only grouping puts commas into a text. -/
theorem grouping_of_comma
    {options : FormatOptions}
    {expression : Expression}
    (comma : ',' ∈ (options.expressionText expression).toList) :
    options.grouping = true := by
  cases grouped : options.grouping with
  | true =>
      rfl
  | false =>
      have ungroupedSame : options.ungrouped = options := by
        simp [ungrouped, ← grouped]
      have plain := options.dropCommas_expressionText expression
      rw [ungroupedSame] at plain
      rw [← plain] at comma
      simp [dropCommas] at comma

/-- Without grouping no comma is written. -/
theorem no_comma_of_ungrouped
    {options : FormatOptions}
    (ungrouped : options.grouping = false)
    (expression : Expression) :
    ',' ∉ (options.expressionText expression).toList := by
  intro comma
  rw [grouping_of_comma comma] at ungrouped
  contradiction

/-- Grouping does not change the tokens. -/
theorem writtenTokens_ungrouped
    (options : FormatOptions)
    (expression : Expression) :
    options.ungrouped.writtenTokens expression =
      options.writtenTokens expression := by
  induction expression using Expression.join_induction with
  | measurement leaf =>
      rfl
  | brackets inner inductionHypothesis =>
      rw [writtenTokens, writtenTokens, inductionHypothesis]
  | join operator left right leftHypothesis rightHypothesis =>
      rw [writtenTokens_join, writtenTokens_join, leftHypothesis,
        rightHypothesis]
      rfl

/-- A text without commas has the tokens that were written. -/
theorem tokenize_of_no_comma
    {options : FormatOptions}
    {expression : Expression}
    (noComma : ',' ∉ (options.expressionText expression).toList) :
    tokenize (options.expressionText expression) =
      .ok (options.writtenTokens expression) := by
  have plain := options.dropCommas_expressionText expression
  rw [dropCommas_of_not_mem noComma] at plain
  have reads :=
    readsOperand_expressionText
      (show options.ungrouped.grouping = false from rfl) expression
  simp only [tokenize, plain, reads.tokensOf_eq, writtenTokens_ungrouped]

/-- A text with commas is refused at the first of them. -/
theorem tokenize_of_comma
    {options : FormatOptions}
    {expression : Expression}
    (comma : ',' ∈ (options.expressionText expression).toList) :
    tokenize (options.expressionText expression) =
      .error
        (.lexical
          (options.expressionText expression)
          ((options.expressionText expression).toList.idxOf ',')
          .foreignCharacter) := by
  -- The characters in front of the first comma also begin the text without
  -- separators, which is read to its end.
  obtain ⟨front, later, shape, first⟩ := List.eq_append_cons_of_mem comma
  have plain := options.dropCommas_expressionText expression
  rw [shape, dropCommas_append, dropCommas_comma,
    dropCommas_of_not_mem first] at plain
  obtain ⟨last, read, -⟩ :=
    readsOperand_expressionText
      (show options.ungrouped.grouping = false from rfl) expression 0 #[]
  rw [← plain] at read
  obtain ⟨next, readFront⟩ := Scanner.exists_run_of_append read
  have refused :=
    Scanner.tokensOf_foreign readFront
      (show CharClass.of? ',' = none by decide) later
  have index :
      (options.expressionText expression).toList.idxOf ',' =
        front.length := by
    simp [shape, List.idxOf_append, first]
  rw [index, tokenize, shape, refused]

end FormatOptions

end LengthCalc
