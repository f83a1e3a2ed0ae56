import LengthCalc.Proofs.ParserExact
import LengthCalc.Repl

namespace LengthCalc.Repl

/-!
# The lines of a session

What a line asks for, read off its trimmed text, and how the calculation of a
line goes with the reports of the two commands that show an expression and its
value.
-/

/-- A text that is a command with a name and an argument. -/
inductive IsCommand : (text name argument : String) → Prop where
  | alone
      {text name : String} :
      text.toList = ':' :: name.toList →
      (∀ character ∈ name.toList, isBlank character = false) →
      IsCommand text name ""
  | withArgument
      {text name : String}
      {blank : Char}
      {behind : List Char} :
      text.toList = ':' :: (name.toList ++ blank :: behind) →
      (∀ character ∈ name.toList, isBlank character = false) →
      isBlank blank = true →
      IsCommand text name (trim (String.ofList behind))

/-- A text that is an expression as far as its beginning tells. -/
structure IsCalculation (text : String) : Prop where
  nonempty : text ≠ ""
  noColon : text.toList.head? ≠ some ':'

namespace IsCommand

/-- Splitting at the first blank drops that blank. -/
theorem splitAtBlank_append
    {name : List Char}
    (notBlank : ∀ character ∈ name, isBlank character = false)
    (rest : List Char)
    (boundary : ∀ character ∈ rest.head?, isBlank character = true) :
    splitAtBlank (name ++ rest) = (name, rest.drop 1) := by
  have all : ∀ character ∈ name, (!isBlank character) = true := by
    simpa using notBlank
  rw [splitAtBlank, List.takeWhile_append_of_pos all,
    List.dropWhile_append_of_pos all]
  cases rest with
  | nil =>
      simp
  | cons blank behind =>
      simp [boundary blank rfl]

/-- A line is split at its first blank. -/
theorem exists_split_at_blank (characters : List Char) :
    ∃ name rest,
      characters = name ++ rest ∧
        (∀ character ∈ name, isBlank character = false) ∧
        ∀ character ∈ rest.head?, isBlank character = true := by
  induction characters with
  | nil =>
      exact ⟨[], [], rfl, by simp, by simp⟩
  | cons first later inductionHypothesis =>
      cases blank : isBlank first with
      | true =>
          exact ⟨[], first :: later, rfl, by simp, by simpa using blank⟩
      | false =>
          obtain ⟨name, rest, rfl, notBlank, boundary⟩ := inductionHypothesis
          exact ⟨first :: name, rest, rfl, by simpa [blank] using notBlank,
            boundary⟩

/-- A command line is understood as its name and its argument say. -/
theorem ofLine
    {line name argument : String}
    (command : IsCommand (trim line) name argument) :
    Request.ofLine line = .ofCommand name argument := by
  cases command with
  | alone shape notBlank =>
      have split := splitAtBlank_append notBlank [] (by simp)
      rw [List.append_nil] at split
      simp only [Request.ofLine, shape, split, String.ofList_toList]
      rfl
  | @withArgument blank behind shape notBlank isABlank =>
      have split :=
        splitAtBlank_append notBlank (blank :: behind) (by simpa using isABlank)
      simp only [Request.ofLine, shape, split, String.ofList_toList,
        List.drop_succ_cons, List.drop_zero]

/-- A text behind a colon is a command, split at its first blank. -/
theorem of_split
    {text name argument : String}
    {command : List Char}
    (shape : text.toList = ':' :: command)
    (named : (splitAtBlank command).1 = name.toList)
    (given : trim (String.ofList (splitAtBlank command).2) = argument) :
    IsCommand text name argument := by
  obtain ⟨front, rest, rfl, notBlank, boundary⟩ :=
    exists_split_at_blank command
  rw [splitAtBlank_append notBlank rest boundary] at named given
  obtain rfl : front = name.toList := named
  subst given
  cases rest with
  | nil =>
      rw [List.append_nil] at shape
      exact .alone shape notBlank
  | cons blank behind =>
      exact .withArgument shape notBlank (boundary blank rfl)

/-- Every text behind a colon is a command. -/
theorem exists_of_colon
    {text : String}
    {command : List Char}
    (shape : text.toList = ':' :: command) :
    ∃ name argument, IsCommand text name argument :=
  ⟨_, _, of_split shape String.toList_ofList.symm rfl⟩

end IsCommand

namespace IsCalculation

/-- A calculation is asked for without the blanks around it. -/
theorem ofLine
    {line : String}
    (calculation : IsCalculation (trim line)) :
    Request.ofLine line = .evaluate (trim line) := by
  cases shape : (trim line).toList with
  | nil =>
      exact (calculation.nonempty (String.toList_eq_nil_iff.mp shape)).elim
  | cons first rest =>
      have noColon : first ≠ ':' := by
        rintro rfl
        exact calculation.noColon (by rw [shape]; rfl)
      simp only [Request.ofLine, shape]
      split
      · next found =>
          cases found
      · next found =>
          exact (noColon (List.cons.inj found).1).elim
      · rfl

end IsCalculation

/-- A text is empty, a command or an expression. -/
theorem text_cases (text : String) :
    text = "" ∨
      (∃ name argument, IsCommand text name argument) ∨
      IsCalculation text := by
  cases shape : text.toList with
  | nil =>
      exact .inl (String.toList_eq_nil_iff.mp shape)
  | cons first rest =>
      by_cases colon : first = ':'
      · subst colon
        exact .inr (.inl (IsCommand.exists_of_colon shape))
      · refine .inr (.inr ⟨?_, ?_⟩)
        · rintro rfl
          cases shape
        · simpa [shape] using colon

/-- The code of a unit has no blanks around it. -/
theorem trim_code (unit : LengthUnit) : trim unit.code = unit.code := by
  cases unit <;> decide

/-- Calculating into a unit is converting into it. -/
theorem calculate_code
    (calculator : Calculator)
    (expression : Expression)
    (target : LengthUnit) :
    calculator.calculate expression target.code =
      expression.convert target := by
  simp [Calculator.calculate, Expression.calculate, trim_code,
    LengthUnit.ofCode]

/-- Reading a text does not fail for a unit of conversion. -/
theorem analyze_ne_conversion
    {calculator : Calculator}
    {text : String}
    {failure : Failure}
    (unread : calculator.analyze text = .error failure)
    (name : String) :
    failure ≠ .conversion name := by
  rintro rfl
  unfold Calculator.analyze Expression.ofText at unread
  split at unread
  · obtain ⟨cause, syntactic⟩ := Expression.ofTokens_error unread
    cases syntactic
  · next scanned =>
      cases unread
      obtain ⟨position, cause, lexical⟩ := exists_lexical_of_tokenize scanned
      cases lexical

/-- A conversion does not fail for the name of its unit. -/
theorem convert_ne_conversion
    {expression : Expression}
    {target : LengthUnit}
    {failure : Failure}
    (refused : expression.convert target = .error failure)
    (name : String) :
    failure ≠ .conversion name := by
  rintro rfl
  unfold Expression.convert at refused
  split at refused <;> cases refused

section Reports

variable {calculator : Calculator}
variable {target : LengthUnit}
variable {text : String}

/-- A calculated line shows what the two commands print. -/
theorem reports_of_calculation
    {found : Calculation}
    (calculated : calculation calculator target text = .ok found) :
    calculator.prettyReport text =
        .ok (calculator.pretty found.expression ++ "\n") ∧
      calculator.valueReport text target.code false =
        .ok (calculator.resultText found.result ++ "\n") := by
  unfold calculation at calculated
  split at calculated
  · cases calculated
  · next expression analyzed =>
      cases converted : calculator.calculate expression target.code with
      | error failure =>
          simp [converted, Except.map] at calculated
      | ok result =>
          simp only [converted, Except.map, Except.ok.injEq] at calculated
          subst calculated
          simp [Calculator.prettyReport, Calculator.valueReport,
            Calculator.evaluate, analyzed, converted, Except.map]

/-- A line that is not calculated has the failure of the value report. -/
theorem valueReport_error_of_calculation
    {failure : Failure}
    (refused : calculation calculator target text = .error failure) :
    calculator.valueReport text target.code false = .error failure := by
  unfold calculation at refused
  split at refused
  · next analyzed =>
      cases refused
      simp [Calculator.valueReport, Calculator.evaluate, analyzed, Except.map]
  · next expression analyzed =>
      cases converted : calculator.calculate expression target.code with
      | ok result =>
          simp [converted, Except.map] at refused
      | error found =>
          simp only [converted, Except.map, Except.error.injEq] at refused
          subst refused
          simp [Calculator.valueReport, Calculator.evaluate, analyzed,
            converted, Except.map]

/-- What the two commands print is what a calculated line shows. -/
theorem calculation_of_reports
    {pretty result : String}
    (shown : calculator.prettyReport text = .ok (pretty ++ "\n"))
    (valued :
      calculator.valueReport text target.code false =
        .ok (result ++ "\n")) :
    ∃ found,
      calculation calculator target text = .ok found ∧
        calculationLine calculator found = pretty ++ " = " ++ result := by
  cases calculated : calculation calculator target text with
  | error failure =>
      rw [valueReport_error_of_calculation calculated] at valued
      cases valued
  | ok found =>
      obtain ⟨ofPretty, ofResult⟩ := reports_of_calculation calculated
      rw [ofPretty, Except.ok.injEq, String.append_left_inj] at shown
      rw [ofResult, Except.ok.injEq, String.append_left_inj] at valued
      exact ⟨found, rfl, by rw [calculationLine, shown, valued]⟩

/-- A failed report is a failed calculation. -/
theorem calculation_of_valueReport_error
    {failure : Failure}
    (refused :
      calculator.valueReport text target.code false = .error failure) :
    calculation calculator target text = .error failure := by
  cases calculated : calculation calculator target text with
  | error found =>
      rw [valueReport_error_of_calculation calculated] at refused
      cases refused
      rfl
  | ok found =>
      rw [(reports_of_calculation calculated).2] at refused
      cases refused

/-- No line fails for its target unit. -/
theorem calculation_ne_conversion
    {failure : Failure}
    (refused : calculation calculator target text = .error failure)
    (name : String) :
    failure ≠ .conversion name := by
  unfold calculation at refused
  split at refused
  · next unread =>
      cases refused
      exact analyze_ne_conversion unread name
  · next expression _ =>
      rw [calculate_code] at refused
      cases converted : expression.convert target with
      | ok result =>
          simp [converted, Except.map] at refused
      | error found =>
          simp only [converted, Except.map, Except.error.injEq] at refused
          subst refused
          exact convert_ne_conversion converted name

end Reports

end LengthCalc.Repl
