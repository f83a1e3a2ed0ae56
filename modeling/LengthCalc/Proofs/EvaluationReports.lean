import LengthCalc.CommandLine.Run
import LengthCalc.Proofs.JsonRoundTrip
import LengthCalc.Proofs.StableResults

namespace LengthCalc

/-!
# Reports of evaluations

An evaluation goes through four stages: the text is split into tokens, the
tokens are read, the target is looked up, and the value is calculated.  It fails
with the failure of the first stage that fails, and then nothing is written.
Otherwise there are two forms of the report, and the longer one can be decoded
to what the shorter one says.
-/

/-- The failure of the first stage of an evaluation that fails. -/
inductive EvaluationFails (input target : String) : Failure → Prop where
  | tokens
      {position : Nat}
      {cause : LexicalFault} :
      tokenize input = .error (.lexical input position cause) →
      EvaluationFails input target (.lexical input position cause)
  | expression
      {tokens : List Token}
      {cause : SyntaxFault} :
      tokenize input = .ok tokens →
      Expression.ofTokens tokens = .error (.syntactic cause) →
      EvaluationFails input target (.syntactic cause)
  | target
      {tokens : List Token}
      {expression : Expression} :
      tokenize input = .ok tokens →
      Expression.ofTokens tokens = .ok expression →
      LengthUnit.ofCode? (trim target) = none →
      EvaluationFails input target (.conversion (trim target))
  | value
      {tokens : List Token}
      {expression : Expression}
      {unit : LengthUnit} :
      tokenize input = .ok tokens →
      Expression.ofTokens tokens = .ok expression →
      LengthUnit.ofCode? (trim target) = some unit →
      expression.convert? unit = none →
      EvaluationFails input target .overflow

namespace Calculator

namespace Evaluation

/-- An evaluation from the JSON values of its parts. -/
def ofJsonParts? (input expression unit amount result : Json) :
    Option Evaluation := do
  let input ← input.text?
  let expression ← expression.text?
  let unit ← LengthUnit.ofJson? Json.readingRoom unit
  let amount ← Decimal.ofJson? amount
  let result ← result.text?
  return ⟨input, expression, unit, amount, result⟩

/-- An evaluation from fields that name each of its parts once. -/
def ofJsonFields? (fields : List (String × Json)) : Option Evaluation :=
  match Json.valuesOf "input" fields, Json.valuesOf "expression" fields,
      Json.valuesOf "unit" fields, Json.valuesOf "amount" fields,
      Json.valuesOf "result" fields with
  | [input], [expression], [unit], [amount], [result] =>
      ofJsonParts? input expression unit amount result
  | _, _, _, _, _ => none

/-- The evaluation of a JSON value. -/
def ofJson? : Json → Option Evaluation
  | .object fields => (Json.namedFields? fields).bind ofJsonFields?
  | _ => none

/-- The report of an evaluation is made up of texts and objects. -/
theorem textual_toJson (evaluation : Evaluation) :
    evaluation.toJson.Textual := by
  refine .object fun field member => ?_
  simp only [List.mem_cons, List.not_mem_nil, or_false] at member
  rcases member with rfl | rfl | rfl | rfl | rfl <;> exact .text _

/-- The JSON value of an evaluation is decoded to it. -/
theorem ofJson?_toJson (evaluation : Evaluation) :
    ofJson? evaluation.toJson = some evaluation := by
  have ofUnit := evaluation.unit.ofJson?_toJson Json.readingRoom
  have ofAmount := evaluation.amount.ofJson?_toJson
  simp [toJson, Json.ofFields, ofJson?, Json.namedFields?, ofJsonFields?,
    Json.valuesOf, ofJsonParts?, Json.text?, Json.ofText, ofUnit, ofAmount]

end Evaluation

variable {calculator : Calculator}
variable {input target : String}

/-- An evaluation fails with the failure of the first stage that fails. -/
theorem evaluate_of_fails
    {failure : Failure}
    (fails : EvaluationFails input target failure) :
    calculator.evaluate input target = .error failure := by
  unfold evaluate analyze calculate Expression.calculate LengthUnit.ofCode
  cases fails with
  | tokens scanned => simp [Expression.ofText, scanned]
  | expression scanned refused =>
      simp [Expression.ofText_of_tokenize scanned, refused]
  | target scanned read unknown =>
      simp [Expression.ofText_of_tokenize scanned, read, unknown]
  | value scanned read found overflows =>
      simp [Expression.ofText_of_tokenize scanned, read, found,
        Expression.convert, overflows]

/-- What an evaluation says about the expression that was read. -/
structure Evaluation.Describes
    (evaluation : Evaluation)
    (calculator : Calculator)
    (input target : String)
    (expression : Expression) : Prop where
  input_eq : evaluation.input = input
  read : calculator.analyze input = .ok expression
  expression_eq : evaluation.expression = calculator.pretty expression
  unit_eq : LengthUnit.ofCode? (trim target) = some evaluation.unit
  value_eq :
    expression.convert? evaluation.unit =
      some ⟨evaluation.amount, evaluation.unit⟩
  result_eq :
    evaluation.result =
      calculator.resultText ⟨evaluation.amount, evaluation.unit⟩

/-- An evaluation fails at one of the four stages, or it succeeds. -/
theorem evaluate_cases (calculator : Calculator) (input target : String) :
    (∃ failure, EvaluationFails input target failure) ∨
      ∃ (evaluation : Evaluation) (expression : Expression),
        calculator.evaluate input target = .ok evaluation ∧
          evaluation.Describes calculator input target expression := by
  cases scanned : tokenize input with
  | error failure =>
      obtain ⟨position, cause, rfl⟩ := exists_lexical_of_tokenize scanned
      exact .inl ⟨_, .tokens scanned⟩
  | ok tokens =>
      cases read : Expression.ofTokens tokens with
      | error failure =>
          obtain ⟨cause, rfl⟩ := Expression.ofTokens_error read
          exact .inl ⟨_, .expression scanned read⟩
      | ok expression =>
          cases found : LengthUnit.ofCode? (trim target) with
          | none => exact .inl ⟨_, .target scanned read found⟩
          | some unit =>
              cases value : expression.convert? unit with
              | none => exact .inl ⟨_, .value scanned read found value⟩
              | some result =>
                  have converted : expression.convert unit = .ok result := by
                    rw [Expression.convert, value]
                  have analyzed : calculator.analyze input = .ok expression :=
                    (Expression.ofText_of_tokenize scanned).trans read
                  obtain ⟨-, -, -, rfl⟩ :=
                    Expression.totals_of_convert converted
                  refine .inr ⟨⟨input, calculator.pretty expression,
                    result.unit, result.amount, calculator.resultText result⟩,
                    expression, ?_, ⟨rfl, analyzed, rfl, found, value, rfl⟩⟩
                  simp [evaluate, analyzed, calculate, Expression.calculate,
                    LengthUnit.ofCode, found, converted]

/--
An evaluation fails with the failure of the first stage that fails, in the order
tokens, expression, target, value; then nothing is written in either form.
Otherwise both forms are written.  The JSON form is decoded to an evaluation
with the given input, the expression as it is written canonically, the result as
it stands in the plain form, and the amount and the unit that this result shows.
-/
theorem valueReport_exact
    (calculator : Calculator)
    (input target : String) :
    (∀ failure,
      EvaluationFails input target failure →
      ∀ asJson,
        calculator.valueReport input target asJson = .error failure ∧
          (Outcome.ofReport
            (calculator.valueReport input target asJson)).written = "") ∧
      ((¬ ∃ failure, EvaluationFails input target failure) →
        ∃ plain indented evaluation,
          calculator.valueReport input target false = .ok plain ∧
            calculator.valueReport input target true = .ok indented ∧
            (Json.read? indented).bind Evaluation.ofJson? = some evaluation ∧
            evaluation.input = input ∧
            calculator.prettyReport input =
              .ok (evaluation.expression ++ "\n") ∧
            evaluation.result ++ "\n" = plain ∧
            calculator.resultText ⟨evaluation.amount, evaluation.unit⟩ =
              evaluation.result) := by
  constructor
  · intro failure fails asJson
    have report :
        calculator.valueReport input target asJson = .error failure := by
      rw [valueReport, evaluate_of_fails fails]
      rfl
    rw [report]
    exact ⟨rfl, rfl⟩
  · intro noFailure
    obtain fails | ⟨evaluation, expression, evaluated, describes⟩ :=
      calculator.evaluate_cases input target
    · exact (noFailure fails).elim
    · refine ⟨evaluation.result ++ "\n", evaluation.toJson.indentedText ++ "\n",
        evaluation, ?_, ?_, ?_, describes.input_eq, ?_, rfl,
        describes.result_eq.symm⟩
      · rw [valueReport, evaluated]
        rfl
      · rw [valueReport, evaluated]
        rfl
      · rw [evaluation.textual_toJson.read?_indentedText_append,
          Option.bind_some, evaluation.ofJson?_toJson]
      · rw [prettyReport, describes.read, describes.expression_eq]
        rfl

end Calculator

end LengthCalc
