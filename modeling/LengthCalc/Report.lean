import LengthCalc.Calculator
import LengthCalc.Json.Expression

namespace LengthCalc

/-!
# Reports

The complete texts that the commands print: the value of an expression, plainly
or with all that belongs to it as JSON, its canonical text, its tokens, and the
table of the units.
-/

/-- A text pushed to the right of a column by blanks in front. -/
def alignRight (width : Nat) (text : String) : String :=
  String.ofList (List.replicate (width - text.length) ' ' ++ text.toList)

/-- Lines with a line break behind each. -/
def unlines (lines : List String) : String :=
  String.join (lines.map fun line => line ++ "\n")

namespace Calculator

/-- A calculation and its result with the texts that describe it. -/
structure Evaluation where
  input : String
  expression : String
  unit : LengthUnit
  amount : Decimal
  result : String
  deriving Repr, DecidableEq

/-- The JSON value of an evaluation. -/
def Evaluation.toJson (evaluation : Evaluation) : Json :=
  .ofFields [
    ("input", .ofText evaluation.input),
    ("expression", .ofText evaluation.expression),
    ("unit", evaluation.unit.toJson),
    ("amount", evaluation.amount.toJson),
    ("result", .ofText evaluation.result)]

/-- Read and calculate an expression, and describe the calculation. -/
def evaluate
    (calculator : Calculator)
    (input target : String) :
    Except Failure Evaluation :=
  match calculator.analyze input with
  | .error failure => .error failure
  | .ok expression =>
      match calculator.calculate expression target with
      | .error failure => .error failure
      | .ok result =>
          .ok {
            input := input
            expression := calculator.pretty expression
            unit := result.unit
            amount := result.amount
            result := calculator.resultText result }

/-- The report of a value, as JSON or as the result alone. -/
def valueReport
    (calculator : Calculator)
    (input target : String)
    (asJson : Bool) :
    Except Failure String :=
  (calculator.evaluate input target).map fun evaluation =>
    if asJson then
      evaluation.toJson.indentedText ++ "\n"
    else
      evaluation.result ++ "\n"

/-- The report of the canonical text of an expression. -/
def prettyReport
    (calculator : Calculator)
    (input : String) :
    Except Failure String :=
  (calculator.analyze input).map fun expression =>
    calculator.pretty expression ++ "\n"

/-- The line of the units that make up an inch. -/
def inchLine (calculator : Calculator) : String :=
  "1in = " ++ calculator.options.decimalText LengthUnit.millimetersPerInch ++
    "mm = " ++ calculator.options.decimalText LengthUnit.pointsPerInch ++
    "pt = " ++ calculator.options.decimalText LengthUnit.pixelsPerInch ++ "px"

/-- The report of the units: their counts per inch and the table of ratios. -/
def unitsReport (calculator : Calculator) : String :=
  let header := LengthUnit.all.map fun target => alignRight 12 target.code
  let row := fun (source : LengthUnit) =>
    alignRight 6 source.code ++
      String.join (LengthUnit.all.map fun target =>
        alignRight 12 (LengthUnit.ratio source target).text)
  unlines
    (calculator.inchLine :: "" ::
      (alignRight 6 "" ++ String.join header) ::
      LengthUnit.all.map row)

end Calculator

/-- The report of the tokens of a text, one on each line. -/
def tokensReport (input : String) : Except Failure String :=
  (tokenize input).map fun tokens => unlines (tokens.map Token.text)

end LengthCalc
