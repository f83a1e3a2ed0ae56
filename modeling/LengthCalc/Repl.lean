import LengthCalc.History
import LengthCalc.Report
import LengthCalc.Text.Line

namespace LengthCalc

/-!
# Line sessions

A session reads lines.  A line is an expression, which is calculated into the
target unit of the session and remembered, or a command, which begins with a
colon.  Nothing that is wrong with a line ends the session; a command does.
-/

namespace Repl

/-- What a line asks for. -/
inductive Request where
  /-- Nothing. -/
  | blank
  /-- The end of the session. -/
  | quit
  /-- A list of what was calculated. -/
  | history
  /-- Another target unit. -/
  | target (code : String)
  /-- A command that there is not. -/
  | unknown (name : String)
  /-- The value of an expression. -/
  | evaluate (text : String)
  deriving Repr, DecidableEq

/-- The command with a name and an argument. -/
def Request.ofCommand (name argument : String) : Request :=
  if name = "quit" ∨ name = "q" then
    .quit
  else if name = "history" then
    .history
  else if name = "to" then
    .target argument
  else
    .unknown name

/-- What a line asks for; blanks at its ends do not count. -/
def Request.ofLine (line : String) : Request :=
  let trimmed := trim line
  match trimmed.toList with
  | [] => .blank
  | ':' :: command =>
      let (name, argument) := splitAtBlank command
      .ofCommand (String.ofList name) (trim (String.ofList argument))
  | _ => .evaluate trimmed

end Repl

/-- The target unit and the memory of a session. -/
structure Repl where
  target : LengthUnit
  history : History

namespace Repl

/-- The session before its first line. -/
def start (target : LengthUnit) (historyLimit : Nat) : Repl :=
  ⟨target, .empty historyLimit⟩

/-- The line that shows a calculation. -/
def calculationLine
    (calculator : Calculator)
    (calculation : Calculation) :
    String :=
  calculator.pretty calculation.expression ++ " = " ++
    calculator.resultText calculation.result

/-- The line that reports a failure. -/
def failureLine (failure : Failure) : String :=
  "error: " ++ failure.message

/-- Calculate an expression into a unit. -/
def calculation
    (calculator : Calculator)
    (target : LengthUnit)
    (text : String) :
    Except Failure Calculation :=
  match calculator.analyze text with
  | .error failure => .error failure
  | .ok expression =>
      (calculator.calculate expression target.code).map fun result =>
        ⟨expression, result⟩

/-- The lines that list a history, numbered from one. -/
def historyLines
    (calculator : Calculator)
    (history : History) :
    List String :=
  history.entries.mapIdx fun index calculation =>
    alignRight 3 (index + 1).repr ++ "  " ++
      calculationLine calculator calculation

/--
The session after a request and the lines that answer it; a session that is
over has no state.
-/
def step
    (calculator : Calculator)
    (session : Repl) :
    Request → Option (Repl × List String)
  | .blank => some (session, [])
  | .quit => none
  | .history => some (session, historyLines calculator session.history)
  | .target code =>
      match LengthUnit.ofCode code with
      | .ok unit =>
          some ({ session with target := unit }, ["target unit: " ++ unit.code])
      | .error failure => some (session, [failureLine failure])
  | .unknown name =>
      some (session, ["error: unknown command ':" ++ name ++ "'"])
  | .evaluate text =>
      match calculation calculator session.target text with
      | .ok calculation =>
          some ({ session with history := session.history.push calculation },
            [calculationLine calculator calculation])
      | .error failure => some (session, [failureLine failure])

/-- What a whole session has written, and whether its input was text. -/
structure Transcript where
  lines : List String
  readable : Bool
  deriving Repr, DecidableEq

/--
The transcript of a session over the lines of its input; it ends at a line that
is not text, with a command that says so, or behind the last line.
-/
def run
    (calculator : Calculator)
    (session : Repl) :
    List (Option String) → Transcript
  | [] => ⟨[], true⟩
  | none :: _ => ⟨[], false⟩
  | some line :: later =>
      match step calculator session (.ofLine line) with
      | none => ⟨[], true⟩
      | some (next, written) =>
          let transcript := run calculator next later
          ⟨written ++ transcript.lines, transcript.readable⟩

end Repl

end LengthCalc
