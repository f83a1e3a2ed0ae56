import LengthCalc.CommandLine.Arguments
import LengthCalc.Repl
import LengthCalc.Settings.Layers

namespace LengthCalc

/-!
# Running a command

A command is run on the settings that its file and the environment give, and on
the bytes of its input.  What it comes to is an exit code, what it has written,
and what it reports as an error.
-/

/-- An error with what has caused it, the nearest cause first. -/
structure ErrorReport where
  message : String
  causes : List String := []
  deriving Repr, DecidableEq

namespace ErrorReport

/-- The first line of a report. -/
def firstLine (report : ErrorReport) : String :=
  "Error: " ++ report.message

/-- The causes as lines; more than one are numbered from zero. -/
def causeLines (report : ErrorReport) : List String :=
  match report.causes with
  | [] => []
  | [cause] => ["", "Caused by:", "    " ++ cause]
  | causes =>
      "" :: "Caused by:" ::
        causes.mapIdx fun index cause =>
          alignRight 5 index.repr ++ ": " ++ cause

/-- The complete report. -/
def text (report : ErrorReport) : String :=
  unlines (report.firstLine :: report.causeLines)

end ErrorReport

/-- What a command has written and how it ended. -/
structure Outcome where
  code : Nat := 0
  written : String := ""
  error : Option ErrorReport := none
  deriving Repr, DecidableEq

namespace Outcome

/-- The outcome of nothing but an error. -/
def failed (message : String) (causes : List String) : Outcome :=
  { code := 1
    error := some ⟨message, causes⟩ }

/-- The outcome of a report that may fail. -/
def ofReport (report : Except Failure String) : Outcome :=
  match report with
  | .ok written => { written := written }
  | .error failure => failed failure.message []

/-- The name and the version of the program. -/
def versionLine : String :=
  "unitscalc 0.1.0"

/-- The shape of a command line. -/
def usageLine : String :=
  "Usage: unitscalc [--config <CONFIG>] <eval|pretty|tokens|units|repl> ..."

/-- The outcome of a command line that does not lead to a command. -/
def ofEnding : Arguments.Ending → Outcome
  | .help => { written := unlines [usageLine] }
  | .version => { written := unlines [versionLine] }
  | .misuse =>
      { code := 2
        error := some ⟨"The arguments are not understood", [usageLine]⟩ }

end Outcome

namespace Invocation

/-- The name of the setting file that is used if none is asked for. -/
def defaultFile : String :=
  "unitscalc"

/-- What is behind the last point of a file name, unless the name begins there. -/
def fileKind? (name : String) : Option (List Char) :=
  let last := (name.toList.reverse.takeWhile fun sign => sign != '/').reverse
  let kind := (last.reverse.takeWhile fun sign => sign != '.').reverse
  if kind.length + 1 < last.length then some kind else none

/-- The kind of the files that hold settings. -/
def settingKind : String :=
  "toml"

/--
The content of the setting file with a name.  A file of just that name has to
be of the right kind; if there is none, the kind is added to the name.
-/
def contentAt?
    (contentOf? : String → Option String)
    (name : String) :
    Option String :=
  match contentOf? name with
  | some content =>
      if fileKind? name = some settingKind.toList then some content else none
  | none => contentOf? (name ++ "." ++ settingKind)

/-- The setting file among the files that there are. -/
def settingFile
    (invocation : Invocation)
    (contentOf? : String → Option String) :
    Settings.File :=
  match contentAt? contentOf? (invocation.config.getD defaultFile) with
  | some content => .content content
  | none => if invocation.config.isNone then .absent else .missing

/-- The causes of a failure to read settings. -/
def loadCauses
    (invocation : Invocation)
    (fault : Settings.LoadFault) :
    List String :=
  match fault with
  | .missingFile =>
      [fault.message,
        "configuration file \"" ++ invocation.config.getD defaultFile ++
          "\" not found"]
  | .malformedFile => [fault.message, "the file is not well formed"]
  | .wrongValue => [fault.message, "a value does not fit its setting"]

/-- The error of a session whose input is not text. -/
def unreadableInput : String :=
  "Failed to read input"

/-- The bytes that a session sets aside for a calculation. -/
def calculationSize : Nat :=
  48

/-- The largest number of calculations that a session can ask room for. -/
def historyRoom : Nat :=
  (2 ^ 63 - 1) / calculationSize

/-- The exit code of a session whose history is beyond what can be asked for. -/
def noRoomCode : Nat :=
  101

/-- The exit code of a session that is refused the memory for its history. -/
def noMemoryCode : Nat :=
  134

/-- The bytes that a program can address, and so the most that it is given. -/
def addressSpace : Nat :=
  2 ^ 47

/--
Run a session over its input.  Before the first line it asks for room for all
calculations that it may ever keep, and it ends without a word if it does not
get that in one piece; `memory` is the size of the largest piece to be had.
What is asked for later, for lines, for trees and for the one calculation that
a full history takes in before it drops another, is always given.
-/
def runRepl
    (calculator : Calculator)
    (target : LengthUnit)
    (historyLimit : Nat)
    (input : ByteArray)
    (memory : Nat := addressSpace) :
    Outcome :=
  let transcript :=
    Repl.run calculator (.start target historyLimit) (linesOf input)
  let written := unlines transcript.lines
  if historyRoom < historyLimit then
    { code := noRoomCode }
  else if memory < calculationSize * historyLimit then
    { code := noMemoryCode }
  else if transcript.readable then
    { written := written }
  else
    { code := 1
      written := written
      error :=
        some ⟨unreadableInput, ["stream did not contain valid UTF-8"]⟩ }

/-- Run a command with settings that make sense. -/
def runWith
    (settings : Settings)
    (input : ByteArray)
    (memory : Nat := addressSpace) :
    Command → Outcome
  | .eval expression target asJson =>
      .ofReport
        (Calculator.valueReport ⟨settings.format⟩ expression
          (target.getD settings.defaultUnit) asJson)
  | .pretty expression =>
      .ofReport (Calculator.prettyReport ⟨settings.format⟩ expression)
  | .tokens expression =>
      .ofReport (tokensReport expression)
  | .units =>
      { written := Calculator.unitsReport ⟨settings.format⟩ }
  | .repl none =>
      match settings.targetUnit with
      | .error failure => .failed Settings.unitContext [failure.message]
      | .ok unit =>
          runRepl ⟨settings.format⟩ unit settings.historyLimit input memory
  | .repl (some code) =>
      match LengthUnit.ofCode code with
      | .error failure => .failed "Invalid target unit" [failure.message]
      | .ok unit =>
          runRepl ⟨settings.format⟩ unit settings.historyLimit input memory

/-- Read the settings, check them and run the command. -/
def run
    (invocation : Invocation)
    (file : Settings.File)
    (environment : List (String × String))
    (input : ByteArray)
    (memory : Nat := addressSpace) :
    Outcome :=
  match Settings.load file environment with
  | .error fault =>
      .failed "Failed to load configuration" (invocation.loadCauses fault)
  | .ok settings =>
      match settings.fault? with
      | some fault =>
          .failed ("Invalid configuration: " ++ fault.message) []
      | none => runWith settings input memory invocation.command

end Invocation

end LengthCalc
