import LengthCalc.CommandLine.Run

namespace LengthCalc

/-!
# The program

The outer layer: it fetches the setting file, the environment variables and the
input, runs the command and hands out what was written.
-/

namespace Main

/-- The environment variables that set something, in capitals. -/
def variableNames : List String :=
  ["UNITSCALC__DEFAULT_UNIT", "UNITSCALC__HISTORY_LIMIT",
    "UNITSCALC__FORMAT__MAX_FRACTION_DIGITS", "UNITSCALC__FORMAT__GROUPING",
    "UNITSCALC__LOGGING__LEVEL", "UNITSCALC__LOGGING__JSON"]

/-- The content of a file, if it can be read. -/
def contentOf? (name : String) : IO (Option String) := do
  try
    return some (← IO.FS.readFile name)
  catch _ =>
    return none

/-- The setting files that a command may use, with their contents. -/
def settingFiles (invocation : Invocation) : IO (List (String × String)) := do
  let name := invocation.config.getD Invocation.defaultFile
  [name, name ++ "." ++ Invocation.settingKind].filterMapM fun name => do
    return (← contentOf? name).map fun content => (name, content)

/-- The block of all environment variables, where the system shows it. -/
def environmentFile : String :=
  "/proc/self/environ"

/-- The variables of a block, in which a null character ends each of them. -/
def bindingsOf (block : String) : List (String × String) :=
  (block.splitOn "\x00").filterMap fun entry =>
    match entry.splitOn "=" with
    | name :: first :: rest =>
        some (name, String.intercalate "=" (first :: rest))
    | _ => none

/--
The environment variables that are set, with their texts.  Their names count in
any case, so all of them are needed; where the system does not show them, they
can only be asked for as they are usually spelled.
-/
def environment : IO (List (String × String)) := do
  match ← contentOf? environmentFile with
  | some block => return bindingsOf block
  | none =>
      variableNames.filterMapM fun name => do
        return (← IO.getEnv name).map fun value => (name, value)

/-- All bytes of the standard input, if the command reads it. -/
def inputFor (command : Command) : IO ByteArray := do
  match command with
  | .repl _ => (← IO.getStdin).readBinToEnd
  | _ => return .empty

/-- Run a command on what it needs from outside. -/
def runInvocation (invocation : Invocation) : IO Outcome := do
  let files ← settingFiles invocation
  let file := invocation.settingFile fun name => files.lookup name
  return invocation.run file (← environment) (← inputFor invocation.command)

/-- Hand out what a command has written, and give its exit code. -/
def finish (outcome : Outcome) : IO UInt32 := do
  IO.print outcome.written
  match outcome.error with
  | none => pure ()
  | some report => IO.eprint report.text
  return UInt32.ofNat outcome.code

end Main

end LengthCalc

/-- Run the command that the arguments ask for. -/
def main (arguments : List String) : IO UInt32 := do
  match LengthCalc.Invocation.ofArguments arguments with
  | .ok invocation =>
      LengthCalc.Main.finish (← LengthCalc.Main.runInvocation invocation)
  | .error ending =>
      LengthCalc.Main.finish (.ofEnding ending)
