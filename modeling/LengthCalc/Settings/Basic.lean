import LengthCalc.Failure
import LengthCalc.Format.Number

namespace LengthCalc

/-!
# Settings

What a user can choose once for all commands: the unit of results, the length
of the history, the number format and the log.  Settings may be read and still
make no sense; `Settings.fault?` says what is wrong with them first.
-/

/-- How much is logged and in which form. -/
structure LogSettings where
  level : String := "warn"
  json : Bool := false
  deriving Repr, DecidableEq, Inhabited

/-- The choices of a user. -/
structure Settings where
  defaultUnit : String := "mm"
  historyLimit : Nat := 100
  format : FormatOptions := {}
  logging : LogSettings := {}
  deriving Repr, DecidableEq, Inhabited

/-- What is wrong with settings. -/
inductive SettingsFault where
  /-- The default unit is not a unit. -/
  | unknownUnit (failure : Failure)
  /-- The history would not hold any calculation. -/
  | emptyHistory
  /-- More digits are asked for than a decimal has. -/
  | tooManyDigits
  /-- The log level is not one of the known ones. -/
  | unknownLevel
  deriving Repr, DecidableEq

namespace Settings

/-- The unit that results are given in. -/
def targetUnit (settings : Settings) : Except Failure LengthUnit :=
  LengthUnit.ofCode settings.defaultUnit

/-- What a default unit that is not a unit is reported as. -/
def unitContext : String :=
  "Invalid default unit"

/-- The names of the log levels. -/
def logLevels : List String :=
  ["trace", "debug", "info", "warn", "error", "off"]

/-- The largest number of fraction digits that a decimal has. -/
def largestFractionDigits : Nat :=
  28

/-- The first thing that is wrong with settings, if there is one. -/
def fault? (settings : Settings) : Option SettingsFault :=
  match settings.targetUnit with
  | .error failure => some (.unknownUnit failure)
  | .ok _ =>
      if settings.historyLimit = 0 then
        some .emptyHistory
      else if largestFractionDigits < settings.format.maxFractionDigits then
        some .tooManyDigits
      else if logLevels.all fun level =>
          LengthUnit.foldCase settings.logging.level != level.toList then
        some .unknownLevel
      else
        none

end Settings

/-- The wording of what is wrong with settings. -/
def SettingsFault.message : SettingsFault → String
  | .unknownUnit failure => "default_unit: " ++ failure.message
  | .emptyHistory => "history_limit must be at least 1"
  | .tooManyDigits =>
      "format.max_fraction_digits must not exceed " ++
        Settings.largestFractionDigits.repr
  | .unknownLevel =>
      "logging.level must be one of " ++
        String.intercalate ", " Settings.logLevels

end LengthCalc
