import LengthCalc.Settings.Basic
import LengthCalc.Settings.File

namespace LengthCalc

/-!
# Layers of settings

Settings come from three layers: what is built in, a file, and environment
variables, each later one winning over the earlier ones key by key.  A value is
converted only after the layers are put together, so that a value which is
overridden need not make sense.
-/

namespace Settings

/-- What the names of environment variables begin with, in small letters. -/
def variableHead : List Char :=
  ['u', 'n', 'i', 't', 's', 'c', 'a', 'l', 'c', '_', '_']

/-- The characters of a name with a point for every double underscore. -/
def withPoints : List Char → List Char
  | [] => []
  | '_' :: '_' :: rest => '.' :: withPoints rest
  | character :: rest => character :: withPoints rest

/-- The key that a variable sets, if it has to do with settings. -/
def variableKey? (name : String) : Option String :=
  let folded := name.toList.map Char.toLower
  if variableHead.isPrefixOf folded then
    some (String.ofList (withPoints (folded.drop variableHead.length)))
  else
    none

/-- The settings after one environment variable. -/
def withVariable (settings : Setting) (binding : String × String) : Setting :=
  match variableKey? binding.1 with
  | some key => settings.set key (.scalar (.ofVariable binding.2))
  | none => settings

/-- The environment on top of the file. -/
def layered
    (file : SettingTable)
    (environment : List (String × String)) :
    Setting :=
  environment.foldl withVariable (Setting.withFile (.table []) file)

/-- The value of a field: its converted setting, else what is built in. -/
def fieldValue?
    {α : Type}
    (convert? : Scalar → Option α)
    (default : α) :
    Option Setting → Option α
  | none => some default
  | some (.scalar value) => convert? value
  | some _ => none

/--
What a section holds for a field.  A section is a table, which names its
fields, or a list, in which they are known by their position.
-/
def sectionField? (name : String) (position : Nat) : Setting → Option Setting
  | .table entries => entries.lookup name
  | .list items => items[position]?
  | _ => none

/-- The value of a section: read from its setting, else what is built in. -/
def sectionValue?
    {α : Type}
    (read? : Setting → Option α)
    (default : α) :
    Option Setting → Option α
  | none => some default
  | some .nothing => none
  | some (.scalar _) => none
  | some part => read? part

/-- The largest number of digits that can be asked for. -/
def digitsBound : Nat :=
  2 ^ 32 - 1

/-- The number format of a section. -/
def formatOf? (part : Setting) : Option FormatOptions := do
  let default : FormatOptions := {}
  let maxFractionDigits ←
    fieldValue? (Scalar.toNatural? digitsBound) default.maxFractionDigits
      (sectionField? "max_fraction_digits" 0 part)
  let grouping ←
    fieldValue? Scalar.toFlag? default.grouping
      (sectionField? "grouping" 1 part)
  return ⟨maxFractionDigits, grouping⟩

/-- The log settings of a section. -/
def loggingOf? (part : Setting) : Option LogSettings := do
  let default : LogSettings := {}
  let level ←
    fieldValue? (fun value => some value.toText) default.level
      (sectionField? "level" 0 part)
  let json ←
    fieldValue? Scalar.toFlag? default.json (sectionField? "json" 1 part)
  return ⟨level, json⟩

/-- The settings of a table; unknown names do not count. -/
def ofTable? (table : SettingTable) : Option Settings := do
  let default : Settings := {}
  let defaultUnit ←
    fieldValue? (fun value => some value.toText) default.defaultUnit
      (table.get? "default_unit")
  let historyLimit ←
    fieldValue? (Scalar.toNatural? Scalar.largestWord) default.historyLimit
      (table.get? "history_limit")
  let format ←
    sectionValue? formatOf? default.format (table.get? "format")
  let logging ←
    sectionValue? loggingOf? default.logging (table.get? "logging")
  return ⟨defaultUnit, historyLimit, format, logging⟩

/-- What can be at the place of a setting file. -/
inductive File where
  /-- No file is asked for and none is there. -/
  | absent
  /-- The file that is asked for is not there. -/
  | missing
  | content (text : String)
  deriving Repr, DecidableEq

/-- Why settings are not read. -/
inductive LoadFault where
  | missingFile
  | malformedFile
  | wrongValue
  deriving Repr, DecidableEq

/-- The wording of why settings are not read. -/
def LoadFault.message : LoadFault → String
  | .missingFile => "Failed to read configuration sources"
  | .malformedFile => "Failed to read configuration sources"
  | .wrongValue => "Failed to deserialize configuration"

/-- The table of a setting file.  A byte order mark in front does not count. -/
def fileTable : File → Except LoadFault SettingTable
  | .absent => .ok []
  | .missing => .error .missingFile
  | .content text =>
      match Toml.ofChars? (Toml.withoutMark text.toList) with
      | some table => .ok (Toml.tableSettings table)
      | none => .error .malformedFile

/-- The settings of a file and the environment. -/
def load
    (file : File)
    (environment : List (String × String)) :
    Except LoadFault Settings :=
  match fileTable file with
  | .error fault => .error fault
  | .ok table =>
      match ofTable? (layered table environment).entries with
      | some settings => .ok settings
      | none => .error .wrongValue

end Settings

end LengthCalc
