import LengthCalc.Settings.Path
import LengthCalc.Toml.Document

namespace LengthCalc

/-!
# Settings of a file

The tree of settings that a file defines.  The keys at the top of a file may be
paths; those further down are names as they stand.
-/

namespace Toml

mutual

/-- The setting of a value of a file. -/
def Node.toSetting : Node → Setting
  | .scalar value => .scalar value
  | .list items => .list (listSettings items)
  | .table _ entries => .table (tableSettings entries)
  | .tables earlier last =>
      .list (sectionSettings earlier ++ [.table (tableSettings last)])

/-- The settings of the items of a list. -/
def listSettings : List Node → List Setting
  | [] => []
  | item :: rest => item.toSetting :: listSettings rest

/-- The settings of the keys of a table. -/
def tableSettings : List (String × Node) → SettingTable
  | [] => []
  | (key, node) :: rest => (key, node.toSetting) :: tableSettings rest

/-- The settings of the tables of a repeatable header. -/
def sectionSettings : List (List (String × Node)) → List Setting
  | [] => []
  | table :: rest => .table (tableSettings table) :: sectionSettings rest

end

end Toml

namespace Setting

/-- Put the settings of a file on top of others. -/
def withFile (present : Setting) (table : SettingTable) : Setting :=
  table.foldl (fun setting (key, value) => setting.set key value) present

end Setting

end LengthCalc
