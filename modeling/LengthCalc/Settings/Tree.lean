import LengthCalc.Entries
import LengthCalc.Settings.Scalar

namespace LengthCalc

/-!
# Setting trees

Settings before they are converted: scalars in tables and lists.  Trees are put
on top of each other key by key: what is set last wins, and tables of the same
name are merged.  Names are compared without regard to the case of ASCII
letters.
-/

/-- A setting, or several ones. -/
inductive Setting where
  /-- A place in a list that was not set. -/
  | nothing
  | scalar (value : Scalar)
  | list (items : List Setting)
  | table (entries : List (String × Setting))
  deriving Inhabited

/-- The named settings of a table. -/
abbrev SettingTable : Type :=
  Entries Setting

namespace Setting

/-- The entries of a table; any other setting has none. -/
def entries : Setting → SettingTable
  | .table entries => entries
  | _ => []

/-- The items of a list; any other setting has none. -/
def items : Setting → List Setting
  | .list items => items
  | _ => []

/-- The setting of a name in a table. -/
def child (setting : Setting) (name : String) : Setting :=
  (setting.entries.get? name).getD .nothing

mutual

/-- Put a setting on top of another one, which it replaces or is merged into. -/
def overlay (present : Setting) : Setting → Setting
  | .table entries =>
      match present with
      | .nothing => overlayEntries (.table []) entries
      | present => overlayEntries present entries
  | replacement => replacement

/--
Put the entries of a table on top of a setting.  What is not a table becomes
one as soon as there is an entry.
-/
def overlayEntries (present : Setting) : List (String × Setting) → Setting
  | [] => present
  | (name, setting) :: rest =>
      let key := lowercase name
      overlayEntries
        (.table
          (present.entries.insert key (overlay (present.child key) setting)))
        rest

end

end Setting

end LengthCalc
