import LengthCalc.Expression.Totals
import LengthCalc.Failure
import LengthCalc.LengthUnit.Ratio
import LengthCalc.Text.Blank

namespace LengthCalc

/-!
# Conversion

The totals of an expression are scaled into one unit and added up, in the order
of the units.
-/

namespace Totals

/-- Add the total of one unit, scaled into the target, to a running sum. -/
def addConverted?
    (target : LengthUnit)
    (sum : Decimal)
    (entry : LengthUnit × Decimal) :
    Option Decimal :=
  match entry.2.mul? (LengthUnit.ratio entry.1 target) with
  | none => none
  | some scaled => sum.add? scaled

/-- All totals as one amount of the target unit. -/
def convert? (totals : Totals) (target : LengthUnit) : Option Decimal :=
  totals.entries.foldlM (addConverted? target) .zero

end Totals

namespace Expression

/-- The value of an expression in a unit, if nothing leaves its range. -/
def convert? (expression : Expression) (target : LengthUnit) :
    Option Measurement :=
  match expression.totals? with
  | none => none
  | some totals =>
      (totals.convert? target).map fun amount => ⟨amount, target⟩

/-- The totals of an expression, or the failure of a number out of range. -/
def totals (expression : Expression) : Except Failure Totals :=
  match expression.totals? with
  | some totals => .ok totals
  | none => .error .overflow

/-- The value of an expression in a unit, or the failure. -/
def convert (expression : Expression) (target : LengthUnit) :
    Except Failure Measurement :=
  match expression.convert? target with
  | some result => .ok result
  | none => .error .overflow

/--
The value of an expression in the unit that a code names; blanks around the
code do not count, and the code is looked up before anything is added.
-/
def calculate (expression : Expression) (targetCode : String) :
    Except Failure Measurement :=
  match LengthUnit.ofCode (trim targetCode) with
  | .ok target => expression.convert target
  | .error failure => .error failure

end Expression

end LengthCalc
