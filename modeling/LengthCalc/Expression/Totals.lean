import LengthCalc.Decimal.Arithmetic
import LengthCalc.Expression.Basic

namespace LengthCalc

/-!
# Totals

An expression is added up unit by unit, without any conversion.  Its leaves are
visited from left to right; a leaf counts negatively when it stands in the
right operand of an odd number of subtractions.
-/

/-- The running total of every unit that has occurred. -/
structure Totals where
  millimeter : Option Decimal := none
  centimeter : Option Decimal := none
  inch : Option Decimal := none
  pixel : Option Decimal := none
  point : Option Decimal := none
  deriving Repr, DecidableEq, Inhabited

namespace Totals

/-- No unit has occurred. -/
def empty : Totals :=
  {}

/-- The total of a unit, if it has occurred. -/
def get? (totals : Totals) : LengthUnit → Option Decimal
  | .millimeter => totals.millimeter
  | .centimeter => totals.centimeter
  | .inch => totals.inch
  | .pixel => totals.pixel
  | .point => totals.point

/-- Replace the total of a unit. -/
def insert (totals : Totals) (unit : LengthUnit) (amount : Decimal) : Totals :=
  match unit with
  | .millimeter => { totals with millimeter := some amount }
  | .centimeter => { totals with centimeter := some amount }
  | .inch => { totals with inch := some amount }
  | .pixel => { totals with pixel := some amount }
  | .point => { totals with point := some amount }

/-- The total of a unit, zero if it has not occurred. -/
def amount (totals : Totals) (unit : LengthUnit) : Decimal :=
  (totals.get? unit).getD .zero

/-- The units that have occurred with their totals, in the order of the units. -/
def entries (totals : Totals) : List (LengthUnit × Decimal) :=
  LengthUnit.all.filterMap fun unit =>
    (totals.get? unit).map fun amount => (unit, amount)

/-- Count one leaf, added or subtracted. -/
def count?
    (totals : Totals)
    (negated : Bool)
    (leaf : Measurement) :
    Option Totals :=
  let current := totals.amount leaf.unit
  let updated :=
    if negated then current.sub? leaf.amount else current.add? leaf.amount
  updated.map fun amount => totals.insert leaf.unit amount

/-- Only the total of the unit at hand is replaced. -/
@[simp] theorem get?_insert
    (totals : Totals)
    (unit other : LengthUnit)
    (amount : Decimal) :
    (totals.insert unit amount).get? other =
      if other = unit then some amount else totals.get? other := by
  cases unit <;> cases other <;> rfl

@[simp] theorem get?_empty (unit : LengthUnit) :
    empty.get? unit = none := by
  cases unit <;> rfl

/-- Totals that agree at every unit are equal. -/
theorem ext_get?
    {left right : Totals}
    (same : ∀ unit, left.get? unit = right.get? unit) :
    left = right := by
  have millimeter := same .millimeter
  have centimeter := same .centimeter
  have inch := same .inch
  have pixel := same .pixel
  have point := same .point
  cases left
  cases right
  simp_all [get?]

end Totals

namespace Expression

/-- The number of nodes in a list of pending trees. -/
def pendingSize : List (Expression × Bool) → Nat
  | [] => 0
  | (expression, _) :: pending => expression.nodeCount + pendingSize pending

/--
Count the leaves of all pending trees, each tree with the sign that it was
reached with; the first pending tree comes first.
-/
def countPending?
    (totals : Totals) :
    List (Expression × Bool) → Option Totals
  | [] =>
      some totals
  | (.measurement leaf, negated) :: pending =>
      match totals.count? negated leaf with
      | none => none
      | some updated => countPending? updated pending
  | (.addition left right, negated) :: pending =>
      countPending? totals ((left, negated) :: (right, negated) :: pending)
  | (.subtraction left right, negated) :: pending =>
      countPending? totals ((left, negated) :: (right, !negated) :: pending)
  | (.brackets inner, negated) :: pending =>
      countPending? totals ((inner, negated) :: pending)
termination_by pending => pendingSize pending
decreasing_by
  all_goals simp only [pendingSize, nodeCount]
  all_goals omega

/-- The total of every unit that occurs, if none leaves its range. -/
def totals? (expression : Expression) : Option Totals :=
  countPending? .empty [(expression, false)]

end Expression

end LengthCalc
