import LengthCalc.Decimal.Signed
import LengthCalc.Expression.Basic

namespace LengthCalc

/-!
# Expressions as they are held

Measurements and expressions whose amounts keep the sign of a zero.  This is
the form in which they are passed on; what they mean does not depend on it.
-/

/-- An amount, whose sign is kept, in a unit. -/
structure StoredMeasurement where
  amount : SignedDecimal
  unit : LengthUnit
  deriving DecidableEq, Repr

/-- A tree of measurements whose amounts keep their signs. -/
inductive StoredExpression where
  | measurement (leaf : StoredMeasurement)
  | addition (left right : StoredExpression)
  | subtraction (left right : StoredExpression)
  | brackets (inner : StoredExpression)
  deriving DecidableEq, Repr

namespace StoredMeasurement

/-- The measurement of the same value and scale. -/
def value (measurement : StoredMeasurement) : Measurement :=
  ⟨measurement.amount.value, measurement.unit⟩

/-- The measurement, without the sign of a zero amount. -/
def withoutZeroSign (measurement : StoredMeasurement) : StoredMeasurement :=
  { measurement with amount := measurement.amount.withoutZeroSign }

end StoredMeasurement

/-- A measurement with the sign of its value. -/
def Measurement.stored (measurement : Measurement) : StoredMeasurement :=
  ⟨.ofDecimal measurement.amount, measurement.unit⟩

namespace StoredExpression

/-- The expression of the same values and scales. -/
def value : StoredExpression → Expression
  | .measurement leaf => .measurement leaf.value
  | .addition left right => .addition left.value right.value
  | .subtraction left right => .subtraction left.value right.value
  | .brackets inner => .brackets inner.value

/-- The expression, without the signs of zero amounts. -/
def withoutZeroSigns : StoredExpression → StoredExpression
  | .measurement leaf => .measurement leaf.withoutZeroSign
  | .addition left right =>
      .addition left.withoutZeroSigns right.withoutZeroSigns
  | .subtraction left right =>
      .subtraction left.withoutZeroSigns right.withoutZeroSigns
  | .brackets inner => .brackets inner.withoutZeroSigns

/-- The measurements of an expression from left to right. -/
def leaves : StoredExpression → List StoredMeasurement
  | .measurement leaf => [leaf]
  | .addition left right => left.leaves ++ right.leaves
  | .subtraction left right => left.leaves ++ right.leaves
  | .brackets inner => inner.leaves

end StoredExpression

/-- An expression whose amounts have the signs of their values. -/
def Expression.stored : Expression → StoredExpression
  | .measurement leaf => .measurement leaf.stored
  | .addition left right => .addition left.stored right.stored
  | .subtraction left right => .subtraction left.stored right.stored
  | .brackets inner => .brackets inner.stored

end LengthCalc
