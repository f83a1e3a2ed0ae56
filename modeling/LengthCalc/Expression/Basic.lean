import LengthCalc.Decimal.Rounding
import LengthCalc.LengthUnit.Basic

namespace LengthCalc

/-!
# Expressions

Sums and differences of measurements.  A group is kept in the tree only where
it holds a sum or a difference; `Expression.group` is the constructor that
keeps this rule, and the bare constructor `brackets` is there for trees that do
not follow it.
-/

/-- A signed amount of one unit. -/
structure Measurement where
  amount : Decimal
  unit : LengthUnit
  deriving Repr, DecidableEq, Inhabited

/-- A tree of sums and differences over measurements. -/
inductive Expression where
  | measurement (leaf : Measurement)
  | addition (left right : Expression)
  | subtraction (left right : Expression)
  | brackets (inner : Expression)
  deriving Repr, DecidableEq, Inhabited

namespace Measurement

/-- Equal amounts, whatever their scales are, of the same unit. -/
def sameValue (left right : Measurement) : Bool :=
  left.amount.sameValue right.amount && left.unit == right.unit

/-- The measurement with its amount written as briefly as possible. -/
def normalize (measurement : Measurement) : Measurement :=
  { measurement with amount := measurement.amount.normalize }

end Measurement

namespace Expression

/-- The expression of a single measurement. -/
def ofAmount (amount : Decimal) (unit : LengthUnit) : Expression :=
  .measurement ⟨amount, unit⟩

/-- Whether a tree can be an operand as it is: a measurement or a group. -/
def isFactor : Expression → Bool
  | .measurement _ => true
  | .brackets _ => true
  | .addition _ _ => false
  | .subtraction _ _ => false

/-- Whether a tree is a term; a term is nothing but a factor. -/
def isTerm (expression : Expression) : Bool :=
  expression.isFactor

/-- Put a tree into a group, unless it is a measurement or a group already. -/
def group (expression : Expression) : Expression :=
  if expression.isFactor then expression else .brackets expression

/-- The number of nodes of a tree. -/
def nodeCount : Expression → Nat
  | .measurement _ => 1
  | .addition left right => 1 + left.nodeCount + right.nodeCount
  | .subtraction left right => 1 + left.nodeCount + right.nodeCount
  | .brackets inner => 1 + inner.nodeCount

/-- Equal shapes with equal units and numerically equal amounts. -/
def sameValue : Expression → Expression → Bool
  | .measurement left, .measurement right =>
      left.sameValue right
  | .addition left right, .addition left' right' =>
      left.sameValue left' && right.sameValue right'
  | .subtraction left right, .subtraction left' right' =>
      left.sameValue left' && right.sameValue right'
  | .brackets left, .brackets right =>
      left.sameValue right
  | _, _ => false

/-- The tree with every amount written as briefly as possible. -/
def normalize : Expression → Expression
  | .measurement leaf => .measurement leaf.normalize
  | .addition left right => .addition left.normalize right.normalize
  | .subtraction left right => .subtraction left.normalize right.normalize
  | .brackets inner => .brackets inner.normalize

/-- Every tree has a node. -/
theorem nodeCount_pos (expression : Expression) : 0 < expression.nodeCount := by
  cases expression <;> simp only [nodeCount] <;> omega

end Expression

end LengthCalc
