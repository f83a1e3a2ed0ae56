namespace LengthCalc

/-!
# Bounded decimals

A decimal is an integer coefficient over a power of ten.  The coefficient keeps
its magnitude below `2 ^ 96` and the scale is at most `28`; both bounds are part
of the type.  The scale is kept as written, so `1.50` and `1.5` are different
decimals with the same value.  There is no negative zero: nothing that is read or
computed depends on the sign of a zero.  Where it is held and passed on, the
decimal is a `SignedDecimal`.
-/

-- Powers are those of the core library, whatever other instances are imported.
attribute [instance (high + 1), default_instance (high + 1)] instPowNat

/-- A coefficient divided by ten to the power of a scale. -/
structure Decimal where
  coefficient : Int
  scale : Nat
  coefficient_lt : coefficient.natAbs < 2 ^ 96
  scale_le : scale ≤ 28
  deriving DecidableEq, Repr

namespace Decimal

/-- A value may have no decimal place. -/
theorem zero_scale_le : 0 ≤ 28 := by
  decide

/-- A value may have one decimal place. -/
theorem one_scale_le : 1 ≤ 28 := by
  decide

/-- A value may have two decimal places. -/
theorem two_scale_le : 2 ≤ 28 := by
  decide

/-- A value may have fewer decimal places. -/
theorem scale_le_of_succ
    {scale : Nat}
    (bound : scale + 1 ≤ 28) :
    scale ≤ 28 :=
  Nat.le_of_succ_le bound

/-- Zero written without a fraction. -/
def zero : Decimal :=
  ⟨0, 0, by decide, zero_scale_le⟩

/-- One written without a fraction. -/
def one : Decimal :=
  ⟨1, 0, by decide, zero_scale_le⟩

instance : Inhabited Decimal :=
  ⟨zero⟩

/-- The exact rational value of a decimal. -/
def toRat (value : Decimal) : Rat :=
  mkRat value.coefficient (10 ^ value.scale)

/-- The decimal of opposite sign and the same scale. -/
def neg (value : Decimal) : Decimal :=
  ⟨-value.coefficient, value.scale, by
    simpa using value.coefficient_lt, value.scale_le⟩

/-- Numeric equality: equal values, whatever the scales are. -/
def sameValue (left right : Decimal) : Bool :=
  left.coefficient * 10 ^ right.scale ==
    right.coefficient * 10 ^ left.scale

/-- The coefficient that `value` has when it is written at a larger scale. -/
def coefficientAt (value : Decimal) (scale : Nat) : Int :=
  value.coefficient * 10 ^ (scale - value.scale)

@[simp] theorem neg_coefficient (value : Decimal) :
    value.neg.coefficient = -value.coefficient :=
  rfl

@[simp] theorem neg_scale (value : Decimal) :
    value.neg.scale = value.scale :=
  rfl

/-- A decimal is determined by its coefficient and its scale. -/
theorem ext_of_parts
    {left right : Decimal}
    (coefficients : left.coefficient = right.coefficient)
    (scales : left.scale = right.scale) :
    left = right := by
  cases left
  cases right
  simp_all

end Decimal

end LengthCalc
