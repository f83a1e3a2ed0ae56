import LengthCalc.Decimal.Rounding

namespace LengthCalc

/-!
# Checked arithmetic

Sums and products are computed exactly and then fitted: the result keeps the
largest scale at which the rounded coefficient is in bounds.  Where even scale
zero is too large there is no result.
-/

namespace Decimal

/--
Fit `coefficient / 10 ^ scale` at the largest scale that is at most `kept`,
rounding to the nearest value and a half to the even one.
-/
def fitAt?
    (coefficient : Int)
    (scale : Nat) :
    (kept : Nat) → kept ≤ 28 → Option Decimal
  | 0, keptBound =>
      let rounded := nearestEven coefficient (10 ^ scale)
      if bounded : rounded.natAbs < 2 ^ 96 then
        some ⟨rounded, 0, bounded, keptBound⟩
      else
        none
  | kept + 1, keptBound =>
      let rounded := nearestEven coefficient (10 ^ (scale - (kept + 1)))
      if bounded : rounded.natAbs < 2 ^ 96 then
        some ⟨rounded, kept + 1, bounded, keptBound⟩
      else
        fitAt? coefficient scale kept (scale_le_of_succ keptBound)

/-- The decimal closest to `coefficient / 10 ^ scale`, if it is in range. -/
def fit? (coefficient : Int) (scale : Nat) : Option Decimal :=
  fitAt? coefficient scale (min scale 28) (Nat.min_le_right scale 28)

/--
The checked sum.  A zero operand leaves the other one as it is; otherwise the
operands are aligned to the larger scale, added exactly and fitted.
-/
def add? (left right : Decimal) : Option Decimal :=
  if left.coefficient = 0 then
    some right
  else if right.coefficient = 0 then
    some left
  else
    let scale := max left.scale right.scale
    fit? (left.coefficientAt scale + right.coefficientAt scale) scale

/-- The checked difference: the sum with the opposite of the second operand. -/
def sub? (left right : Decimal) : Option Decimal :=
  left.add? right.neg

/--
The checked product.  A zero factor gives zero at scale zero; otherwise the
scales are added, the product is exact and then fitted.
-/
def mul? (left right : Decimal) : Option Decimal :=
  if left.coefficient = 0 ∨ right.coefficient = 0 then
    some zero
  else
    fit? (left.coefficient * right.coefficient) (left.scale + right.scale)

end Decimal

end LengthCalc
