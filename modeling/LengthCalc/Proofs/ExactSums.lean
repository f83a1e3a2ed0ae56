import LengthCalc.Decimal.Arithmetic
import LengthCalc.Proofs.RoundingLaws

namespace LengthCalc

/-!
# Exact sums

Every decimal is a whole number of units of the smallest positive one.  In
these units a sum is exact as long as its coefficient fits at a scale that both
operands have room in.
-/

namespace Decimal

/-- Writing a decimal at a larger scale appends zeros to its coefficient. -/
theorem coefficientAt_of_le
    {value : Decimal}
    {scale larger : Nat}
    (within : value.scale ≤ scale)
    (grows : scale ≤ larger) :
    value.coefficientAt larger =
      value.coefficientAt scale * 10 ^ (larger - scale) := by
  have places :
      larger - value.scale = (scale - value.scale) + (larger - scale) := by
    omega
  rw [coefficientAt, coefficientAt, places, Int.pow_add, Int.mul_assoc]

@[simp] theorem coefficientAt_neg (value : Decimal) (scale : Nat) :
    value.neg.coefficientAt scale = -value.coefficientAt scale :=
  Int.neg_mul _ _

/-- The value in units of the smallest positive decimal. -/
def worth (value : Decimal) : Int :=
  value.coefficientAt 28

@[simp] theorem worth_neg (value : Decimal) :
    value.neg.worth = -value.worth :=
  value.coefficientAt_neg 28

@[simp] theorem worth_zero : zero.worth = 0 :=
  rfl

/-- Decimals are numerically equal exactly if they are worth the same. -/
theorem sameValue_iff (left right : Decimal) :
    left.sameValue right = true ↔ left.worth = right.worth := by
  have leftWorth :
      left.worth * 10 ^ (left.scale + right.scale) =
        left.coefficient * 10 ^ right.scale * 10 ^ 28 := by
    have places :
        28 - left.scale + (left.scale + right.scale) = right.scale + 28 := by
      have bound := left.scale_le
      omega
    rw [worth, coefficientAt, Int.mul_assoc, Int.mul_assoc, ← Int.pow_add,
      ← Int.pow_add, places]
  have rightWorth :
      right.worth * 10 ^ (left.scale + right.scale) =
        right.coefficient * 10 ^ left.scale * 10 ^ 28 := by
    have places :
        28 - right.scale + (left.scale + right.scale) = left.scale + 28 := by
      have bound := right.scale_le
      omega
    rw [worth, coefficientAt, Int.mul_assoc, Int.mul_assoc, ← Int.pow_add,
      ← Int.pow_add, places]
  have positive (places : Nat) : (10 : Int) ^ places ≠ 0 :=
    Int.pow_ne_zero (by decide)
  rw [sameValue, beq_iff_eq, ← Int.mul_eq_mul_right_iff (positive 28),
    ← leftWorth, ← rightWorth, Int.mul_eq_mul_right_iff (positive _)]

/-- Dropping trailing zeros does not change the value. -/
theorem coefficientAt_withoutTrailingZeros
    (coefficient : Int)
    (bounded : coefficient.natAbs < 2 ^ 96)
    (scale : Nat)
    (scaleBound : scale ≤ 28)
    {larger : Nat}
    (within : scale ≤ larger) :
    (withoutTrailingZeros coefficient bounded scale scaleBound).coefficientAt
        larger =
      coefficient * 10 ^ (larger - scale) := by
  fun_induction withoutTrailingZeros coefficient bounded scale scaleBound with
  | case1 => rfl
  | case2 coefficient _ scale _ divisible inductionHypothesis =>
      have places : larger - scale = 1 + (larger - (scale + 1)) := by
        omega
      have dropped : coefficient / 10 * 10 = coefficient := by
        omega
      rw [inductionHypothesis (by omega), places, Int.pow_add,
        ← Int.mul_assoc, Int.pow_one, dropped]
  | case3 => rfl

theorem coefficientAt_normalize
    {value : Decimal}
    {scale : Nat}
    (within : value.scale ≤ scale) :
    value.normalize.coefficientAt scale = value.coefficientAt scale :=
  coefficientAt_withoutTrailingZeros _ _ _ _ within

@[simp] theorem worth_normalize (value : Decimal) :
    value.normalize.worth = value.worth :=
  coefficientAt_normalize value.scale_le

/-- A coefficient in bounds needs no rounding. -/
theorem fit?_of_bounded
    {coefficient : Int}
    {scale : Nat}
    (bounded : coefficient.natAbs < 2 ^ 96)
    (scaleBound : scale ≤ 28) :
    fit? coefficient scale =
      some ⟨coefficient, scale, bounded, scaleBound⟩ := by
  have kept : min scale 28 = scale := Nat.min_eq_left scaleBound
  unfold fit?
  simp only [kept]
  cases scale with
  | zero =>
      simp only [fitAt?, Nat.pow_zero, nearestEven_one]
      exact dif_pos bounded
  | succ scale =>
      simp only [fitAt?, Nat.sub_self, Nat.pow_zero, nearestEven_one]
      exact dif_pos bounded

/-- A sum whose coefficient fits at a common scale is exact. -/
theorem add?_exact
    {left right : Decimal}
    {scale : Nat}
    (scaleBound : scale ≤ 28)
    (leftWithin : left.scale ≤ scale)
    (rightWithin : right.scale ≤ scale)
    (bounded :
      (left.coefficientAt scale + right.coefficientAt scale).natAbs <
        2 ^ 96) :
    ∃ sum,
      left.add? right = some sum ∧
        sum.scale ≤ scale ∧
        sum.coefficientAt scale =
          left.coefficientAt scale + right.coefficientAt scale := by
  by_cases leftZero : left.coefficient = 0
  · refine ⟨right, by simp [add?, leftZero], rightWithin, ?_⟩
    simp [coefficientAt, leftZero]
  · by_cases rightZero : right.coefficient = 0
    · refine ⟨left, by simp [add?, leftZero, rightZero], leftWithin, ?_⟩
      simp [coefficientAt, rightZero]
    · have aligned : max left.scale right.scale ≤ scale :=
        Nat.max_le.mpr ⟨leftWithin, rightWithin⟩
      have grown :
          left.coefficientAt scale + right.coefficientAt scale =
            (left.coefficientAt (max left.scale right.scale) +
                right.coefficientAt (max left.scale right.scale)) *
              10 ^ (scale - max left.scale right.scale) := by
        rw [coefficientAt_of_le (Nat.le_max_left _ _) aligned,
          coefficientAt_of_le (Nat.le_max_right _ _) aligned, Int.add_mul]
      have fits :
          (left.coefficientAt (max left.scale right.scale) +
              right.coefficientAt (max left.scale right.scale)).natAbs <
            2 ^ 96 := by
        refine Nat.lt_of_le_of_lt ?_ bounded
        rw [grown, Int.natAbs_mul]
        refine Nat.le_mul_of_pos_right _ ?_
        exact Int.natAbs_pos.mpr (Int.pow_ne_zero (by decide))
      have fitted :=
        fit?_of_bounded fits (Nat.le_trans aligned scaleBound)
      refine ⟨⟨_, _, fits, Nat.le_trans aligned scaleBound⟩, ?_,
        aligned, grown.symm⟩
      simpa only [add?, leftZero, rightZero, ↓reduceIte] using fitted

end Decimal

end LengthCalc
