import LengthCalc.Proofs.ExactTotals
import Mathlib.Algebra.Order.Field.Rat
import Mathlib.Tactic.FieldSimp
import Mathlib.Tactic.Linarith
import Mathlib.Tactic.NormNum
import Mathlib.Tactic.Positivity
import Mathlib.Tactic.Ring

namespace LengthCalc

/-!
# Errors of rounding

A coefficient is rounded by at most half a unit.  In a decimal this unit is the
smallest positive decimal, or it is small beside the value: places are given up
only where the coefficient is close to its bound.  So the error of every sum
and product is at most half of the smallest decimal plus that fraction of the
exact value.
-/

/-- A rounded quotient times its denominator is close to the numerator. -/
theorem nearestEven_mul_bounds
    (numerator : Int)
    {denominator : Nat}
    (positive : 0 < denominator) :
    2 * numerator - denominator ≤
        2 * (nearestEven numerator denominator * denominator) ∧
      2 * (nearestEven numerator denominator * denominator) ≤
        2 * numerator + denominator := by
  obtain ⟨quotient, remainder, division, nonneg, less, ⟨rounded, small⟩ |
      ⟨rounded, large⟩⟩ := nearestEven_cases numerator positive
  · rw [rounded]
    omega
  · rw [rounded, Int.add_mul]
    omega

/-- Rounding a quotient changes it by at most a half. -/
theorem nearestEven_error
    (numerator : Int)
    {denominator : Nat}
    (positive : 0 < denominator) :
    |(nearestEven numerator denominator : Rat) - numerator / denominator| ≤
      1 / 2 := by
  obtain ⟨lower, upper⟩ := nearestEven_mul_bounds numerator positive
  have positive' : (0 : Rat) < denominator := by
    exact_mod_cast positive
  have lower' :
      2 * (numerator : Rat) - denominator ≤
        2 * (nearestEven numerator denominator * denominator) := by
    exact_mod_cast lower
  have upper' :
      2 * ((nearestEven numerator denominator : Rat) * denominator) ≤
        2 * numerator + denominator := by
    exact_mod_cast upper
  have quotient :
      (numerator : Rat) / denominator * denominator = numerator :=
    div_mul_cancel₀ _ positive'.ne'
  rw [abs_le]
  constructor
  · refine le_of_mul_le_mul_right ?_ positive'
    linarith
  · refine le_of_mul_le_mul_right ?_ positive'
    linarith

namespace Decimal

theorem toRat_eq_div (value : Decimal) :
    value.toRat = value.coefficient / 10 ^ value.scale := by
  rw [toRat, Rat.mkRat_eq_div]
  push_cast
  rfl

/-- The value at a scale that the decimal has room in. -/
theorem coefficientAt_div
    {value : Decimal}
    {scale : Nat}
    (within : value.scale ≤ scale) :
    (value.coefficientAt scale : Rat) / 10 ^ scale = value.toRat := by
  obtain ⟨places, rfl⟩ := Nat.exists_eq_add_of_le within
  rw [toRat_eq_div, coefficientAt, Nat.add_sub_cancel_left]
  push_cast
  rw [pow_add, mul_div_mul_right _ _ (by positivity)]

@[simp] theorem toRat_zero : zero.toRat = 0 :=
  Rat.zero_mkRat _

/-- The smallest positive decimal. -/
def smallest : Rat :=
  1 / 10 ^ 28

theorem smallest_pos : 0 < smallest := by
  norm_num [smallest]

/--
A fitted coefficient is rounded at the scale of the result, which is the
largest one or the largest one at which the coefficient is in bounds.
-/
theorem fitAt?_spec
    {coefficient : Int}
    {scale kept : Nat}
    {keptBound : kept ≤ 28}
    {value : Decimal}
    (fitted : fitAt? coefficient scale kept keptBound = some value) :
    value.coefficient = nearestEven coefficient (10 ^ (scale - value.scale)) ∧
      value.scale ≤ kept ∧
      (value.scale = kept ∨
        2 ^ 96 ≤
          (nearestEven coefficient
            (10 ^ (scale - (value.scale + 1)))).natAbs) := by
  induction kept with
  | zero =>
      simp only [fitAt?, Option.dite_none_right_eq_some] at fitted
      obtain ⟨bounded, same⟩ := fitted
      cases same
      exact ⟨rfl, Nat.le_refl 0, .inl rfl⟩
  | succ fewer inductionHypothesis =>
      simp only [fitAt?] at fitted
      split at fitted
      · cases fitted
        exact ⟨rfl, Nat.le_refl _, .inl rfl⟩
      · next beyond =>
          obtain ⟨rounded, within, largest⟩ := inductionHypothesis fitted
          refine ⟨rounded, Nat.le_succ_of_le within, .inr ?_⟩
          rcases largest with same | larger
          · rw [same]
            exact Nat.le_of_not_lt beyond
          · exact larger

/-- The value of a quotient in which a power of ten is cancelled. -/
private theorem div_pow_sub
    (coefficient : Int)
    {scale places : Nat}
    (within : places ≤ scale) :
    (coefficient : Rat) / 10 ^ scale =
      coefficient / 10 ^ (scale - places) / 10 ^ places := by
  rw [div_div, ← pow_add, Nat.sub_add_cancel within]

/-- Where one more place has no room, half a unit is small beside the value. -/
private theorem half_unit_le_of_large
    {coefficient : Int}
    {scale kept : Nat}
    (shorter : kept + 1 ≤ scale)
    (large :
      2 ^ 96 ≤
        (nearestEven coefficient (10 ^ (scale - (kept + 1)))).natAbs) :
    1 / 2 / 10 ^ kept ≤ smallest * |(coefficient : Rat) / 10 ^ scale| := by
  have near :=
    nearestEven_error coefficient
      (show 0 < 10 ^ (scale - (kept + 1)) from Nat.pow_pos (by decide))
  have magnitude :
      (2 : Rat) ^ 96 ≤
        |(nearestEven coefficient (10 ^ (scale - (kept + 1))) : Rat)| := by
    rw [← Int.cast_abs, ← Int.natCast_natAbs]
    exact_mod_cast large
  have triangle :=
    abs_sub_abs_le_abs_sub
      (nearestEven coefficient (10 ^ (scale - (kept + 1))) : Rat)
      (coefficient / (10 ^ (scale - (kept + 1)) : Nat))
  have exactly :
      5 * 10 ^ 28 ≤
        |(coefficient : Rat) / (10 ^ (scale - (kept + 1)) : Nat)| := by
    have room : (5 : Rat) * 10 ^ 28 + 1 / 2 ≤ 2 ^ 96 := by norm_num
    linarith
  push_cast at exactly
  have positive : (0 : Rat) < 10 ^ (kept + 1) := by positivity
  calc
    (1 : Rat) / 2 / 10 ^ kept
      = smallest * (5 * 10 ^ 28 / 10 ^ (kept + 1)) := by
        rw [smallest, pow_succ 10 kept]
        field_simp
        norm_num
    _ ≤ smallest *
          (|(coefficient : Rat) / 10 ^ (scale - (kept + 1))| /
            10 ^ (kept + 1)) := by
        have bound := div_le_div_of_nonneg_right exactly positive.le
        exact mul_le_mul_of_nonneg_left bound smallest_pos.le
    _ = smallest * |(coefficient : Rat) / 10 ^ scale| := by
        rw [div_pow_sub coefficient shorter, abs_div _ (10 ^ (kept + 1)),
          abs_of_pos positive]

/-- A fitted coefficient is close to the exact value. -/
theorem fit?_error
    {coefficient : Int}
    {scale : Nat}
    {value : Decimal}
    (fitted : fit? coefficient scale = some value) :
    |value.toRat - coefficient / 10 ^ scale| ≤
      smallest * (1 / 2 + |(coefficient : Rat) / 10 ^ scale|) := by
  obtain ⟨rounded, within, largest⟩ := fitAt?_spec fitted
  have short : value.scale ≤ scale :=
    Nat.le_trans within (Nat.min_le_left scale 28)
  have size :=
    mul_nonneg smallest_pos.le (abs_nonneg ((coefficient : Rat) / 10 ^ scale))
  have half :
      |value.toRat - coefficient / 10 ^ scale| ≤ 1 / 2 / 10 ^ value.scale := by
    have near :=
      nearestEven_error coefficient
        (show 0 < 10 ^ (scale - value.scale) from Nat.pow_pos (by decide))
    have positive : (0 : Rat) < 10 ^ value.scale := by positivity
    push_cast at near
    rw [toRat_eq_div, rounded, div_pow_sub coefficient short, ← sub_div,
      abs_div, abs_of_pos positive]
    exact div_le_div_of_nonneg_right near positive.le
  rw [mul_add]
  by_cases exactly : value.scale = scale
  · have same : value.toRat = coefficient / 10 ^ scale := by
      rw [toRat_eq_div, rounded, exactly, Nat.sub_self, Nat.pow_zero,
        nearestEven_one]
    rw [same, sub_self, abs_zero]
    linarith [smallest_pos]
  · rcases largest with atLimit | large
    · have limit : value.scale = 28 := by omega
      have unit : (1 : Rat) / 2 / 10 ^ value.scale = smallest * (1 / 2) := by
        rw [limit, smallest]
        ring
      linarith
    · have small := half_unit_le_of_large (by omega) large
      linarith [smallest_pos]

/-- A checked sum is close to the exact one. -/
theorem add?_error
    {left right sum : Decimal}
    (added : left.add? right = some sum) :
    |sum.toRat - (left.toRat + right.toRat)| ≤
      smallest * (1 / 2 + |left.toRat + right.toRat|) := by
  have nonneg :
      0 ≤ smallest * (1 / 2 + |left.toRat + right.toRat|) :=
    mul_nonneg smallest_pos.le (by positivity)
  simp only [add?] at added
  split at added
  · next leftZero =>
      cases added
      simpa [toRat_eq_div left, leftZero] using nonneg
  · split at added
    · next rightZero =>
        cases added
        simpa [toRat_eq_div right, rightZero] using nonneg
    · have error := fit?_error added
      push_cast at error
      rwa [add_div, coefficientAt_div (Nat.le_max_left _ _),
        coefficientAt_div (Nat.le_max_right _ _)] at error

/-- A checked product is close to the exact one. -/
theorem mul?_error
    {left right product : Decimal}
    (multiplied : left.mul? right = some product) :
    |product.toRat - left.toRat * right.toRat| ≤
      smallest * (1 / 2 + |left.toRat * right.toRat|) := by
  have nonneg :
      0 ≤ smallest * (1 / 2 + |left.toRat * right.toRat|) :=
    mul_nonneg smallest_pos.le (by positivity)
  simp only [mul?] at multiplied
  split at multiplied
  · next zeroFactor =>
      cases multiplied
      rcases zeroFactor with leftZero | rightZero
      · simpa [toRat_eq_div left, leftZero] using nonneg
      · simpa [toRat_eq_div right, rightZero] using nonneg
  · have error := fit?_error multiplied
    push_cast at error
    rwa [pow_add, mul_div_mul_comm, ← toRat_eq_div, ← toRat_eq_div] at error

end Decimal

end LengthCalc
