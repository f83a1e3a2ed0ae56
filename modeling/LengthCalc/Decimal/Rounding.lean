import LengthCalc.Decimal.Basic

namespace LengthCalc

/-!
# Rounding

Two ways of rounding a quotient to an integer, and what is built on the first:
cutting a decimal to a number of places and dropping its trailing zeros.
-/

/-- The integer nearest to a quotient; of two nearest ones, the even one. -/
def nearestEven (numerator : Int) (denominator : Nat) : Int :=
  let quotient := numerator / denominator
  let remainder := numerator % denominator
  if 2 * remainder < denominator then
    quotient
  else if 2 * remainder = denominator ∧ quotient % 2 = 0 then
    quotient
  else
    quotient + 1

/-- The natural number nearest to a quotient; a half is rounded up. -/
def nearestAway (numerator denominator : Nat) : Nat :=
  (2 * numerator + denominator) / (2 * denominator)

/-- Dividing by one changes nothing. -/
@[simp] theorem nearestEven_one (numerator : Int) :
    nearestEven numerator 1 = numerator := by
  simp [nearestEven]

/--
What is left over decides: the quotient is kept when it leaves less than a half,
the next integer is taken when it leaves more, and at a half the even one is.
-/
theorem nearestEven_cases
    (numerator : Int)
    {denominator : Nat}
    (positive : 0 < denominator) :
    ∃ quotient remainder : Int,
      numerator = quotient * denominator + remainder ∧
        0 ≤ remainder ∧
        remainder < denominator ∧
        (nearestEven numerator denominator = quotient ∧
            (2 * remainder < denominator ∨
              2 * remainder = denominator ∧ quotient % 2 = 0) ∨
          nearestEven numerator denominator = quotient + 1 ∧
            (denominator < 2 * remainder ∨
              2 * remainder = denominator ∧ quotient % 2 = 1)) := by
  refine ⟨numerator / denominator, numerator % denominator,
    (Int.ediv_mul_add_emod numerator denominator).symm,
    Int.emod_nonneg numerator (by omega),
    Int.emod_lt_of_pos numerator (by omega), ?_⟩
  simp only [nearestEven]
  split
  · next short => exact .inl ⟨rfl, .inl short⟩
  · split
    · next tied => exact .inl ⟨rfl, .inr tied⟩
    · exact .inr ⟨rfl, by omega⟩

/-- A product of positive integers is at least their sum less one. -/
private theorem add_le_mul_add_one
    (left right : Int)
    (leftPositive : 0 < left)
    (rightPositive : 0 < right) :
    left + right ≤ left * right + 1 := by
  have nonneg : 0 ≤ (left - 1) * (right - 1) :=
    Int.mul_nonneg (by omega) (by omega)
  grind

/-- Rounding a quotient by a positive number never increases the magnitude. -/
theorem nearestEven_natAbs_le
    (numerator : Int)
    {denominator : Nat}
    (positive : 0 < denominator) :
    (nearestEven numerator denominator).natAbs ≤ numerator.natAbs := by
  obtain ⟨quotient, remainder, division, nonneg, less, rounded⟩ :=
    nearestEven_cases numerator positive
  rcases Int.lt_trichotomy quotient 0 with negative | zero | quotientPositive
  · have product :=
      add_le_mul_add_one (-quotient) denominator (by omega) (by omega)
    rw [Int.neg_mul] at product
    omega
  · subst zero
    omega
  · have product :=
      add_le_mul_add_one quotient denominator quotientPositive (by omega)
    omega

namespace Decimal

/--
Keep at most `places` digits after the point, rounding to the nearest value and
a half to the even one; a decimal that has no more digits is left as it is.
-/
def roundTo (places : Nat) (value : Decimal) : Decimal :=
  if short : value.scale ≤ places then
    value
  else
    ⟨nearestEven value.coefficient (10 ^ (value.scale - places)), places,
      Nat.lt_of_le_of_lt
        (nearestEven_natAbs_le value.coefficient (Nat.pow_pos (by decide)))
        value.coefficient_lt,
      Nat.le_trans (Nat.le_of_not_le short) value.scale_le⟩

/-- Drop trailing zero digits while the scale allows it. -/
def withoutTrailingZeros
    (coefficient : Int)
    (bounded : coefficient.natAbs < 2 ^ 96) :
    (scale : Nat) → scale ≤ 28 → Decimal
  | 0, scaleBound =>
      ⟨coefficient, 0, bounded, scaleBound⟩
  | scale + 1, scaleBound =>
      if coefficient % 10 = 0 then
        withoutTrailingZeros (coefficient / 10) (by omega) scale (by omega)
      else
        ⟨coefficient, scale + 1, bounded, scaleBound⟩

/-- The shortest way to write a value: no zero digit ends its fraction. -/
def normalize (value : Decimal) : Decimal :=
  withoutTrailingZeros
    value.coefficient value.coefficient_lt value.scale value.scale_le

end Decimal

end LengthCalc
