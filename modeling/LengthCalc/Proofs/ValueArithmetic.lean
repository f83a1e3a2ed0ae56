import LengthCalc.Proofs.ExactSums

namespace LengthCalc

/-!
# Arithmetic on values

What a coefficient is fitted to depends on its value alone: a value that is
written with more zeros is rounded at the same place, and overflows exactly
when it does without them.  So the value of a checked sum or product, and
whether there is one, is a function of the values of its operands.
-/

/-- A factor that a numerator and a denominator share does not count. -/
theorem nearestEven_mul_mul
    (numerator : Int)
    (denominator : Nat)
    {factor : Nat}
    (positive : 0 < factor) :
    nearestEven (numerator * factor) (denominator * factor) =
      nearestEven numerator denominator := by
  have positive' : (0 : Int) < factor := by
    omega
  have quotient :
      numerator * factor / ((denominator * factor : Nat) : Int) =
        numerator / denominator := by
    rw [Int.natCast_mul, Int.mul_ediv_mul_of_pos_left _ _ positive']
  have remainder :
      numerator * factor % ((denominator * factor : Nat) : Int) =
        numerator % denominator * factor := by
    rw [Int.natCast_mul, Int.mul_comm numerator, Int.mul_comm (denominator : Int),
      Int.mul_emod_mul_of_pos _ _ positive', Int.mul_comm]
  have short :
      2 * (numerator % denominator * factor) <
          ((denominator * factor : Nat) : Int) ↔
        2 * (numerator % denominator) < denominator := by
    rw [Int.natCast_mul, ← Int.mul_assoc]
    exact Int.mul_lt_mul_right positive'
  have tied :
      2 * (numerator % denominator * factor) =
          ((denominator * factor : Nat) : Int) ↔
        2 * (numerator % denominator) = denominator := by
    rw [Int.natCast_mul, ← Int.mul_assoc]
    exact Int.mul_eq_mul_right_iff (by omega)
  simp only [nearestEven, quotient, remainder, short, tied]

namespace Decimal

/-- Zeros at the end do not count where no more places are kept than without. -/
theorem fitAt?_scaled
    (coefficient : Int)
    (places : Nat)
    {scale kept : Nat}
    (within : kept ≤ scale)
    (keptBound : kept ≤ 28) :
    fitAt? (coefficient * 10 ^ places) (scale + places) kept keptBound =
      fitAt? coefficient scale kept keptBound := by
  have rounded (fewer : Nat) (shorter : fewer ≤ scale) :
      nearestEven (coefficient * 10 ^ places)
          (10 ^ (scale + places - fewer)) =
        nearestEven coefficient (10 ^ (scale - fewer)) := by
    have split : scale + places - fewer = scale - fewer + places := by
      omega
    rw [split, Nat.pow_add]
    exact nearestEven_mul_mul coefficient _ (Nat.pow_pos (by decide))
  induction kept with
  | zero =>
      have same := rounded 0 within
      simp only [Nat.sub_zero] at same
      simp only [fitAt?, same]
  | succ fewer inductionHypothesis =>
      simp only [fitAt?, rounded (fewer + 1) within,
        inductionHypothesis (Nat.le_of_succ_le within)]

theorem fit?_of_scale_le
    (coefficient : Int)
    {scale : Nat}
    (scaleBound : scale ≤ 28) :
    fit? coefficient scale = fitAt? coefficient scale scale scaleBound := by
  unfold fit?
  simp only [Nat.min_eq_left scaleBound]

/-- Zeros that are cut off again leave the coefficient that they were put to. -/
theorem nearestEven_mul_pow
    (coefficient : Int)
    {places kept : Nat}
    (within : kept ≤ places) :
    nearestEven (coefficient * 10 ^ places) (10 ^ (places - kept)) =
      coefficient * 10 ^ kept := by
  have split :
      coefficient * 10 ^ places =
        coefficient * 10 ^ kept * ((10 ^ (places - kept) : Nat) : Int) := by
    have cast :
        ((10 ^ (places - kept) : Nat) : Int) = 10 ^ (places - kept) :=
      Int.natCast_pow 10 _
    rw [cast, Int.mul_assoc, ← Int.pow_add, Nat.add_sub_cancel' within]
  have shared :=
    nearestEven_mul_mul (coefficient * 10 ^ kept) 1
      (Nat.pow_pos (by decide) : 0 < 10 ^ (places - kept))
  rw [Nat.one_mul, nearestEven_one] at shared
  rw [split, shared]

/-- Where a value needs no rounding, it is worth what it is written as. -/
theorem map_worth_fitAt?_of_kept
    (coefficient : Int)
    (places : Nat)
    {scale kept : Nat}
    (longer : scale ≤ kept)
    (within : kept ≤ scale + places)
    (keptBound : kept ≤ 28) :
    (fitAt? (coefficient * 10 ^ places) (scale + places) kept
        keptBound).map worth =
      (fit? coefficient scale).map worth := by
  have scaleBound : scale ≤ 28 :=
    Nat.le_trans longer keptBound
  -- A place that is not needed is kept without rounding, or it is given up.
  induction kept with
  | zero =>
      obtain rfl : scale = 0 := Nat.le_zero.mp longer
      rw [fitAt?_scaled coefficient places (Nat.le_refl 0) keptBound]
      rfl
  | succ fewer inductionHypothesis =>
      by_cases same : scale = fewer + 1
      · subst same
        rw [fitAt?_scaled coefficient places (Nat.le_refl _) keptBound,
          fit?_of_scale_le coefficient scaleBound]
      · have rest :=
          inductionHypothesis (by omega) (by omega) (scale_le_of_succ keptBound)
        have cut :
            scale + places - (fewer + 1) = places - (fewer + 1 - scale) := by
          omega
        have exactly :=
          nearestEven_mul_pow coefficient
            (show fewer + 1 - scale ≤ places by omega)
        rw [← cut] at exactly
        simp only [fitAt?, exactly]
        split
        · next bounded =>
            have fits : coefficient.natAbs < 2 ^ 96 := by
              refine Nat.lt_of_le_of_lt ?_ bounded
              rw [Int.natAbs_mul]
              exact Nat.le_mul_of_pos_right _
                (Int.natAbs_pos.mpr (Int.pow_ne_zero (by decide)))
            have room :
                28 - scale = fewer + 1 - scale + (28 - (fewer + 1)) := by
              omega
            rw [fit?_of_bounded fits scaleBound]
            simp only [Option.map_some, worth, coefficientAt, room,
              Int.pow_add, Int.mul_assoc]
        · exact rest

/-- A value is fitted alike with and without zeros at its end. -/
theorem map_worth_fit?_scaled
    (coefficient : Int)
    (scale places : Nat) :
    (fit? (coefficient * 10 ^ places) (scale + places)).map worth =
      (fit? coefficient scale).map worth := by
  by_cases small : scale ≤ 28
  · have kept :
        min (scale + places) 28 = scale + min places (28 - scale) := by
      omega
    unfold fit?
    simp only [kept]
    exact map_worth_fitAt?_of_kept coefficient places
      (by omega) (by omega) (by omega)
  · have kept : min (scale + places) 28 = min scale 28 := by
      omega
    unfold fit?
    simp only [kept]
    rw [fitAt?_scaled coefficient places (Nat.min_le_left _ _)]

/-- Numbers that a larger scale makes equal are fitted alike. -/
theorem map_worth_fit?_of_eq
    {coefficient other : Int}
    {scale larger : Nat}
    (within : scale ≤ larger)
    (same : coefficient * 10 ^ (larger - scale) = other) :
    (fit? coefficient scale).map worth = (fit? other larger).map worth := by
  have scaled := map_worth_fit?_scaled coefficient scale (larger - scale)
  rw [Nat.add_sub_cancel' within, same] at scaled
  exact scaled.symm

/-- A decimal is what its own value is fitted to. -/
theorem map_worth_fit?_worth (value : Decimal) :
    (fit? value.worth 28).map worth = some value.worth := by
  have grown :
      value.coefficient * 10 ^ (28 - value.scale) = value.worth :=
    rfl
  rw [← map_worth_fit?_of_eq value.scale_le grown,
    fit?_of_bounded value.coefficient_lt value.scale_le]
  rfl

/-- The value of the checked sum of two values. -/
def addWorth? (left right : Int) : Option Int :=
  (fit? (left + right) 28).map worth

/-- The value of the checked product of two values. -/
def mulWorth? (left right : Int) : Option Int :=
  (fit? (left * right) 56).map worth

theorem worth_of_coefficient_eq_zero
    {value : Decimal}
    (noCoefficient : value.coefficient = 0) :
    value.worth = 0 := by
  simp [worth, coefficientAt, noCoefficient]

/-- The value of a checked sum is that of the values of its operands. -/
theorem map_worth_add? (left right : Decimal) :
    (left.add? right).map worth = addWorth? left.worth right.worth := by
  unfold addWorth?
  by_cases leftZero : left.coefficient = 0
  · rw [worth_of_coefficient_eq_zero leftZero, Int.zero_add,
      map_worth_fit?_worth]
    simp [add?, leftZero]
  · by_cases rightZero : right.coefficient = 0
    · rw [worth_of_coefficient_eq_zero rightZero, Int.add_zero,
        map_worth_fit?_worth]
      simp [add?, leftZero, rightZero]
    · have aligned : max left.scale right.scale ≤ 28 :=
        Nat.max_le.mpr ⟨left.scale_le, right.scale_le⟩
      have grown :
          (left.coefficientAt (max left.scale right.scale) +
                right.coefficientAt (max left.scale right.scale)) *
              10 ^ (28 - max left.scale right.scale) =
            left.worth + right.worth := by
        rw [Int.add_mul,
          ← coefficientAt_of_le (Nat.le_max_left _ _) aligned,
          ← coefficientAt_of_le (Nat.le_max_right _ _) aligned]
        rfl
      rw [← map_worth_fit?_of_eq aligned grown]
      simp only [add?, leftZero, rightZero, ↓reduceIte]

/-- The value of a checked product is that of the values of its factors. -/
theorem map_worth_mul? (left right : Decimal) :
    (left.mul? right).map worth = mulWorth? left.worth right.worth := by
  have leftBound := left.scale_le
  have rightBound := right.scale_le
  have grown :
      left.coefficient * right.coefficient *
          10 ^ (56 - (left.scale + right.scale)) =
        left.worth * right.worth := by
    have places :
        56 - (left.scale + right.scale) =
          28 - left.scale + (28 - right.scale) := by
      omega
    rw [places, Int.pow_add, worth, worth, coefficientAt, coefficientAt]
    ac_rfl
  have fitted :=
    map_worth_fit?_of_eq
      (show left.scale + right.scale ≤ 56 by omega) grown
  rw [mulWorth?, ← fitted]
  unfold mul?
  split
  · next zeroFactor =>
      have product : left.coefficient * right.coefficient = 0 :=
        Int.mul_eq_zero.mpr zeroFactor
      have ofZero :=
        map_worth_fit?_of_eq (Nat.zero_le (left.scale + right.scale))
          (Int.zero_mul _)
      rw [product, ← ofZero]
      rfl
  · rfl

end Decimal

end LengthCalc
