import LengthCalc.Proofs.ConversionAccuracy
import LengthCalc.Proofs.StableResults

namespace LengthCalc

/-!
# There and back

An amount that is converted into another unit and back again is multiplied by
two ratios that are nearly reciprocal, and rounded twice.  The second ratio
magnifies the first rounding, by a factor of at most three hundred.
-/

namespace LengthUnit

theorem ratio_nonneg (source target : LengthUnit) :
    0 ≤ (ratio source target).toRat := by
  cases source <;> cases target <;> decide +kernel

/-- No ratio is larger than the number of pixels in an inch. -/
theorem ratio_le (source target : LengthUnit) :
    (ratio source target).toRat ≤ 300 := by
  cases source <;> cases target <;> decide +kernel

/-- Opposite ratios are reciprocal to less than three parts in a million. -/
theorem ratio_mul_ratio_error (source target : LengthUnit) :
    |(ratio source target).toRat * (ratio target source).toRat - 1| ≤
      3 / 10 ^ 6 := by
  rw [abs_le]
  cases source <;> cases target <;> decide +kernel

end LengthUnit

namespace Decimal

/-- Products with opposite ratios, one after the other, nearly cancel out. -/
theorem mul?_ratios_error
    {amount there back : Decimal}
    {source target : LengthUnit}
    (multiplied : amount.mul? (LengthUnit.ratio source target) = some there)
    (returned : there.mul? (LengthUnit.ratio target source) = some back) :
    |back.toRat - amount.toRat| ≤
      1 / 10 ^ 5 * |amount.toRat| + 2 / 10 ^ 26 := by
  have thereError := mul?_error multiplied
  have backError := mul?_error returned
  have reciprocal := LengthUnit.ratio_mul_ratio_error source target
  have homeNonneg := LengthUnit.ratio_nonneg target source
  have homeBound := LengthUnit.ratio_le target source
  generalize (LengthUnit.ratio source target).toRat = forth at *
  generalize (LengthUnit.ratio target source).toRat = home at *
  have exactReturn :
      |amount.toRat * (forth * home) - amount.toRat| ≤
        3 / 10 ^ 6 * |amount.toRat| := by
    have scaled :=
      mul_le_mul_of_nonneg_left reciprocal (abs_nonneg amount.toRat)
    rw [← mul_sub_one, abs_mul]
    linarith
  -- The first rounding is multiplied by the ratio of the way back.
  have magnified :
      |there.toRat * home - amount.toRat * (forth * home)| ≤
        smallest * (150 + |amount.toRat * (forth * home)|) := by
    have scaled := mul_le_mul_of_nonneg_right thereError homeNonneg
    have half := mul_le_mul_of_nonneg_left homeBound smallest_pos.le
    rw [← mul_assoc amount.toRat, ← sub_mul, abs_mul,
      abs_mul (amount.toRat * forth), abs_of_nonneg homeNonneg]
    linarith
  have exactSize :=
    abs_sub_abs_le_abs_sub (amount.toRat * (forth * home)) amount.toRat
  have returnSize :=
    abs_sub_abs_le_abs_sub (there.toRat * home) (amount.toRat * (forth * home))
  have distance :
      |back.toRat - amount.toRat| ≤
        |back.toRat - there.toRat * home| +
          |there.toRat * home - amount.toRat * (forth * home)| +
          |amount.toRat * (forth * home) - amount.toRat| := by
    have first := abs_sub_le back.toRat (there.toRat * home) amount.toRat
    have second :=
      abs_sub_le (there.toRat * home) (amount.toRat * (forth * home))
        amount.toRat
    linarith
  have size := abs_nonneg amount.toRat
  rw [smallest] at *
  linarith

end Decimal

namespace Expression

/--
An amount that is converted into another unit and back again, without
overflow, is off by at most ten parts in a million and two hundred smallest
decimals.
-/
theorem convert_back_accurate
    {amount : Decimal}
    {source target : LengthUnit}
    {there back : Measurement}
    (converted : (ofAmount amount source).convert target = .ok there)
    (returned : (measurement there).convert source = .ok back) :
    |back.amount.toRat - amount.toRat| ≤
      1 / 10 ^ 5 * |amount.toRat| + 2 / 10 ^ 26 := by
  obtain ⟨product, multiplied, rfl⟩ := convert_ofAmount_eq_ok_iff.mp converted
  obtain ⟨again, multipliedBack, rfl⟩ :=
    convert_ofAmount_eq_ok_iff.mp returned
  exact Decimal.mul?_ratios_error multiplied multipliedBack

/-- A pixel and 149 of the smallest decimals. -/
def aboveOne : Decimal :=
  ⟨10 ^ 28 + 149, 28, by decide, by decide⟩

/-- Its inches are rounded to those of one pixel, which are not exact either. -/
theorem convert_back_accurate_pixel :
    (ofAmount aboveOne .pixel).convert .inch =
        .ok ⟨⟨333333 * 10 ^ 20, 28, by decide, by decide⟩, .inch⟩ ∧
      (ofAmount ⟨333333 * 10 ^ 20, 28, by decide, by decide⟩ .inch).convert
          .pixel =
        .ok ⟨⟨999999 * 10 ^ 22, 28, by decide, by decide⟩, .pixel⟩ ∧
      |(999999 / 10 ^ 6 : Rat) - aboveOne.toRat| ≤
        1 / 10 ^ 5 * |aboveOne.toRat| + 2 / 10 ^ 26 := by
  have converted :
      (ofAmount aboveOne .pixel).convert .inch =
        .ok ⟨⟨333333 * 10 ^ 20, 28, by decide, by decide⟩, .inch⟩ := by
    rw [convert, convert?_ofAmount]
    decide
  have returned :
      (ofAmount ⟨333333 * 10 ^ 20, 28, by decide, by decide⟩ .inch).convert
          .pixel =
        .ok ⟨⟨999999 * 10 ^ 22, 28, by decide, by decide⟩, .pixel⟩ := by
    rw [convert, convert?_ofAmount]
    decide
  have accurate := convert_back_accurate converted returned
  have value :
      Decimal.toRat ⟨999999 * 10 ^ 22, 28, by decide, by decide⟩ =
        999999 / 10 ^ 6 := by
    rw [Decimal.toRat_eq_div]
    norm_num
  rw [value] at accurate
  exact ⟨converted, returned, accurate⟩

end Expression

end LengthCalc
