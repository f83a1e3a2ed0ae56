import LengthCalc.Format.Number

namespace LengthCalc

/-!
# Laws of rounding for display

An amount that has been rounded for display and written as briefly as possible
is not changed by doing so again.
-/

namespace Decimal

/-- No zero digit ends the fraction. -/
def IsBrief (value : Decimal) : Prop :=
  value.scale = 0 ∨ value.coefficient % 10 ≠ 0

instance (value : Decimal) : Decidable value.IsBrief :=
  inferInstanceAs (Decidable (_ ∨ _))

/-- Rounding leaves no more decimal places than asked for. -/
theorem scale_roundTo_le (places : Nat) (value : Decimal) :
    (value.roundTo places).scale ≤ places := by
  unfold roundTo
  split
  · next short => exact short
  · exact Nat.le_refl _

/-- Rounding keeps a value that is short enough. -/
theorem roundTo_of_scale_le
    {places : Nat}
    {value : Decimal}
    (short : value.scale ≤ places) :
    value.roundTo places = value := by
  simp [roundTo, short]

/-- Removing trailing zeros does not add decimal places. -/
theorem scale_withoutTrailingZeros_le
    (coefficient : Int)
    (bounded : coefficient.natAbs < 2 ^ 96)
    (scale : Nat)
    (scaleBound : scale ≤ 28) :
    (withoutTrailingZeros coefficient bounded scale scaleBound).scale ≤
      scale := by
  fun_induction withoutTrailingZeros coefficient bounded scale scaleBound with
  | case1 => exact Nat.le_refl _
  | case2 _ _ _ _ _ inductionHypothesis => omega
  | case3 => exact Nat.le_refl _

/-- No trailing zero is left behind. -/
theorem isBrief_withoutTrailingZeros
    (coefficient : Int)
    (bounded : coefficient.natAbs < 2 ^ 96)
    (scale : Nat)
    (scaleBound : scale ≤ 28) :
    (withoutTrailingZeros coefficient bounded scale scaleBound).IsBrief := by
  fun_induction withoutTrailingZeros coefficient bounded scale scaleBound with
  | case1 => exact Or.inl rfl
  | case2 _ _ _ _ _ inductionHypothesis => exact inductionHypothesis
  | case3 _ _ _ _ lastNonzero => exact Or.inr lastNonzero

/-- A normalized value is brief. -/
theorem isBrief_normalize (value : Decimal) : value.normalize.IsBrief :=
  isBrief_withoutTrailingZeros _ _ _ _

/-- Normalizing does not add decimal places. -/
theorem scale_normalize_le (value : Decimal) :
    value.normalize.scale ≤ value.scale :=
  scale_withoutTrailingZeros_le _ _ _ _

/-- A brief value is normalized already. -/
theorem normalize_of_isBrief
    {value : Decimal}
    (brief : value.IsBrief) :
    value.normalize = value := by
  rcases value with ⟨coefficient, scale, bounded, scaleBound⟩
  cases scale with
  | zero =>
      rfl
  | succ scale =>
      have lastNonzero : coefficient % 10 ≠ 0 := by
        simpa [IsBrief] using brief
      simp [normalize, withoutTrailingZeros, lastNonzero]

/-- Zero is brief in one way only. -/
theorem eq_zero_of_isBrief
    {value : Decimal}
    (brief : value.IsBrief)
    (noCoefficient : value.coefficient = 0) :
    value = .zero := by
  rcases value with ⟨coefficient, scale, bounded, scaleBound⟩
  cases noCoefficient
  rcases brief with unscaled | lastNonzero
  · cases unscaled
    rfl
  · exact (lastNonzero rfl).elim

/-- A brief decimal has no more places than any other of its value. -/
theorem IsBrief.scale_le
    {left right : Decimal}
    (brief : left.IsBrief)
    (same : left.sameValue right = true) :
    left.scale ≤ right.scale := by
  rw [sameValue, beq_iff_eq] at same
  refine Nat.le_of_not_lt fun shorter => ?_
  obtain ⟨fewer, places⟩ := Nat.exists_eq_add_of_lt shorter
  have scaled : left.coefficient = right.coefficient * 10 ^ fewer * 10 := by
    have cancelled :
        left.coefficient * 10 ^ right.scale =
          right.coefficient * 10 ^ fewer * 10 * 10 ^ right.scale := by
      rw [same, places, Int.pow_add, Int.pow_add]
      grind
    exact Int.eq_of_mul_eq_mul_right
      (Int.pow_ne_zero (by decide)) cancelled
  rcases brief with unscaled | lastNonzero
  · omega
  · rw [scaled] at lastNonzero
    omega

/-- A value can be written briefly in one way only. -/
theorem IsBrief.eq_of_sameValue
    {left right : Decimal}
    (leftBrief : left.IsBrief)
    (rightBrief : right.IsBrief)
    (same : left.sameValue right = true) :
    left = right := by
  have swapped : right.sameValue left = true := by
    rw [sameValue, beq_iff_eq] at same ⊢
    exact same.symm
  have scales : left.scale = right.scale :=
    Nat.le_antisymm (leftBrief.scale_le same) (rightBrief.scale_le swapped)
  rw [sameValue, beq_iff_eq, scales] at same
  exact ext_of_parts
    (Int.eq_of_mul_eq_mul_right (Int.pow_ne_zero (by decide)) same) scales

end Decimal

namespace FormatOptions

/-- A rounded amount keeps to the decimal places of the options. -/
theorem scale_rounded_le (options : FormatOptions) (value : Decimal) :
    (options.rounded value).scale ≤ options.maxFractionDigits :=
  Nat.le_trans (Decimal.scale_normalize_le _) (Decimal.scale_roundTo_le _ _)

/-- A rounded amount is brief. -/
theorem isBrief_rounded (options : FormatOptions) (value : Decimal) :
    (options.rounded value).IsBrief :=
  Decimal.isBrief_normalize _

/-- A brief decimal with no more digits than are shown is shown as it is. -/
theorem rounded_of_isBrief
    {options : FormatOptions}
    {value : Decimal}
    (short : value.scale ≤ options.maxFractionDigits)
    (brief : value.IsBrief) :
    options.rounded value = value := by
  rw [rounded, Decimal.roundTo_of_scale_le short,
    Decimal.normalize_of_isBrief brief]

/-- What is shown is shown as itself. -/
@[simp] theorem rounded_rounded (options : FormatOptions) (value : Decimal) :
    options.rounded (options.rounded value) = options.rounded value :=
  rounded_of_isBrief
    (options.scale_rounded_le value) (options.isBrief_rounded value)

/-- With places enough for every decimal nothing is rounded. -/
theorem rounded_of_digits_enough
    {options : FormatOptions}
    (enough : 28 ≤ options.maxFractionDigits)
    (value : Decimal) :
    options.rounded value = value.normalize := by
  have short : value.scale ≤ options.maxFractionDigits :=
    Nat.le_trans value.scale_le enough
  rw [rounded, Decimal.roundTo_of_scale_le short]

end FormatOptions

end LengthCalc
