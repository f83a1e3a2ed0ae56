import LengthCalc.Proofs.RoundingError
import Mathlib.Algebra.Group.Int.Even

namespace LengthCalc

/-!
# The nearest multiple of a decimal place

Rounding to places gives the nearest multiple of the last of them, and of two
nearest ones the even one.  Every number has at most one such multiple, and the
value that is shown in place of an amount is the one of the amount.
-/

/-- How far a number is from a multiple of the last of some places. -/
def distanceAt (places : Nat) (exactly : Rat) (multiple : Int) : Rat :=
  |exactly - multiple / 10 ^ places|

/-- No multiple is closer, and if another one is as close, this one is even. -/
structure IsNearest (places : Nat) (exactly : Rat) (multiple : Int) : Prop where
  closest :
    ∀ other, distanceAt places exactly multiple ≤ distanceAt places exactly other
  tie :
    ∀ other,
      other ≠ multiple →
      distanceAt places exactly other = distanceAt places exactly multiple →
      Even multiple

/-- A value is the nearest multiple of the last of some places. -/
def RoundsTo (places : Nat) (exactly rounded : Rat) : Prop :=
  ∃ multiple : Int,
    rounded = multiple / 10 ^ places ∧ IsNearest places exactly multiple

/-- Distances may be compared in units of the last place. -/
theorem distanceAt_eq (places : Nat) (exactly : Rat) (multiple : Int) :
    distanceAt places exactly multiple =
      |exactly * 10 ^ places - multiple| / 10 ^ places := by
  have positive : (0 : Rat) < 10 ^ places := by positivity
  have scaled :
      exactly - multiple / 10 ^ places =
        (exactly * 10 ^ places - multiple) / 10 ^ places := by
    field_simp
  rw [distanceAt, scaled, abs_div, abs_of_pos positive]

/-- Different integers are at least one apart. -/
private theorem one_le_abs_sub
    {left right : Int}
    (different : left ≠ right) :
    1 ≤ |(left : Rat) - right| := by
  have apart : 1 ≤ |left - right| :=
    Int.one_le_abs (sub_ne_zero.mpr different)
  exact_mod_cast apart

namespace IsNearest

variable {places : Nat}
variable {exactly : Rat}
variable {multiple : Int}

/-- A multiple within half a unit is nearest, if it is even at half a unit. -/
theorem of_half
    (within : |exactly * 10 ^ places - multiple| ≤ 1 / 2)
    (even : |exactly * 10 ^ places - multiple| = 1 / 2 → Even multiple) :
    IsNearest places exactly multiple := by
  have positive : (0 : Rat) < 10 ^ places := by positivity
  have further (other : Int) (different : other ≠ multiple) :
      1 / 2 ≤ |exactly * 10 ^ places - other| := by
    have apart := one_le_abs_sub different
    have triangle :=
      abs_sub_le (other : Rat) (exactly * 10 ^ places) multiple
    rw [abs_sub_comm (other : Rat) (exactly * 10 ^ places)] at triangle
    linarith
  constructor
  · intro other
    rw [distanceAt_eq, distanceAt_eq]
    refine div_le_div_of_nonneg_right ?_ positive.le
    by_cases same : other = multiple
    · rw [same]
    · exact within.trans (further other same)
  · intro other different tied
    rw [distanceAt_eq, distanceAt_eq, div_left_inj' positive.ne'] at tied
    have beyond := further other different
    exact even (le_antisymm within (by linarith))

/-- A number has one nearest multiple only. -/
theorem unique
    {other : Int}
    (nearest : IsNearest places exactly multiple)
    (nearest' : IsNearest places exactly other) :
    other = multiple := by
  by_contra different
  have positive : (0 : Rat) < 10 ^ places := by positivity
  have tied :
      distanceAt places exactly other = distanceAt places exactly multiple :=
    le_antisymm (nearest'.closest multiple) (nearest.closest other)
  obtain ⟨half, shape⟩ := nearest.tie other different tied
  obtain ⟨half', shape'⟩ :=
    nearest'.tie multiple (Ne.symm different) tied.symm
  -- The number lies in the middle between two even multiples, which is a
  -- multiple itself and closer than both.
  have closer := nearest.closest (half + half')
  rw [distanceAt_eq, distanceAt_eq, div_left_inj' positive.ne'] at tied
  rw [distanceAt_eq, distanceAt_eq, div_le_div_iff_of_pos_right positive]
    at closer
  rcases abs_eq_abs.mp tied with same | opposite
  · have cast : (other : Rat) = multiple := by
      linarith
    exact different (by exact_mod_cast cast)
  · have middle :
        exactly * 10 ^ places - ((half + half' : Int) : Rat) = 0 := by
      have even : (multiple : Rat) = half + half := by
        exact_mod_cast shape
      have even' : (other : Rat) = half' + half' := by
        exact_mod_cast shape'
      push_cast
      linarith
    rw [middle, abs_zero] at closer
    have atMultiple : exactly * 10 ^ places - multiple = 0 :=
      abs_eq_zero.mp (le_antisymm closer (abs_nonneg _))
    have cast : (other : Rat) = multiple := by
      linarith
    exact different (by exact_mod_cast cast)

end IsNearest

theorem RoundsTo.unique
    {places : Nat}
    {exactly rounded rounded' : Rat}
    (rounds : RoundsTo places exactly rounded)
    (rounds' : RoundsTo places exactly rounded') :
    rounded' = rounded := by
  obtain ⟨multiple, rfl, nearest⟩ := rounds
  obtain ⟨multiple', rfl, nearest'⟩ := rounds'
  rw [nearest.unique nearest']

/-- A numerator in the middle between two multiples is rounded to an even one. -/
theorem nearestEven_emod_two
    (numerator : Int)
    {denominator : Nat}
    (positive : 0 < denominator)
    (half :
      2 * (nearestEven numerator denominator * denominator - numerator) =
          denominator ∨
        2 * (nearestEven numerator denominator * denominator - numerator) =
          -denominator) :
    nearestEven numerator denominator % 2 = 0 := by
  obtain ⟨quotient, remainder, division, nonneg, less, ⟨rounded, small⟩ |
      ⟨rounded, large⟩⟩ := nearestEven_cases numerator positive
  · rw [rounded] at half ⊢
    omega
  · rw [rounded, Int.add_mul] at half
    rw [rounded]
    omega

/-- A quotient that is rounded by a half is rounded to an even number. -/
theorem even_nearestEven
    (numerator : Int)
    {denominator : Nat}
    (positive : 0 < denominator)
    (half :
      |(numerator : Rat) / denominator - nearestEven numerator denominator| =
        1 / 2) :
    Even (nearestEven numerator denominator) := by
  have positive' : (0 : Rat) < denominator := by
    exact_mod_cast positive
  have quotient :
      (numerator : Rat) / denominator * denominator = numerator :=
    div_mul_cancel₀ _ positive'.ne'
  refine Int.even_iff.mpr (nearestEven_emod_two numerator positive ?_)
  rcases (abs_eq (by norm_num)).mp half with below | above
  · right
    have scaled :
        2 * ((nearestEven numerator denominator : Rat) * denominator -
          numerator) = -denominator := by
      have nearest :
          (nearestEven numerator denominator : Rat) =
            numerator / denominator - 1 / 2 := by
        linarith
      rw [nearest, sub_mul, quotient]
      ring
    exact_mod_cast scaled
  · left
    have scaled :
        2 * ((nearestEven numerator denominator : Rat) * denominator -
          numerator) = denominator := by
      have nearest :
          (nearestEven numerator denominator : Rat) =
            numerator / denominator + 1 / 2 := by
        linarith
      rw [nearest, add_mul, quotient]
      ring
    exact_mod_cast scaled

namespace Decimal

theorem toRat_normalize (value : Decimal) :
    value.normalize.toRat = value.toRat := by
  rw [toRat_eq, toRat_eq, worth_normalize]

/-- Rounding to places gives the nearest multiple of the last of them. -/
theorem roundsTo_roundTo (places : Nat) (value : Decimal) :
    RoundsTo places value.toRat (value.roundTo places).toRat := by
  by_cases short : value.scale ≤ places
  · have exactly : (value.coefficientAt places : Rat) / 10 ^ places = value.toRat :=
      coefficientAt_div short
    rw [roundTo_of_scale_le short]
    refine ⟨value.coefficientAt places, exactly.symm, ?_⟩
    have scaled : value.toRat * 10 ^ places = value.coefficientAt places := by
      rw [← exactly, div_mul_cancel₀ _ (by positivity)]
    refine .of_half ?_ ?_
    · rw [scaled, sub_self, abs_zero]
      norm_num
    · intro half
      rw [scaled, sub_self, abs_zero] at half
      norm_num at half
  · have longer : places ≤ value.scale := Nat.le_of_not_le short
    have positive : 0 < 10 ^ (value.scale - places) :=
      Nat.pow_pos (by decide)
    have scaled :
        value.toRat * 10 ^ places =
          value.coefficient / (10 ^ (value.scale - places) : Nat) := by
      have split : (10 : Rat) ^ value.scale =
          10 ^ (value.scale - places) * 10 ^ places := by
        rw [← pow_add, Nat.sub_add_cancel longer]
      rw [toRat_eq_div, split]
      push_cast
      field_simp
    refine ⟨nearestEven value.coefficient (10 ^ (value.scale - places)), ?_, ?_⟩
    · rw [toRat_eq_div]
      simp [roundTo, short]
    · refine .of_half ?_ ?_
      · rw [scaled, abs_sub_comm]
        exact nearestEven_error value.coefficient positive
      · intro half
        rw [scaled] at half
        exact even_nearestEven value.coefficient positive half

end Decimal

namespace FormatOptions

/-- The value that is shown is the nearest multiple of the last place. -/
theorem roundsTo_rounded (options : FormatOptions) (value : Decimal) :
    RoundsTo options.maxFractionDigits value.toRat
      (options.rounded value).toRat := by
  rw [rounded, Decimal.toRat_normalize]
  exact value.roundsTo_roundTo options.maxFractionDigits

/-- An amount with no more places than are shown is shown as it is. -/
theorem toRat_rounded_of_scale_le
    {options : FormatOptions}
    {value : Decimal}
    (short : value.scale ≤ options.maxFractionDigits) :
    (options.rounded value).toRat = value.toRat := by
  rw [rounded, Decimal.toRat_normalize, Decimal.roundTo_of_scale_le short]

end FormatOptions

end LengthCalc
