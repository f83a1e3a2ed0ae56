import LengthCalc.Expression.Conversion
import LengthCalc.Proofs.RoundingError

namespace LengthCalc

/-!
# Accuracy of conversions

A conversion multiplies at most five totals by ratios of six digits and adds
the products up, and all of this is rounded.  The ratios are off by about two
parts in a million, a step of the decimals by a part in `10 ^ 28` of what has
been summed up and about one smallest decimal.  Together these errors stay
within five parts in a million of the length without signs, and ten smallest
decimals.
-/

namespace LengthUnit

/-- The exact number of a unit that make up one inch. -/
def inchCount : LengthUnit → Rat
  | .millimeter => 254 / 10
  | .centimeter => 254 / 100
  | .inch => 1
  | .pixel => 300
  | .point => 72

/-- What turns an amount in `source` into the same length in `target`. -/
def factor (source target : LengthUnit) : Rat :=
  target.inchCount / source.inchCount

/-- No factor between units is negative. -/
theorem factor_nonneg (source target : LengthUnit) :
    0 ≤ factor source target := by
  cases source <;> cases target <;> decide +kernel

/-- The ratios of the table are exact to about two parts in a million. -/
theorem ratio_error (source target : LengthUnit) :
    |(ratio source target).toRat - factor source target| ≤
      21 / 10 ^ 7 * factor source target := by
  rw [abs_le]
  cases source <;> cases target <;> decide +kernel

end LengthUnit

namespace Totals

/-- The exact length of a total in a unit. -/
def entryLength (target : LengthUnit) (entry : LengthUnit × Decimal) : Rat :=
  entry.2.toRat * LengthUnit.factor entry.1 target

/-- The exact length of a total without its sign. -/
def entrySize (target : LengthUnit) (entry : LengthUnit × Decimal) : Rat :=
  |entry.2.toRat| * LengthUnit.factor entry.1 target

/-- The exact length of all totals in a unit. -/
def lengthIn (totals : Totals) (target : LengthUnit) : Rat :=
  (totals.entries.map (entryLength target)).sum

/-- The exact length of all totals in a unit, their signs left out. -/
def magnitudeIn (totals : Totals) (target : LengthUnit) : Rat :=
  (totals.entries.map (entrySize target)).sum

/-- The size of an entry is its length without the sign. -/
theorem abs_entryLength (target : LengthUnit) (entry : LengthUnit × Decimal) :
    |entryLength target entry| = entrySize target entry := by
  rw [entryLength, abs_mul, abs_of_nonneg (LengthUnit.factor_nonneg _ _),
    entrySize]

/-- The size of an entry is not negative. -/
theorem entrySize_nonneg (target : LengthUnit) (entry : LengthUnit × Decimal) :
    0 ≤ entrySize target entry := by
  rw [← abs_entryLength]
  exact abs_nonneg _

/-- What one step of a conversion adds, and how far it may be off. -/
theorem addConverted?_error
    {target : LengthUnit}
    {sum next : Decimal}
    {entry : LengthUnit × Decimal}
    (added : addConverted? target sum entry = some next) :
    |next.toRat - (sum.toRat + entryLength target entry)| ≤
      3 / 10 ^ 6 * entrySize target entry +
        Decimal.smallest * (|sum.toRat| + 11 / 10) := by
  simp only [addConverted?] at added
  split at added
  · cases added
  · next scaled multiplied =>
      have ratioError := LengthUnit.ratio_error entry.1 target
      have productError := Decimal.mul?_error multiplied
      have sumError := Decimal.add?_error added
      have size := entrySize_nonneg target entry
      have length := abs_entryLength target entry
      generalize (LengthUnit.ratio entry.1 target).toRat = ratio at *
      have exactProduct :
          |entry.2.toRat * ratio - entryLength target entry| ≤
            21 / 10 ^ 7 * entrySize target entry := by
        have scaledError :=
          mul_le_mul_of_nonneg_left ratioError (abs_nonneg entry.2.toRat)
        rw [entryLength, ← mul_sub, abs_mul, entrySize]
        linarith
      have productSize :=
        abs_sub_abs_le_abs_sub
          (entry.2.toRat * ratio) (entryLength target entry)
      have scaledSize :=
        abs_sub_abs_le_abs_sub scaled.toRat (entry.2.toRat * ratio)
      have sumSize := abs_add_le sum.toRat scaled.toRat
      have distance :
          |next.toRat - (sum.toRat + entryLength target entry)| ≤
            |next.toRat - (sum.toRat + scaled.toRat)| +
              |scaled.toRat - entry.2.toRat * ratio| +
              |entry.2.toRat * ratio - entryLength target entry| := by
        have first :=
          abs_sub_le next.toRat (sum.toRat + scaled.toRat)
            (sum.toRat + entryLength target entry)
        have second :=
          abs_sub_le scaled.toRat (entry.2.toRat * ratio)
            (entryLength target entry)
        rw [add_sub_add_left_eq_sub] at first
        linarith
      rw [Decimal.smallest] at *
      linarith

/--
How far a running sum may be off behind some steps that have added up a size:
the error of the ratios, and the roundings of every step.
-/
def drift (steps : Nat) (size : Rat) : Rat :=
  (3 / 10 ^ 6 + 2 * Decimal.smallest * steps) * size +
    6 / 5 * Decimal.smallest * steps

/-- A running sum is near the exact sum of entries of the given size. -/
structure Near (steps : Nat) (sum : Decimal) (exactly size : Rat) : Prop where
  error : |sum.toRat - exactly| ≤ drift steps size
  size_le : |exactly| ≤ size

namespace Near

variable {target : LengthUnit}
variable {steps : Nat}
variable {sum result : Decimal}
variable {exactly size : Rat}

/-- Nothing is converted without an error. -/
theorem start : Near 0 .zero 0 0 where
  error := by
    simp [drift]
  size_le := by
    simp

/-- A step keeps a running sum near the exact one. -/
theorem step
    (near : Near steps sum exactly size)
    (few : steps < 5)
    {entry : LengthUnit × Decimal}
    {next : Decimal}
    (added : addConverted? target sum entry = some next) :
    Near (steps + 1) next
      (exactly + entryLength target entry)
      (size + entrySize target entry) where
  error := by
    have stepError := addConverted?_error added
    have entryNonneg := entrySize_nonneg target entry
    have sizeNonneg := (abs_nonneg exactly).trans near.size_le
    have before := near.error
    have sumSize := abs_sub_abs_le_abs_sub sum.toRat exactly
    have exactSize := near.size_le
    have distance :=
      abs_sub_le next.toRat (sum.toRat + entryLength target entry)
        (exactly + entryLength target entry)
    rw [add_sub_add_right_eq_sub] at distance
    have stepsNonneg : (0 : Rat) ≤ steps := by positivity
    have stepsLess : (steps : Rat) ≤ 5 := by exact_mod_cast few.le
    have fewSize := mul_le_mul_of_nonneg_right stepsLess sizeNonneg
    have moreSize := mul_nonneg stepsNonneg entryNonneg
    simp only [drift, Decimal.smallest] at *
    push_cast
    linarith
  size_le := by
    have triangle := abs_add_le exactly (entryLength target entry)
    rw [abs_entryLength] at triangle
    linarith [near.size_le]

/-- A conversion of few entries keeps near their exact sum. -/
theorem run
    (near : Near steps sum exactly size)
    {entries : List (LengthUnit × Decimal)}
    (few : steps + entries.length ≤ 5)
    (converted : entries.foldlM (addConverted? target) sum = some result) :
    Near (steps + entries.length) result
      (exactly + (entries.map (entryLength target)).sum)
      (size + (entries.map (entrySize target)).sum) := by
  induction entries generalizing steps sum exactly size with
  | nil =>
      cases converted
      simpa using near
  | cons entry later inductionHypothesis =>
      rw [List.length_cons] at few
      rw [List.foldlM_cons, Option.bind_eq_bind, Option.bind_eq_some_iff]
        at converted
      obtain ⟨next, added, rest⟩ := converted
      have behind :=
        inductionHypothesis (near.step (by omega) added) (by omega) rest
      have stepsLater :
          steps + (later.length + 1) = steps + 1 + later.length := by
        omega
      rw [List.length_cons, stepsLater, List.map_cons, List.map_cons,
        List.sum_cons, List.sum_cons, ← add_assoc exactly, ← add_assoc size]
      exact behind

end Near

/-- There is at most one entry for each of the five units. -/
theorem length_entries_le (totals : Totals) : totals.entries.length ≤ 5 :=
  List.length_filterMap_le _ _

/-- A conversion of totals keeps to the bound. -/
theorem convert?_error
    {totals : Totals}
    {target : LengthUnit}
    {amount : Decimal}
    (converted : totals.convert? target = some amount) :
    |amount.toRat - totals.lengthIn target| ≤
      5 / 10 ^ 6 * totals.magnitudeIn target + 1 / 10 ^ 27 := by
  have few := totals.length_entries_le
  have near := Near.start.run (by omega) converted
  have error := near.error
  have magnitude := (abs_nonneg _).trans near.size_le
  have fewEntries : (totals.entries.length : Rat) ≤ 5 := by
    exact_mod_cast few
  have scaled := mul_le_mul_of_nonneg_right fewEntries magnitude
  simp only [zero_add, drift, Decimal.smallest] at error scaled
  rw [lengthIn, magnitudeIn]
  linarith

end Totals

namespace Expression

/-- A conversion converts the totals of its expression. -/
theorem totals_of_convert
    {expression : Expression}
    {target : LengthUnit}
    {result : Measurement}
    (converted : expression.convert target = .ok result) :
    ∃ totals,
      expression.totals = .ok totals ∧
        totals.convert? target = some result.amount ∧
        result.unit = target := by
  unfold convert convert? at converted
  unfold Expression.totals
  cases evaluated : expression.totals? with
  | none =>
      simp [evaluated] at converted
  | some totals =>
      refine ⟨totals, rfl, ?_⟩
      cases amount : totals.convert? target with
      | none =>
          simp [evaluated, amount] at converted
      | some found =>
          simp only [evaluated, amount, Option.map_some,
            Except.ok.injEq] at converted
          subst converted
          exact ⟨rfl, rfl⟩

/--
A conversion that succeeds is within five parts in a million of the length
without signs, and ten smallest decimals, of the exact length of the totals.
-/
theorem convert_accurate
    {expression : Expression}
    {target : LengthUnit}
    {result : Measurement}
    (converted : expression.convert target = .ok result) :
    ∃ totals,
      expression.totals = .ok totals ∧
        result.unit = target ∧
        |result.amount.toRat - totals.lengthIn target| ≤
          5 / 10 ^ 6 * totals.magnitudeIn target + 1 / 10 ^ 27 := by
  obtain ⟨totals, evaluated, amount, sameUnit⟩ := totals_of_convert converted
  exact ⟨totals, evaluated, sameUnit, Totals.convert?_error amount⟩

/-- The largest whole number of millimeters, less one pixel. -/
def largestLessPixel : Expression :=
  .subtraction
    (.ofAmount ⟨2 ^ 96 - 1, 0, by decide, Decimal.zero_scale_le⟩ .millimeter)
    (.ofAmount .one .pixel)

theorem convert_largestLessPixel :
    largestLessPixel.convert .inch =
      .ok ⟨⟨31192206810028383974915846791, 1, by decide, by decide⟩,
        .inch⟩ := by
  rw [convert, convert?, totals?_eq]
  decide

/-- Its product with the ratio and its sum are rounded to one place. -/
theorem convert_accurate_largestLessPixel :
    largestLessPixel.convert .inch =
        .ok ⟨⟨31192206810028383974915846791, 1, by decide, by decide⟩,
          .inch⟩ ∧
      ∃ totals,
        largestLessPixel.totals = .ok totals ∧
          |31192206810028383974915846791 / 10 - totals.lengthIn .inch| ≤
            5 / 10 ^ 6 * totals.magnitudeIn .inch + 1 / 10 ^ 27 := by
  have converted := convert_largestLessPixel
  obtain ⟨totals, evaluated, -, accurate⟩ := convert_accurate converted
  rw [Decimal.toRat_eq_div] at accurate
  refine ⟨converted, totals, evaluated, ?_⟩
  simpa using accurate

end Expression

end LengthCalc
