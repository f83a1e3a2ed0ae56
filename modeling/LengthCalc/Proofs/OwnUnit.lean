import LengthCalc.Proofs.EqualValues
import LengthCalc.Proofs.RunningTotals
import LengthCalc.Proofs.StableResults

namespace LengthCalc

/-!
# Conversion within a unit

A tree over one unit has one total, and converting it into that unit is a
product with one added to zero.  Neither step rounds or leaves the range, even
at the largest coefficients and scales, so the result is the total, and the
conversion overflows only where the total itself does.
-/

namespace Decimal

/-- A product with one has the value of the other factor. -/
theorem map_worth_mul?_one (value : Decimal) :
    (value.mul? .one).map worth = some value.worth := by
  have grown : value.worth * 10 ^ (56 - 28) = value.worth * one.worth :=
    rfl
  rw [map_worth_mul?, mulWorth?, ← map_worth_fit?_of_eq (by decide) grown,
    map_worth_fit?_worth]

end Decimal

namespace Totals

/-- A single total is converted within its unit to a number equal to it. -/
theorem exists_convert?_of_single
    {totals : Totals}
    {unit : LengthUnit}
    {total : Decimal}
    (only : totals.entries = [(unit, total)]) :
    ∃ amount,
      totals.convert? unit = some amount ∧
        amount.sameValue total = true := by
  obtain ⟨amount, multiplied, worth⟩ :=
    Option.map_eq_some_iff.mp total.map_worth_mul?_one
  refine ⟨amount, ?_, (Decimal.sameValue_iff _ _).mpr worth⟩
  simp [convert?, only, addConverted?, LengthUnit.ratio, multiplied]

end Totals

theorem ofUnit_ne_nil_iff
    (unit : LengthUnit)
    (counted : List (Measurement × Bool)) :
    ofUnit unit counted ≠ [] ↔
      ∃ leaf ∈ counted.map Prod.fst, leaf.unit = unit := by
  constructor
  · intro nonempty
    obtain ⟨leaf, member⟩ := List.exists_mem_of_ne_nil _ nonempty
    obtain ⟨inAll, same⟩ := List.mem_filter.mp member
    exact ⟨leaf.1, List.mem_map_of_mem inAll, by simpa using same⟩
  · rintro ⟨_, member, same⟩
    obtain ⟨leaf, inAll, rfl⟩ := List.mem_map.mp member
    exact List.ne_nil_of_mem
      (List.mem_filter.mpr ⟨inAll, by simpa using same⟩)

namespace Expression

theorem leaves_ne_nil (expression : Expression) : expression.leaves ≠ [] := by
  induction expression using join_induction with
  | measurement leaf => simp [leaves]
  | brackets inner inductionHypothesis => exact inductionHypothesis
  | join operator left right leftHypothesis _ => simp [leftHypothesis]

/-- A tree has a total for every unit that occurs in it, and for no other. -/
theorem isSome_get?_of_totals
    {expression : Expression}
    {totals : Totals}
    (evaluated : expression.totals = .ok totals)
    (unit : LengthUnit) :
    (totals.get? unit).isSome = true ↔
      ∃ leaf ∈ expression.leaves, leaf.unit = unit := by
  rw [totals_eq_continued, Totals.continued] at evaluated
  split at evaluated
  · next result run =>
      cases evaluated
      rw [Totals.isSome_get?_of_countAll? run, Totals.get?_empty,
        ofUnit_ne_nil_iff, ← signedLeaves_false, map_fst_signedLeaves]
      simp
  · cases evaluated

/-- A tree over one unit has its total and no other. -/
theorem exists_entries_of_single
    {expression : Expression}
    {unit : LengthUnit}
    {totals : Totals}
    (single : ∀ leaf ∈ expression.leaves, leaf.unit = unit)
    (evaluated : expression.totals = .ok totals) :
    ∃ total, totals.entries = [(unit, total)] := by
  have occurs := isSome_get?_of_totals evaluated
  obtain ⟨leaf, member⟩ := List.exists_mem_of_ne_nil _ expression.leaves_ne_nil
  obtain ⟨total, found⟩ :=
    Option.isSome_iff_exists.mp
      ((occurs unit).mpr ⟨leaf, member, single leaf member⟩)
  have only : totals = Totals.empty.insert unit total := by
    refine Totals.ext_get? fun other => ?_
    rw [Totals.get?_insert, Totals.get?_empty]
    split
    · next same => rw [same, found]
    · next different =>
        refine Option.not_isSome_iff_eq_none.mp fun present => ?_
        obtain ⟨leaf, member, ofOther⟩ := (occurs other).mp present
        exact different (ofOther.symm.trans (single leaf member))
  exact ⟨total, by rw [only, Totals.entries_insert_empty]⟩

/-- A tree over one unit is converted within it just as it is added up. -/
theorem convert_alike_of_single
    {expression : Expression}
    {unit : LengthUnit}
    (single : ∀ leaf ∈ expression.leaves, leaf.unit = unit) :
    CalculateAlike
      (fun totals result =>
        ∃ total,
          totals.entries = [(unit, total)] ∧
            result.unit = unit ∧
            result.amount.sameValue total = true)
      expression.totals (expression.convert unit) := by
  cases evaluated : expression.totals? with
  | none =>
      simp only [totals, convert, convert?, evaluated]
      exact .overflow
  | some totals =>
      have succeeds : expression.totals = .ok totals := by
        simp only [Expression.totals, evaluated]
      obtain ⟨total, entries⟩ := exists_entries_of_single single succeeds
      obtain ⟨amount, converted, same⟩ :=
        Totals.exists_convert?_of_single entries
      simp only [succeeds, convert, convert?, evaluated, converted,
        Option.map_some]
      exact .results ⟨total, entries, rfl, same⟩

/-- A measurement is converted into its own unit, to an equal one. -/
theorem exists_convert_ofAmount (amount : Decimal) (unit : LengthUnit) :
    ∃ again,
      (ofAmount amount unit).convert unit = .ok again ∧
        again.sameValue ⟨amount, unit⟩ = true := by
  obtain ⟨product, multiplied, worth⟩ :=
    Option.map_eq_some_iff.mp amount.map_worth_mul?_one
  have scaled : amount.mul? (LengthUnit.ratio unit unit) = some product := by
    rw [LengthUnit.ratio, if_pos rfl, multiplied]
  have same := (Decimal.sameValue_iff product amount).mpr worth
  exact ⟨_, convert_ofAmount_eq_ok_iff.mpr ⟨product, scaled, rfl⟩,
    by simp [Measurement.sameValue, same]⟩

/--
Converting within a unit changes nothing.  A tree over one unit has a result in
it exactly if it has a total, and both are equal; and a result, taken as a tree
of its own, is converted into its unit again without overflow, to an equal one.
-/
theorem convert_within_unit (expression : Expression) (unit : LengthUnit) :
    ((∀ leaf ∈ expression.leaves, leaf.unit = unit) →
      CalculateAlike
        (fun totals result =>
          ∃ total,
            totals.entries = [(unit, total)] ∧
              result.unit = unit ∧
              result.amount.sameValue total = true)
        expression.totals (expression.convert unit)) ∧
      ∀ result,
        expression.convert unit = .ok result →
        ∃ again,
          (measurement result).convert unit = .ok again ∧
            again.sameValue result = true := by
  refine ⟨convert_alike_of_single, ?_⟩
  rintro ⟨amount, resultUnit⟩ converted
  obtain ⟨-, -, -, rfl⟩ := totals_of_convert converted
  exact exists_convert_ofAmount amount resultUnit

/-- The smallest whole number of pixels, and two fifths of one. -/
def smallestAndPart : Expression :=
  .addition
    (.ofAmount ⟨-(2 ^ 96 - 1), 0, by decide, Decimal.zero_scale_le⟩ .pixel)
    (.ofAmount ⟨4, 1, by decide, Decimal.one_scale_le⟩ .pixel)

/-- The part is rounded away in the total, which is the smallest number again. -/
theorem convert_within_unit_smallest :
    (∀ leaf ∈ smallestAndPart.leaves, leaf.unit = .pixel) ∧
      smallestAndPart.totals =
        .ok (Totals.empty.insert .pixel
          ⟨-(2 ^ 96 - 1), 0, by decide, Decimal.zero_scale_le⟩) ∧
      ∃ result again,
        smallestAndPart.convert .pixel = .ok result ∧
          result.amount.sameValue
            ⟨-(2 ^ 96 - 1), 0, by decide, Decimal.zero_scale_le⟩ = true ∧
          (measurement result).convert .pixel = .ok again ∧
          again.sameValue result = true := by
  have single : ∀ leaf ∈ smallestAndPart.leaves, leaf.unit = .pixel := by
    decide
  have evaluated :
      smallestAndPart.totals =
        .ok (Totals.empty.insert .pixel
          ⟨-(2 ^ 96 - 1), 0, by decide, Decimal.zero_scale_le⟩) := by
    rw [totals, totals?_eq]
    decide
  obtain ⟨within, again⟩ := convert_within_unit smallestAndPart .pixel
  have alike := within single
  rw [evaluated] at alike
  generalize converted : smallestAndPart.convert .pixel = outcome at alike
  cases alike with
  | @results _ result agree =>
      obtain ⟨total, entries, -, same⟩ := agree
      rw [Totals.entries_insert_empty, List.cons.injEq, Prod.mk.injEq] at entries
      obtain ⟨second, repeated, equal⟩ := again result converted
      refine ⟨single, evaluated, result, second, rfl, ?_, repeated, equal⟩
      rw [entries.1.2]
      exact same

end Expression

end LengthCalc
