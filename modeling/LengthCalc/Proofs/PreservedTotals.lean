import LengthCalc.Proofs.AmountRange
import LengthCalc.Proofs.RoundTrip
import LengthCalc.Proofs.WrittenSigns

namespace LengthCalc

/-!
# Totals of written trees

A tree that is written without rounding and read again has the same totals
exactly if, in each unit, the leaves with turned signs cancel.  Trees that
subtract only measurements and groups have no such leaves.
-/

namespace FormatOptions

/-- Rounded leaves have the units that the leaves have. -/
theorem occurs_roundedLeaf
    (options : FormatOptions)
    (unit : LengthUnit)
    (leaves : List Measurement) :
    (∃ leaf ∈ leaves.map options.roundedLeaf, leaf.unit = unit) ↔
      ∃ leaf ∈ leaves, leaf.unit = unit := by
  constructor
  · rintro ⟨shown, member, ofUnit⟩
    obtain ⟨leaf, original, rfl⟩ := List.mem_map.mp member
    exact ⟨leaf, original, ofUnit⟩
  · rintro ⟨leaf, member, ofUnit⟩
    exact ⟨_, List.mem_map_of_mem member, ofUnit⟩

section Unrounded

variable {options : FormatOptions}
variable (enough : 28 ≤ options.maxFractionDigits)

include enough

/-- Enough decimal places keep the worth of an amount. -/
theorem worth_rounded (value : Decimal) :
    (options.rounded value).worth = value.worth := by
  rw [rounded_of_digits_enough enough, Decimal.worth_normalize]

/-- Enough decimal places keep the worth of the counted leaves. -/
theorem worthIn_roundedLeaf
    (unit : LengthUnit)
    (counted : List (Measurement × Bool)) :
    Totals.worthIn unit (counted.map (Prod.map options.roundedLeaf id)) =
      Totals.worthIn unit counted := by
  induction counted with
  | nil =>
      rfl
  | cons first later inductionHypothesis =>
      rw [List.map_cons, Totals.worthIn, inductionHypothesis, Totals.worthIn]
      simp [Totals.signedWorth, roundedLeaf, worth_rounded enough]

/-- Enough decimal places keep the size of the leaves at a common scale. -/
theorem sizeIn_roundedLeaf
    {unit : LengthUnit}
    {scale : Nat}
    {leaves : List Measurement}
    (within :
      ∀ leaf ∈ leaves, leaf.unit = unit → leaf.amount.scale ≤ scale) :
    sizeIn unit scale (leaves.map options.roundedLeaf) =
      sizeIn unit scale leaves := by
  induction leaves with
  | nil =>
      rfl
  | cons leaf later inductionHypothesis =>
      have laterSame := inductionHypothesis fun other member =>
        within other (List.mem_cons_of_mem leaf member)
      rw [List.map_cons, sizeIn, sizeIn, laterSame]
      by_cases ofUnit : leaf.unit = unit
      · have leafWithin := within leaf (List.mem_cons_self ..) ofUnit
        simp [roundedLeaf, ofUnit, rounded_of_digits_enough enough,
          Decimal.coefficientAt_normalize leafWithin]
      · simp [roundedLeaf, ofUnit]

/-- The tree that is read back is in range if the written one is. -/
theorem inRange_canonical
    {expression : Expression}
    (range : expression.InRange) :
    (options.canonical expression).InRange := by
  intro unit
  obtain ⟨scale, scaleBound, within, bounded⟩ := range unit
  rw [leaves_canonical]
  refine ⟨scale, scaleBound, ?_, ?_⟩
  · intro shown member ofUnit
    obtain ⟨leaf, original, rfl⟩ := List.mem_map.mp member
    have leafWithin := within leaf original ofUnit
    simp only [roundedLeaf, rounded_of_digits_enough enough]
    exact Nat.le_trans leaf.amount.scale_normalize_le leafWithin
  · rw [sizeIn_roundedLeaf enough within]
    exact bounded

/-- The totals agree exactly if the turned leaves cancel in each unit. -/
theorem sameValues_canonical_iff
    {expression : Expression}
    (exactly : expression.AddsExactly)
    (againExactly : (options.canonical expression).AddsExactly) :
    ∃ before after,
      expression.totals? = some before ∧
        (options.canonical expression).totals? = some after ∧
        (before.SameValues after ↔
          ∀ unit, Totals.worthIn unit expression.turnedLeaves = 0) := by
  obtain ⟨before, evaluated, beforeSums⟩ :=
    Expression.totals?_exact exactly
  obtain ⟨after, againEvaluated, afterSums⟩ :=
    Expression.totals?_exact againExactly
  refine ⟨before, after, evaluated, againEvaluated, ?_⟩
  have written (unit : LengthUnit) :
      (before.amount unit).worth =
        (after.amount unit).worth +
          2 * Totals.worthIn unit expression.turnedLeaves := by
    rw [(beforeSums unit).1, (afterSums unit).1, signedLeaves_canonical,
      worthIn_roundedLeaf enough]
    exact expression.worthIn_signedLeaves unit false false false
  have sameUnits (unit : LengthUnit) :
      (before.get? unit).isSome = (after.get? unit).isSome := by
    rw [Bool.eq_iff_iff, (beforeSums unit).2, (afterSums unit).2,
      leaves_canonical, occurs_roundedLeaf]
  constructor
  · intro same unit
    have equal := (Decimal.sameValue_iff _ _).mp (same unit).2
    have differs := written unit
    omega
  · intro cancel unit
    refine ⟨sameUnits unit, (Decimal.sameValue_iff _ _).mpr ?_⟩
    rw [written unit, cancel unit]
    exact Int.add_zero _

end Unrounded

/--
Text without separators and rounding is read again unless it nests too deeply,
and evaluates like its tree exactly if, in each unit, the leaves cancel whose
signs the text turns.  There are none if only measurements and groups are
subtracted.  Both evaluations have to be exact, which amounts with room for
their sums ensure.
-/
theorem totals_of_written
    {options : FormatOptions}
    (ungrouped : options.grouping = false)
    (enough : 28 ≤ options.maxFractionDigits)
    {expression : Expression}
    (within :
      bracketNesting (options.expressionText expression) ≤ nestingLimit) :
    ∃ again,
      Expression.ofText (options.expressionText expression) = .ok again ∧
        (expression.InRange →
          expression.AddsExactly ∧ again.AddsExactly) ∧
        (expression.AddsExactly →
          again.AddsExactly →
          ∃ before after,
            expression.totals? = some before ∧
              again.totals? = some after ∧
              (before.SameValues after ↔
                ∀ unit,
                  Totals.worthIn unit expression.turnedLeaves = 0) ∧
              (expression.SubtractsFactors → before.SameValues after)) := by
  have noComma := no_comma_of_ungrouped ungrouped expression
  refine ⟨options.canonical expression, ofText_canonical noComma within,
    ?_, ?_⟩
  · intro range
    exact ⟨range.addsExactly, (inRange_canonical enough range).addsExactly⟩
  · intro exactly againExactly
    obtain ⟨before, after, evaluated, againEvaluated, same⟩ :=
      sameValues_canonical_iff enough exactly againExactly
    refine ⟨before, after, evaluated, againEvaluated, same, ?_⟩
    intro factors
    rw [same, expression.turnedLeaves_eq_nil_iff.mpr factors]
    exact Totals.worthIn_nil

/-- Numbers with all digits after the point and without separators. -/
def unrounded : FormatOptions :=
  ⟨28, false⟩

end FormatOptions

namespace Expression

/-- One millimeter. -/
def millimeter : Expression :=
  .ofAmount .one .millimeter

/-- A difference that is subtracted as it is. -/
def subtractedDifference : Expression :=
  .subtraction millimeter (.subtraction millimeter millimeter)

/-- A difference that is subtracted as a group. -/
def subtractedGroup : Expression :=
  .subtraction millimeter (.brackets (.subtraction millimeter millimeter))

/-- The subtracted difference is in range. -/
theorem inRange_subtractedDifference : subtractedDifference.InRange := by
  intro unit
  refine ⟨0, by decide, ?_, ?_⟩
  · cases unit <;> decide
  · cases unit <;> decide

end Expression

namespace FormatOptions

/-- A group keeps the totals of the difference in it. -/
theorem totals_of_written_group :
    ∃ again before after,
      Expression.ofText (unrounded.expressionText .subtractedGroup) =
        .ok again ∧
        Expression.subtractedGroup.totals? = some before ∧
        again.totals? = some after ∧
        before.SameValues after := by
  have within :
      bracketNesting (unrounded.expressionText .subtractedGroup) ≤
        nestingLimit := by
    rw [bracketNesting_expressionText]
    decide
  have range : Expression.subtractedGroup.InRange :=
    Expression.inRange_subtractedDifference
  obtain ⟨again, read, ranged, totals⟩ :=
    totals_of_written (show unrounded.grouping = false from rfl)
      (Nat.le_refl 28) within
  obtain ⟨exactly, againExactly⟩ := ranged range
  obtain ⟨before, after, evaluated, againEvaluated, -, same⟩ :=
    totals exactly againExactly
  exact ⟨again, before, after, read, evaluated, againEvaluated,
    same ⟨trivial, ⟨trivial, trivial, rfl⟩, rfl⟩⟩

/-- Without a group the last sign of the difference is turned. -/
theorem totals_not_preserved :
    bracketNesting (unrounded.expressionText .subtractedDifference) ≤
        nestingLimit ∧
      Expression.subtractedDifference.InRange ∧
      ∃ again before after,
        Expression.ofText (unrounded.expressionText .subtractedDifference) =
          .ok again ∧
          Expression.subtractedDifference.totals? = some before ∧
          again.totals? = some after ∧
          ¬ before.SameValues after := by
  have within :
      bracketNesting (unrounded.expressionText .subtractedDifference) ≤
        nestingLimit := by
    rw [bracketNesting_expressionText]
    decide
  have range := Expression.inRange_subtractedDifference
  have enough : 28 ≤ unrounded.maxFractionDigits := Nat.le_refl 28
  have noComma :=
    no_comma_of_ungrouped (show unrounded.grouping = false from rfl)
      .subtractedDifference
  obtain ⟨before, after, evaluated, againEvaluated, same⟩ :=
    sameValues_canonical_iff enough range.addsExactly
      (inRange_canonical enough range).addsExactly
  refine ⟨within, range, _, before, after, ofText_canonical noComma within,
    evaluated, againEvaluated, ?_⟩
  intro preserved
  have cancel := same.mp preserved .millimeter
  revert cancel
  decide

end FormatOptions

end LengthCalc
