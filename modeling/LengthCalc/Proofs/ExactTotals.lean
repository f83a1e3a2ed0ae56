import LengthCalc.Expression.Conversion
import LengthCalc.Proofs.AmountRange
import Mathlib.Algebra.Order.Field.Rat

namespace LengthCalc

/-!
# Exact totals

The totals of a tree whose leaves have room for their sums are rational sums.
A leaf is negative in them where it stands in the right operand of an odd
number of subtractions.  So totals add and subtract with their trees, and do
not depend on how the terms are grouped and ordered.
-/

namespace Decimal

/-- The rational number that is worth a number of smallest decimals. -/
def ratOfWorth (worth : Int) : Rat :=
  mkRat worth (10 ^ 28)

@[simp] theorem ratOfWorth_zero : ratOfWorth 0 = 0 :=
  Rat.zero_mkRat _

/-- The rational of a sum of worths is the sum of the rationals. -/
theorem ratOfWorth_add (left right : Int) :
    ratOfWorth (left + right) = ratOfWorth left + ratOfWorth right := by
  rw [ratOfWorth, ratOfWorth, ratOfWorth,
    Rat.mkRat_add_mkRat _ _ (by decide) (by decide), ← Int.add_mul,
    Rat.mkRat_mul_right (by decide)]

/-- The rational of a negated worth is the negated rational. -/
theorem ratOfWorth_neg (worth : Int) :
    ratOfWorth (-worth) = -ratOfWorth worth :=
  (Rat.neg_mkRat worth _).symm

/-- The rational of a value is that of its worth. -/
theorem toRat_eq (value : Decimal) :
    value.toRat = ratOfWorth value.worth := by
  have places : 28 - value.scale + value.scale = 28 :=
    Nat.sub_add_cancel value.scale_le
  rw [toRat, ratOfWorth,
    Rat.mkRat_eq_iff (Nat.ne_of_gt (Nat.pow_pos (by decide))) (by decide),
    worth, coefficientAt, Int.mul_assoc, Int.natCast_pow, Int.natCast_pow]
  exact congrArg (value.coefficient * ·)
    ((congrArg ((10 : Int) ^ ·) places).symm.trans (Int.pow_add _ _ _))

end Decimal

/-- What a leaf behind some subtractions adds to the exact total of a unit. -/
def exactPart (unit : LengthUnit) (counted : Measurement × Nat) : Rat :=
  if counted.1.unit = unit then
    if counted.2 % 2 = 1 then
      -counted.1.amount.toRat
    else
      counted.1.amount.toRat
  else
    0

namespace Expression

/--
The leaves with the numbers of subtractions that they stand in the right
operand of, when the tree itself stands in those of some already.
-/
def countedLeaves (subtractions : Nat) :
    Expression → List (Measurement × Nat)
  | .measurement leaf => [(leaf, subtractions)]
  | .brackets inner => inner.countedLeaves subtractions
  | .addition left right =>
      left.countedLeaves subtractions ++ right.countedLeaves subtractions
  | .subtraction left right =>
      left.countedLeaves subtractions ++
        right.countedLeaves (subtractions + 1)

/-- The exact total of a unit. -/
def exactSum (expression : Expression) (unit : LengthUnit) : Rat :=
  ((expression.countedLeaves 0).map (exactPart unit)).sum

/--
The worth of the signed leaves is the sum of the counted ones, below any number
of subtractions.
-/
theorem ratOfWorth_worthIn
    (unit : LengthUnit)
    (expression : Expression)
    (subtractions : Nat) :
    Decimal.ratOfWorth
        (Totals.worthIn unit
          (expression.signedLeaves (decide (subtractions % 2 = 1)))) =
      ((expression.countedLeaves subtractions).map (exactPart unit)).sum := by
  induction expression generalizing subtractions with
  | measurement leaf =>
      have single :
          ([(leaf, subtractions)].map (exactPart unit)).sum =
            exactPart unit (leaf, subtractions) :=
        Rat.add_zero _
      rw [signedLeaves, countedLeaves, single]
      by_cases ofUnit : leaf.unit = unit <;>
        by_cases odd : subtractions % 2 = 1 <;>
        simp [Totals.worthIn, Totals.signedWorth, exactPart, ofUnit, odd,
          Decimal.toRat_eq, Decimal.ratOfWorth_neg]
  | brackets inner inductionHypothesis =>
      exact inductionHypothesis subtractions
  | addition left right leftHypothesis rightHypothesis =>
      simp only [signedLeaves, countedLeaves, Totals.worthIn_append,
        Decimal.ratOfWorth_add, List.map_append, List.sum_append,
        leftHypothesis, rightHypothesis]
  | subtraction left right leftHypothesis rightHypothesis =>
      have turned :
          (!decide (subtractions % 2 = 1)) =
            decide ((subtractions + 1) % 2 = 1) := by
        grind
      simp only [signedLeaves, countedLeaves, Totals.worthIn_append,
        Decimal.ratOfWorth_add, List.map_append, List.sum_append, turned,
        leftHypothesis, rightHypothesis]

/-- The worth of the leaves with their signs is the exact sum. -/
theorem ratOfWorth_signedLeaves
    (unit : LengthUnit)
    (expression : Expression) :
    Decimal.ratOfWorth
        (Totals.worthIn unit (expression.signedLeaves false)) =
      expression.exactSum unit :=
  ratOfWorth_worthIn unit expression 0

end Expression

@[simp] theorem sizeIn_append
    (unit : LengthUnit)
    (scale : Nat)
    (front back : List Measurement) :
    sizeIn unit scale (front ++ back) =
      sizeIn unit scale front + sizeIn unit scale back := by
  induction front with
  | nil =>
      simp [sizeIn]
  | cons leaf later inductionHypothesis =>
      rw [List.cons_append, sizeIn, sizeIn, inductionHypothesis,
        Nat.add_assoc]

/-- The order of leaves does not matter for the room that they take. -/
theorem sizeIn_perm
    {unit : LengthUnit}
    {scale : Nat}
    {leaves leaves' : List Measurement}
    (order : leaves.Perm leaves') :
    sizeIn unit scale leaves = sizeIn unit scale leaves' := by
  induction order with
  | nil =>
      rfl
  | cons leaf _ inductionHypothesis =>
      rw [sizeIn, sizeIn, inductionHypothesis]
  | swap leaf other later =>
      simp only [sizeIn]
      exact Nat.add_left_comm _ _ _
  | trans _ _ first second =>
      exact first.trans second

/-- The order of leaves does not matter for what they add. -/
theorem Totals.worthIn_perm
    {unit : LengthUnit}
    {counted counted' : List (Measurement × Bool)}
    (order : counted.Perm counted') :
    worthIn unit counted = worthIn unit counted' := by
  induction order with
  | nil =>
      rfl
  | cons leaf _ inductionHypothesis =>
      rw [worthIn, worthIn, inductionHypothesis]
  | swap leaf other later =>
      simp only [worthIn]
      exact Int.add_left_comm _ _ _
  | trans _ _ first second =>
      exact first.trans second

namespace Expression

/-- The operands of a tree in range are in range. -/
theorem InRange.operands
    {operator : Operator}
    {left right : Expression}
    (range : (operator.join left right).InRange) :
    left.InRange ∧ right.InRange := by
  constructor
  · intro unit
    obtain ⟨scale, scaleBound, within, bounded⟩ := range unit
    rw [leaves_join] at within bounded
    rw [sizeIn_append] at bounded
    exact ⟨scale, scaleBound,
      fun leaf member => within leaf (List.mem_append_left _ member),
      by omega⟩
  · intro unit
    obtain ⟨scale, scaleBound, within, bounded⟩ := range unit
    rw [leaves_join] at within bounded
    rw [sizeIn_append] at bounded
    exact ⟨scale, scaleBound,
      fun leaf member => within leaf (List.mem_append_right _ member),
      by omega⟩

/-- Signed leaves in another order are leaves in another order. -/
theorem leaves_perm
    {expression other : Expression}
    (order :
      (expression.signedLeaves false).Perm (other.signedLeaves false)) :
    expression.leaves.Perm other.leaves := by
  have mapped := order.map Prod.fst
  rwa [map_fst_signedLeaves, map_fst_signedLeaves] at mapped

/-- Other trees with the same signed leaves are in range, too. -/
theorem InRange.perm
    {expression other : Expression}
    (range : expression.InRange)
    (order :
      (expression.signedLeaves false).Perm (other.signedLeaves false)) :
    other.InRange := by
  have leaves := leaves_perm order
  intro unit
  obtain ⟨scale, scaleBound, within, bounded⟩ := range unit
  refine ⟨scale, scaleBound, ?_, ?_⟩
  · intro leaf member
    exact within leaf (leaves.mem_iff.mpr member)
  · rw [← sizeIn_perm leaves]
    exact bounded

/-- The totals of a tree: those of its units, with their exact values. -/
structure HasTotals (expression : Expression) (totals : Totals) : Prop where
  evaluated : expression.totals = .ok totals
  occurs :
    ∀ unit,
      (totals.get? unit).isSome = true ↔
        ∃ leaf ∈ expression.leaves, leaf.unit = unit
  worth :
    ∀ unit,
      (totals.amount unit).worth =
        Totals.worthIn unit (expression.signedLeaves false)

/-- An expression in range has totals. -/
theorem InRange.hasTotals
    {expression : Expression}
    (range : expression.InRange) :
    ∃ totals, expression.HasTotals totals := by
  obtain ⟨result, evaluated, sums⟩ := totals?_exact range.addsExactly
  refine ⟨result, ?_, fun unit => (sums unit).2, fun unit => (sums unit).1⟩
  rw [Expression.totals, evaluated]

namespace HasTotals

variable {expression : Expression}
variable {totals : Totals}

/-- A unit that does not occur has the total zero. -/
theorem toRat_amount
    (has : expression.HasTotals totals)
    (unit : LengthUnit) :
    (totals.amount unit).toRat = expression.exactSum unit := by
  rw [Decimal.toRat_eq, has.worth, ratOfWorth_signedLeaves]

/-- A total is the exact sum of its unit. -/
theorem toRat_of_get?
    (has : expression.HasTotals totals)
    {unit : LengthUnit}
    {total : Decimal}
    (found : totals.get? unit = some total) :
    total.toRat = expression.exactSum unit := by
  rw [← has.toRat_amount, Totals.amount, found]
  rfl

/-- The totals of an expression in brackets are those of the expression. -/
theorem inner
    {inner : Expression}
    (has : (brackets inner).HasTotals totals) :
    inner.HasTotals totals where
  evaluated := by
    rw [← has.evaluated, Expression.totals, Expression.totals, totals?_eq,
      totals?_eq]
    rfl
  occurs := has.occurs
  worth := has.worth

/-- Trees with the same signed leaves have numerically equal totals. -/
theorem sameValues
    {other : Expression}
    {again : Totals}
    (has : expression.HasTotals totals)
    (hasAgain : other.HasTotals again)
    (order :
      (expression.signedLeaves false).Perm (other.signedLeaves false)) :
    totals.SameValues again := by
  intro unit
  constructor
  · rw [Bool.eq_iff_iff, has.occurs, hasAgain.occurs]
    have leaves := leaves_perm order
    simp only [leaves.mem_iff]
  · rw [Decimal.sameValue_iff, has.worth, hasAgain.worth,
      Totals.worthIn_perm order]

end HasTotals

/-- The exact sum of a sum is the sum of the exact sums. -/
theorem exactSum_addition (left right : Expression) (unit : LengthUnit) :
    (addition left right).exactSum unit =
      left.exactSum unit + right.exactSum unit := by
  simp [exactSum, countedLeaves]

/-- The exact sum of a difference is the difference of the exact sums. -/
theorem exactSum_subtraction (left right : Expression) (unit : LengthUnit) :
    (subtraction left right).exactSum unit =
      left.exactSum unit - right.exactSum unit := by
  rw [← ratOfWorth_signedLeaves, ← ratOfWorth_signedLeaves,
    ← ratOfWorth_signedLeaves, signedLeaves, Totals.worthIn_append,
    signedLeaves_not, Totals.worthIn_turnSigns, Decimal.ratOfWorth_add,
    Decimal.ratOfWorth_neg, Rat.sub_eq_add_neg]

/-- The operands of a tree in range have exact totals, too. -/
theorem InRange.hasTotals_operands
    {operator : Operator}
    {left right : Expression}
    (range : (operator.join left right).InRange) :
    ∃ ofLeft ofRight, left.HasTotals ofLeft ∧ right.HasTotals ofRight := by
  obtain ⟨leftRange, rightRange⟩ := range.operands
  obtain ⟨ofLeft, hasLeft⟩ := leftRange.hasTotals
  obtain ⟨ofRight, hasRight⟩ := rightRange.hasTotals
  exact ⟨ofLeft, ofRight, hasLeft, hasRight⟩

/--
A tree in range has totals for exactly its units, which are the exact sums of
its leaves.  They add and subtract with the operands, go through brackets, and
are the same for every tree with the same signed leaves in another order.
-/
theorem totals_of_inRange
    {expression : Expression}
    (range : expression.InRange) :
    ∃ totals,
      expression.totals = .ok totals ∧
        (∀ unit,
          (totals.get? unit).isSome = true ↔
            ∃ leaf ∈ expression.leaves, leaf.unit = unit) ∧
        (∀ unit total,
          totals.get? unit = some total →
          total.toRat = expression.exactSum unit) ∧
        (∀ left right,
          expression = .addition left right →
          ∃ ofLeft ofRight,
            left.totals = .ok ofLeft ∧
              right.totals = .ok ofRight ∧
              ∀ unit,
                (totals.amount unit).toRat =
                  (ofLeft.amount unit).toRat +
                    (ofRight.amount unit).toRat) ∧
        (∀ left right,
          expression = .subtraction left right →
          ∃ ofLeft ofRight,
            left.totals = .ok ofLeft ∧
              right.totals = .ok ofRight ∧
              ∀ unit,
                (totals.amount unit).toRat =
                  (ofLeft.amount unit).toRat -
                    (ofRight.amount unit).toRat) ∧
        (∀ inner,
          expression = .brackets inner →
          inner.totals = .ok totals) ∧
        (∀ other : Expression,
          (expression.signedLeaves false).Perm (other.signedLeaves false) →
          ∃ again,
            other.totals = .ok again ∧ totals.SameValues again) := by
  obtain ⟨totals, has⟩ := range.hasTotals
  refine ⟨totals, has.evaluated, has.occurs,
    fun unit total found => has.toRat_of_get? found, ?_, ?_, ?_, ?_⟩
  · rintro left right rfl
    obtain ⟨ofLeft, ofRight, hasLeft, hasRight⟩ :=
      InRange.hasTotals_operands
        (show (Operator.plus.join left right).InRange from range)
    refine ⟨ofLeft, ofRight, hasLeft.evaluated, hasRight.evaluated, ?_⟩
    intro unit
    rw [has.toRat_amount, hasLeft.toRat_amount, hasRight.toRat_amount,
      exactSum_addition]
  · rintro left right rfl
    obtain ⟨ofLeft, ofRight, hasLeft, hasRight⟩ :=
      InRange.hasTotals_operands
        (show (Operator.minus.join left right).InRange from range)
    refine ⟨ofLeft, ofRight, hasLeft.evaluated, hasRight.evaluated, ?_⟩
    intro unit
    rw [has.toRat_amount, hasLeft.toRat_amount, hasRight.toRat_amount,
      exactSum_subtraction]
  · rintro inner rfl
    exact has.inner.evaluated
  · intro other order
    obtain ⟨again, hasAgain⟩ := (range.perm order).hasTotals
    exact ⟨again, hasAgain.evaluated, has.sameValues hasAgain order⟩

/-- One and a half centimeters less a quarter of one and two millimeters. -/
def mixedDifference : Expression :=
  .subtraction
    (.ofAmount ⟨15, 1, by decide, Decimal.one_scale_le⟩ .centimeter)
    (.addition
      (.ofAmount ⟨25, 2, by decide, by decide⟩ .centimeter)
      (.ofAmount ⟨2, 0, by decide, by decide⟩ .millimeter))

/-- The difference with two scales of one unit is in range. -/
theorem inRange_mixedDifference : mixedDifference.InRange := by
  intro unit
  refine ⟨2, by decide, ?_, ?_⟩
  · cases unit <;> decide
  · cases unit <;> decide

theorem totals_of_mixedDifference :
    mixedDifference.InRange ∧
      ∃ totals,
        mixedDifference.totals = .ok totals ∧
          ∃ total,
            totals.get? .centimeter = some total ∧
              total.toRat = mkRat 5 4 := by
  have range := inRange_mixedDifference
  obtain ⟨totals, evaluated, occurs, exactly, -⟩ := totals_of_inRange range
  have occursCentimeter : (totals.get? .centimeter).isSome = true :=
    (occurs .centimeter).mpr (by decide)
  obtain ⟨total, found⟩ := Option.isSome_iff_exists.mp occursCentimeter
  have sum : mixedDifference.exactSum .centimeter = mkRat 5 4 := by
    decide +kernel
  exact ⟨range, totals, evaluated, total, found,
    (exactly .centimeter total found).trans sum⟩

end Expression

end LengthCalc
