import LengthCalc.Format.Number
import LengthCalc.Proofs.NormalForm
import LengthCalc.Proofs.RoundingLaws

namespace LengthCalc

/-!
# Canonical trees

What remains of a tree once it has been written and read again: every amount is
the one that is shown, every group that carries no meaning is gone, and a right
operand without brackets has joined the chain on its left.
-/

namespace Expression

/-- Continue a chain with an operator and all operands of another chain. -/
def attach (operator : Operator) (left : Expression) :
    Expression → Expression
  | .addition first last => .addition (attach operator left first) last
  | .subtraction first last => .subtraction (attach operator left first) last
  | factor => operator.join left factor

/-- The tree with every amount replaced. -/
def mapAmounts (replace : Decimal → Decimal) : Expression → Expression
  | .measurement leaf => .measurement ⟨replace leaf.amount, leaf.unit⟩
  | .addition left right =>
      .addition (left.mapAmounts replace) (right.mapAmounts replace)
  | .subtraction left right =>
      .subtraction (left.mapAmounts replace) (right.mapAmounts replace)
  | .brackets inner => .brackets (inner.mapAmounts replace)

@[simp] theorem attach_join
    (operator inner : Operator)
    (left first last : Expression) :
    attach operator left (inner.join first last) =
      inner.join (attach operator left first) last := by
  cases inner <;> rfl

/-- A factor is attached as one operand. -/
theorem attach_of_isFactor
    (operator : Operator)
    (left : Expression)
    {right : Expression}
    (factor : right.isFactor = true) :
    attach operator left right = operator.join left right := by
  cases right with
  | measurement leaf => rfl
  | brackets inner => rfl
  | addition first last => simp [isFactor] at factor
  | subtraction first last => simp [isFactor] at factor

/-- Attaching a normal chain to a normal tree gives a normal tree. -/
theorem isNormal_attach
    (operator : Operator)
    {left right : Expression}
    (leftNormal : left.IsNormal)
    (rightNormal : right.IsNormal) :
    (attach operator left right).IsNormal := by
  induction right using join_induction with
  | measurement leaf =>
      rw [attach_of_isFactor operator left rfl, isNormal_join]
      exact ⟨leftNormal, rightNormal, rfl⟩
  | brackets inner _ =>
      rw [attach_of_isFactor operator left rfl, isNormal_join]
      exact ⟨leftNormal, rightNormal, rfl⟩
  | join inner first last firstHypothesis _ =>
      rw [isNormal_join] at rightNormal
      rw [attach_join, isNormal_join]
      exact ⟨firstHypothesis rightNormal.1, rightNormal.2⟩

/-- Attaching keeps the leaves and their order. -/
theorem leaves_attach
    (operator : Operator)
    (left right : Expression) :
    (attach operator left right).leaves = left.leaves ++ right.leaves := by
  induction right using join_induction with
  | measurement leaf =>
      rw [attach_of_isFactor operator left rfl, leaves_join]
  | brackets inner _ =>
      rw [attach_of_isFactor operator left rfl, leaves_join]
  | join inner first last firstHypothesis _ =>
      rw [attach_join, leaves_join, leaves_join, firstHypothesis,
        List.append_assoc]

@[simp] theorem mapAmounts_join
    (replace : Decimal → Decimal)
    (operator : Operator)
    (left right : Expression) :
    (operator.join left right).mapAmounts replace =
      operator.join (left.mapAmounts replace) (right.mapAmounts replace) := by
  cases operator <;> rfl

@[simp] theorem isFactor_mapAmounts
    (replace : Decimal → Decimal)
    (expression : Expression) :
    (expression.mapAmounts replace).isFactor = expression.isFactor := by
  cases expression <;> rfl

/-- A tree whose amounts are not changed is not changed. -/
theorem mapAmounts_of_fixed
    {replace : Decimal → Decimal}
    {expression : Expression}
    (fixed : ∀ leaf ∈ expression.leaves, replace leaf.amount = leaf.amount) :
    expression.mapAmounts replace = expression := by
  induction expression using join_induction with
  | measurement leaf =>
      have same := fixed leaf (by simp [leaves])
      simp [mapAmounts, same]
  | brackets inner inductionHypothesis =>
      rw [mapAmounts, inductionHypothesis fixed]
  | join operator left right leftHypothesis rightHypothesis =>
      rw [leaves_join] at fixed
      have leftSame := leftHypothesis fun leaf member =>
        fixed leaf (List.mem_append_left _ member)
      have rightSame := rightHypothesis fun leaf member =>
        fixed leaf (List.mem_append_right _ member)
      rw [mapAmounts_join, leftSame, rightSame]

end Expression

namespace FormatOptions

/--
The tree that the text of a tree stands for.  Amounts are rounded to the digits
of the format and stripped of trailing zeros, groups are built anew from their
canonical contents, and a sum or difference that stands unbracketed on the right
is attached to the left.
-/
def canonical (options : FormatOptions) : Expression → Expression
  | .measurement leaf =>
      .measurement
        ⟨(leaf.amount.roundTo options.maxFractionDigits).normalize, leaf.unit⟩
  | .brackets inner => (options.canonical inner).group
  | .addition left right =>
      .attach .plus (options.canonical left) (options.canonical right)
  | .subtraction left right =>
      .attach .minus (options.canonical left) (options.canonical right)

@[simp] theorem canonical_join
    (options : FormatOptions)
    (operator : Operator)
    (left right : Expression) :
    options.canonical (operator.join left right) =
      .attach operator (options.canonical left)
        (options.canonical right) := by
  cases operator <;> rfl

/-- Canonical trees are in normal form. -/
theorem isNormal_canonical
    (options : FormatOptions)
    (expression : Expression) :
    (options.canonical expression).IsNormal := by
  induction expression using Expression.join_induction with
  | measurement leaf =>
      trivial
  | brackets inner inductionHypothesis =>
      exact (Expression.isNormal_group _).mpr inductionHypothesis
  | join operator left right leftHypothesis rightHypothesis =>
      rw [canonical_join]
      exact Expression.isNormal_attach operator
        leftHypothesis rightHypothesis

/-- Of a tree in normal form only the amounts change. -/
theorem canonical_of_isNormal
    (options : FormatOptions)
    {expression : Expression}
    (normal : expression.IsNormal) :
    options.canonical expression = expression.mapAmounts options.rounded := by
  induction expression using Expression.join_induction with
  | measurement leaf =>
      rfl
  | brackets inner inductionHypothesis =>
      rw [canonical, inductionHypothesis normal.1,
        Expression.group_of_not_isFactor (by simpa using normal.2)]
      rfl
  | join operator left right leftHypothesis rightHypothesis =>
      obtain ⟨leftNormal, rightNormal, factor⟩ :=
        (Expression.isNormal_join operator left right).mp normal
      rw [canonical_join, leftHypothesis leftNormal,
        rightHypothesis rightNormal,
        Expression.attach_of_isFactor _ _ (by simpa using factor),
        Expression.mapAmounts_join]

/-- A tree in normal form whose amounts need no rounding is canonical. -/
theorem canonical_eq_self
    {options : FormatOptions}
    {expression : Expression}
    (normal : expression.IsNormal)
    (short :
      ∀ leaf ∈ expression.leaves,
        leaf.amount.scale ≤ options.maxFractionDigits ∧
          leaf.amount.IsBrief) :
    options.canonical expression = expression := by
  rw [options.canonical_of_isNormal normal]
  refine Expression.mapAmounts_of_fixed fun leaf member => ?_
  obtain ⟨within, brief⟩ := short leaf member
  exact rounded_of_isBrief within brief

end FormatOptions

end LengthCalc
