import LengthCalc.Expression.Chain

namespace LengthCalc

/-!
# Trees in normal form

A tree is in normal form when every right operand is a measurement or a group
and every group holds a sum or a difference.  This is the shape in which
brackets are written exactly where the tree has a group.
-/

/-- The tree that an operator makes of its two operands. -/
def Operator.join : Operator → Expression → Expression → Expression
  | .plus => .addition
  | .minus => .subtraction

namespace Expression

/-- Whether a tree is a single measurement. -/
def isMeasurement : Expression → Bool
  | .measurement _ => true
  | _ => false

/-- The measurements of a tree from left to right. -/
def leaves : Expression → List Measurement
  | .measurement leaf => [leaf]
  | .addition left right => left.leaves ++ right.leaves
  | .subtraction left right => left.leaves ++ right.leaves
  | .brackets inner => inner.leaves

/-- The largest number of groups around a measurement. -/
def groupDepth : Expression → Nat
  | .measurement _ => 0
  | .addition left right => max left.groupDepth right.groupDepth
  | .subtraction left right => max left.groupDepth right.groupDepth
  | .brackets inner => inner.groupDepth + 1

/-- Right operands are factors, and groups hold no factors. -/
def IsNormal : Expression → Prop
  | .measurement _ => True
  | .addition left right =>
      left.IsNormal ∧ right.IsNormal ∧ right.isFactor = true
  | .subtraction left right =>
      left.IsNormal ∧ right.IsNormal ∧ right.isFactor = true
  | .brackets inner => inner.IsNormal ∧ inner.isFactor = false

/--
To show a property of all trees, treat sums and differences as one case: an
operator that joins two trees with the property.
-/
@[elab_as_elim]
theorem join_induction
    {holds : Expression → Prop}
    (measurement : ∀ leaf, holds (.measurement leaf))
    (brackets : ∀ inner, holds inner → holds (.brackets inner))
    (join :
      ∀ (operator : Operator) left right,
        holds left → holds right → holds (operator.join left right))
    (expression : Expression) :
    holds expression := by
  induction expression with
  | measurement leaf =>
      exact measurement leaf
  | brackets inner inductionHypothesis =>
      exact brackets inner inductionHypothesis
  | addition left right leftHypothesis rightHypothesis =>
      exact join .plus left right leftHypothesis rightHypothesis
  | subtraction left right leftHypothesis rightHypothesis =>
      exact join .minus left right leftHypothesis rightHypothesis

@[simp] theorem isFactor_join
    (operator : Operator)
    (left right : Expression) :
    (operator.join left right).isFactor = false := by
  cases operator <;> rfl

@[simp] theorem leaves_join
    (operator : Operator)
    (left right : Expression) :
    (operator.join left right).leaves = left.leaves ++ right.leaves := by
  cases operator <;> rfl

@[simp] theorem groupDepth_join
    (operator : Operator)
    (left right : Expression) :
    (operator.join left right).groupDepth =
      max left.groupDepth right.groupDepth := by
  cases operator <;> rfl

@[simp] theorem isNormal_join
    (operator : Operator)
    (left right : Expression) :
    (operator.join left right).IsNormal ↔
      left.IsNormal ∧ right.IsNormal ∧ right.isFactor = true := by
  cases operator <;> rfl

/-- The chain of a joined tree has one operation more than its left operand. -/
theorem chainOnto_join
    (operator : Operator)
    (left right : Expression) :
    (operator.join left right).chainOnto [] =
      ⟨(left.chainOnto []).head,
        (left.chainOnto []).operations ++ [(operator, right)]⟩ := by
  rw [← left.chainOnto_append]
  cases operator <;> rfl

/-- What is not a factor is a sum or a difference. -/
theorem exists_join_of_not_isFactor
    {expression : Expression}
    (compound : expression.isFactor = false) :
    ∃ operator left right, expression = Operator.join operator left right := by
  cases expression with
  | measurement leaf => simp [isFactor] at compound
  | brackets inner => simp [isFactor] at compound
  | addition left right => exact ⟨.plus, left, right, rfl⟩
  | subtraction left right => exact ⟨.minus, left, right, rfl⟩

/-- What is not a factor is put in brackets. -/
theorem group_of_not_isFactor
    {expression : Expression}
    (compound : expression.isFactor = false) :
    expression.group = .brackets expression := by
  simp [group, compound]

@[simp] theorem isFactor_group (expression : Expression) :
    expression.group.isFactor = true := by
  cases expression <;> rfl

@[simp] theorem leaves_group (expression : Expression) :
    expression.group.leaves = expression.leaves := by
  cases expression <;> rfl

@[simp] theorem isNormal_group (expression : Expression) :
    expression.group.IsNormal ↔ expression.IsNormal := by
  cases expression <;> simp [group, isFactor, IsNormal]

/-- Grouping nests at most one level deeper. -/
theorem groupDepth_group_le (expression : Expression) :
    expression.group.groupDepth ≤ expression.groupDepth + 1 := by
  unfold group
  split
  · omega
  · exact Nat.le_refl _

end Expression

end LengthCalc
