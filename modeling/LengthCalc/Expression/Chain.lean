import LengthCalc.Expression.Basic

namespace LengthCalc

/-!
# Chains

A tree taken apart along its left operands: a first operand, which is a
measurement or a group, and the operations that follow it from left to right.
-/

/-- The two operators. -/
inductive Operator where
  | plus
  | minus
  deriving Repr, DecidableEq

/-- The sign of an operator. -/
def Operator.sign : Operator → String
  | .plus => "+"
  | .minus => "-"

/-- A first operand and the operations that follow it. -/
structure Chain where
  head : Expression
  operations : List (Operator × Expression)
  deriving Repr, DecidableEq

namespace Chain

/-- The nodes that operations contribute to a tree. -/
def operationsSize : List (Operator × Expression) → Nat
  | [] => 0
  | (_, right) :: later => 1 + right.nodeCount + operationsSize later

end Chain

namespace Expression

/-- The chain of a tree, followed by further operations. -/
def chainOnto : Expression → List (Operator × Expression) → Chain
  | .addition left right, later =>
      left.chainOnto ((.plus, right) :: later)
  | .subtraction left right, later =>
      left.chainOnto ((.minus, right) :: later)
  | .measurement leaf, later =>
      ⟨.measurement leaf, later⟩
  | .brackets inner, later =>
      ⟨.brackets inner, later⟩

/-- Taking a tree apart keeps all its nodes. -/
theorem chainOnto_size
    (expression : Expression)
    (later : List (Operator × Expression)) :
    (expression.chainOnto later).head.nodeCount +
        Chain.operationsSize (expression.chainOnto later).operations =
      expression.nodeCount + Chain.operationsSize later := by
  induction expression generalizing later with
  | measurement leaf => rfl
  | brackets inner => rfl
  | addition left right leftHypothesis _ =>
      rw [chainOnto, leftHypothesis]
      simp only [Chain.operationsSize, nodeCount]
      omega
  | subtraction left right leftHypothesis _ =>
      rw [chainOnto, leftHypothesis]
      simp only [Chain.operationsSize, nodeCount]
      omega

/-- The operations that follow a tree stay at the end of its chain. -/
theorem chainOnto_append
    (expression : Expression)
    (later : List (Operator × Expression)) :
    expression.chainOnto later =
      ⟨(expression.chainOnto []).head,
        (expression.chainOnto []).operations ++ later⟩ := by
  induction expression generalizing later with
  | measurement leaf => rfl
  | brackets inner => rfl
  | addition left right leftHypothesis _ =>
      rw [chainOnto, chainOnto, leftHypothesis,
        leftHypothesis [(Operator.plus, right)]]
      simp
  | subtraction left right leftHypothesis _ =>
      rw [chainOnto, chainOnto, leftHypothesis,
        leftHypothesis [(Operator.minus, right)]]
      simp

/-- Every tree keeps the operations that follow it. -/
theorem operationsSize_le_chainOnto
    (expression : Expression)
    (later : List (Operator × Expression)) :
    Chain.operationsSize later ≤
      Chain.operationsSize (expression.chainOnto later).operations := by
  induction expression generalizing later with
  | measurement leaf => exact Nat.le_refl _
  | brackets inner => exact Nat.le_refl _
  | addition left right leftHypothesis _ =>
      refine Nat.le_trans ?_ (leftHypothesis _)
      simp only [Chain.operationsSize]
      omega
  | subtraction left right leftHypothesis _ =>
      refine Nat.le_trans ?_ (leftHypothesis _)
      simp only [Chain.operationsSize]
      omega

end Expression

end LengthCalc
