import LengthCalc.Expression.Totals
import LengthCalc.Proofs.ExactSums
import LengthCalc.Proofs.NormalForm

namespace LengthCalc

/-!
# Signed leaves

The totals of a tree are the fold of its leaves, each with the sign that the
subtractions around it give it.  A fold in which no sum is rounded or leaves
its range holds the exact signed sums, and so does every fold over amounts that
have room enough.
-/

/-- The sign that an operator gives to its right operand. -/
def Operator.turn : Operator → Bool → Bool
  | .plus, negated => negated
  | .minus, negated => !negated

/-- An operator turns opposite signs to opposite signs. -/
theorem Operator.turn_not (operator : Operator) (negated : Bool) :
    operator.turn (!negated) = !operator.turn negated := by
  cases operator <;> rfl

/-- Signed leaves with all their signs turned. -/
def turnSigns (counted : List (Measurement × Bool)) :
    List (Measurement × Bool) :=
  counted.map (Prod.map id not)

@[simp] theorem turnSigns_append (front back : List (Measurement × Bool)) :
    turnSigns (front ++ back) = turnSigns front ++ turnSigns back :=
  List.map_append

namespace Expression

/-- The leaves from left to right with the signs that they are counted with. -/
def signedLeaves (negated : Bool) : Expression → List (Measurement × Bool)
  | .measurement leaf => [(leaf, negated)]
  | .brackets inner => inner.signedLeaves negated
  | .addition left right =>
      left.signedLeaves negated ++ right.signedLeaves negated
  | .subtraction left right =>
      left.signedLeaves negated ++ right.signedLeaves (!negated)

/--
The signed leaves of two operands stand one behind the other, with the right
signs turned by the operator.
-/
theorem signedLeaves_join
    (operator : Operator)
    (negated : Bool)
    (left right : Expression) :
    (operator.join left right).signedLeaves negated =
      left.signedLeaves negated ++
        right.signedLeaves (operator.turn negated) := by
  cases operator <;> rfl

/-- Signs apart, the signed leaves are the leaves. -/
theorem map_fst_signedLeaves (negated : Bool) (expression : Expression) :
    (expression.signedLeaves negated).map Prod.fst = expression.leaves := by
  induction expression using join_induction generalizing negated with
  | measurement leaf =>
      rfl
  | brackets inner inductionHypothesis =>
      exact inductionHypothesis negated
  | join operator left right leftHypothesis rightHypothesis =>
      rw [signedLeaves_join, List.map_append, leftHypothesis,
        rightHypothesis, leaves_join]

/-- Turning the sign that a tree is reached with turns all its signs. -/
theorem signedLeaves_not (negated : Bool) (expression : Expression) :
    expression.signedLeaves (!negated) =
      turnSigns (expression.signedLeaves negated) := by
  induction expression using join_induction generalizing negated with
  | measurement leaf =>
      rfl
  | brackets inner inductionHypothesis =>
      exact inductionHypothesis negated
  | join operator left right leftHypothesis rightHypothesis =>
      rw [signedLeaves_join, signedLeaves_join, operator.turn_not,
        leftHypothesis, rightHypothesis, turnSigns_append]

end Expression

namespace Totals

/-- Count signed leaves from left to right. -/
def countAll? (totals : Totals) : List (Measurement × Bool) → Option Totals
  | [] => some totals
  | (leaf, negated) :: later =>
      match totals.count? negated leaf with
      | none => none
      | some updated => updated.countAll? later

/-- What a signed leaf adds, in units of the smallest decimal. -/
def signedWorth (counted : Measurement × Bool) : Int :=
  if counted.2 then -counted.1.amount.worth else counted.1.amount.worth

/-- What signed leaves add to the total of a unit. -/
def worthIn (unit : LengthUnit) : List (Measurement × Bool) → Int
  | [] => 0
  | counted :: later =>
      (if counted.1.unit = unit then signedWorth counted else 0) +
        worthIn unit later

/-- Every leaf is counted without rounding and without leaving the range. -/
def CountsExactly (totals : Totals) : List (Measurement × Bool) → Prop
  | [] => True
  | (leaf, negated) :: later =>
      ∃ updated,
        totals.count? negated leaf = some updated ∧
          (updated.amount leaf.unit).worth =
            (totals.amount leaf.unit).worth + signedWorth (leaf, negated) ∧
          updated.CountsExactly later

/-- The same units occur, with numerically equal totals. -/
def SameValues (left right : Totals) : Prop :=
  ∀ unit,
    (left.get? unit).isSome = (right.get? unit).isSome ∧
      (left.amount unit).sameValue (right.amount unit) = true

@[simp] theorem worthIn_nil (unit : LengthUnit) : worthIn unit [] = 0 :=
  rfl

@[simp] theorem worthIn_append
    (unit : LengthUnit)
    (front back : List (Measurement × Bool)) :
    worthIn unit (front ++ back) =
      worthIn unit front + worthIn unit back := by
  induction front with
  | nil =>
      simp
  | cons counted rest inductionHypothesis =>
      rw [List.cons_append, worthIn, worthIn, inductionHypothesis,
        Int.add_assoc]

@[simp] theorem worthIn_turnSigns
    (unit : LengthUnit)
    (counted : List (Measurement × Bool)) :
    worthIn unit (turnSigns counted) = -worthIn unit counted := by
  induction counted with
  | nil =>
      rfl
  | cons first later inductionHypothesis =>
      rcases first with ⟨leaf, negated⟩
      have turned :
          signedWorth (leaf, !negated) = -signedWorth (leaf, negated) := by
        cases negated <;> simp [signedWorth]
      have shape :
          turnSigns ((leaf, negated) :: later) =
            (leaf, !negated) :: turnSigns later :=
        rfl
      rw [shape, worthIn, worthIn, inductionHypothesis, turned]
      split <;> omega

@[simp] theorem amount_insert
    (totals : Totals)
    (unit other : LengthUnit)
    (amount : Decimal) :
    (totals.insert unit amount).amount other =
      if other = unit then amount else totals.amount other := by
  rw [Totals.amount, get?_insert]
  split <;> rfl

@[simp] theorem amount_empty (unit : LengthUnit) :
    empty.amount unit = .zero := by
  rw [Totals.amount, get?_empty]
  rfl

/-- Counting a leaf adds its amount with its sign to the total of its unit. -/
theorem count?_eq
    (totals : Totals)
    (negated : Bool)
    (leaf : Measurement) :
    totals.count? negated leaf =
      ((totals.amount leaf.unit).add?
        (if negated then leaf.amount.neg else leaf.amount)).map
          (totals.insert leaf.unit) := by
  cases negated <;> rfl

/-- Counting a leaf changes the total of its unit only. -/
theorem get?_of_count?
    {totals updated : Totals}
    {negated : Bool}
    {leaf : Measurement}
    (counted : totals.count? negated leaf = some updated)
    (unit : LengthUnit) :
    updated.get? unit =
      if unit = leaf.unit then
        some (updated.amount leaf.unit)
      else
        totals.get? unit := by
  rw [count?_eq, Option.map_eq_some_iff] at counted
  obtain ⟨sum, -, rfl⟩ := counted
  simp

/-- Leaves that are counted exactly add what they are worth. -/
theorem countAll?_exact
    {totals : Totals}
    {counted : List (Measurement × Bool)}
    (exactly : totals.CountsExactly counted) :
    ∃ result,
      totals.countAll? counted = some result ∧
        ∀ unit,
          (result.amount unit).worth =
              (totals.amount unit).worth + worthIn unit counted ∧
            ((result.get? unit).isSome = true ↔
              (totals.get? unit).isSome = true ∨
                ∃ leaf ∈ counted.map Prod.fst, leaf.unit = unit) := by
  induction counted generalizing totals with
  | nil =>
      exact ⟨totals, rfl, by simp⟩
  | cons first later inductionHypothesis =>
      rcases first with ⟨leaf, negated⟩
      obtain ⟨updated, step, worth, rest⟩ := exactly
      obtain ⟨result, run, sums⟩ := inductionHypothesis rest
      refine ⟨result, by simp [countAll?, step, run], ?_⟩
      intro unit
      have other := get?_of_count? step unit
      by_cases same : unit = leaf.unit
      · subst same
        constructor
        · rw [(sums leaf.unit).1, worth, worthIn]
          simp [Int.add_assoc]
        · rw [(sums leaf.unit).2, other]
          simp
      · have kept : updated.amount unit = totals.amount unit := by
          simp [Totals.amount, other, same]
        constructor
        · rw [(sums unit).1, kept, worthIn]
          simp [Ne.symm same]
        · rw [(sums unit).2, other]
          simp [same, Ne.symm same]

end Totals

namespace Expression

/-- The counting loop counts the signed leaves of what is pending, in order. -/
theorem countPending?_eq
    (totals : Totals)
    (pending : List (Expression × Bool)) :
    countPending? totals pending =
      totals.countAll?
        (pending.flatMap fun entry => entry.1.signedLeaves entry.2) := by
  fun_induction countPending? totals pending with
  | case1 totals =>
      rfl
  | case2 totals leaf negated pending overflow =>
      simp [signedLeaves, Totals.countAll?, overflow]
  | case3 totals leaf negated pending updated counted inductionHypothesis =>
      simp [signedLeaves, Totals.countAll?, counted, inductionHypothesis]
  | case4 totals left right negated pending inductionHypothesis =>
      simpa [signedLeaves] using inductionHypothesis
  | case5 totals left right negated pending inductionHypothesis =>
      simpa [signedLeaves] using inductionHypothesis
  | case6 totals inner negated pending inductionHypothesis =>
      simpa [signedLeaves] using inductionHypothesis

/-- The totals of a tree are the fold of its signed leaves. -/
theorem totals?_eq (expression : Expression) :
    expression.totals? =
      Totals.empty.countAll? (expression.signedLeaves false) := by
  rw [totals?, countPending?_eq]
  simp

/-- No sum in the evaluation of a tree is rounded or leaves its range. -/
def AddsExactly (expression : Expression) : Prop :=
  Totals.empty.CountsExactly (expression.signedLeaves false)

/-- Such a tree has the exact signed sums as its totals. -/
theorem totals?_exact
    {expression : Expression}
    (exactly : expression.AddsExactly) :
    ∃ result,
      expression.totals? = some result ∧
        ∀ unit,
          (result.amount unit).worth =
              Totals.worthIn unit (expression.signedLeaves false) ∧
            ((result.get? unit).isSome = true ↔
              ∃ leaf ∈ expression.leaves, leaf.unit = unit) := by
  obtain ⟨result, run, sums⟩ := Totals.countAll?_exact exactly
  refine ⟨result, by rw [totals?_eq, run], ?_⟩
  intro unit
  simpa [map_fst_signedLeaves] using sums unit

end Expression

end LengthCalc
