import LengthCalc.Proofs.CanonicalTree
import LengthCalc.Proofs.SignedLeaves

namespace LengthCalc

/-!
# Written signs

Without brackets around a right operand its leaves are written with the signs
of the operators in front of them, whatever subtractions they stand in.  The
leaves for which this makes a difference are turned.
-/

namespace Expression

/--
The leaves with the signs that the text gives them: the first one has the sign
`first`, and the others that of the operator in front of them, seen from
brackets with the sign `around`.
-/
def writtenLeaves (around first : Bool) :
    Expression → List (Measurement × Bool)
  | .measurement leaf => [(leaf, first)]
  | .brackets inner => inner.writtenLeaves first first
  | .addition left right =>
      left.writtenLeaves around first ++ right.writtenLeaves around around
  | .subtraction left right =>
      left.writtenLeaves around first ++ right.writtenLeaves around (!around)

/-- The leaves that are counted with one sign and written with the other. -/
def turnedFrom (negated around first : Bool) :
    Expression → List (Measurement × Bool)
  | .measurement leaf => if negated = first then [] else [(leaf, negated)]
  | .brackets inner => inner.turnedFrom negated first first
  | .addition left right =>
      left.turnedFrom negated around first ++
        right.turnedFrom negated around around
  | .subtraction left right =>
      left.turnedFrom negated around first ++
        right.turnedFrom (!negated) around (!around)

/-- The leaves of a tree whose signs its text turns, as they are counted. -/
def turnedLeaves (expression : Expression) : List (Measurement × Bool) :=
  expression.turnedFrom false false false

/-- No sum or difference is subtracted without brackets. -/
def SubtractsFactors : Expression → Prop
  | .measurement _ => True
  | .brackets inner => inner.SubtractsFactors
  | .addition left right =>
      left.SubtractsFactors ∧ right.SubtractsFactors
  | .subtraction left right =>
      left.SubtractsFactors ∧ right.SubtractsFactors ∧
        right.isFactor = true

/--
The written leaves of two operands stand one behind the other, with the sign of
the operator.
-/
theorem writtenLeaves_join
    (operator : Operator)
    (around first : Bool)
    (left right : Expression) :
    (operator.join left right).writtenLeaves around first =
      left.writtenLeaves around first ++
        right.writtenLeaves around (operator.turn around) := by
  cases operator <;> rfl

/-- The turned leaves of two operands stand one behind the other. -/
theorem turnedFrom_join
    (operator : Operator)
    (negated around first : Bool)
    (left right : Expression) :
    (operator.join left right).turnedFrom negated around first =
      left.turnedFrom negated around first ++
        right.turnedFrom
          (operator.turn negated) around (operator.turn around) := by
  cases operator <;> rfl

/-- In a factor only the sign in front of it counts. -/
theorem turnedFrom_of_isFactor
    {expression : Expression}
    (factor : expression.isFactor = true)
    (negated around first : Bool) :
    expression.turnedFrom negated around first =
      expression.turnedFrom negated first first := by
  cases expression with
  | measurement leaf => rfl
  | brackets inner => rfl
  | addition left right => simp [isFactor] at factor
  | subtraction left right => simp [isFactor] at factor

/-- What is written differs from what is counted by twice the turned leaves. -/
theorem worthIn_signedLeaves
    (unit : LengthUnit)
    (expression : Expression)
    (negated around first : Bool) :
    Totals.worthIn unit (expression.signedLeaves negated) =
      Totals.worthIn unit (expression.writtenLeaves around first) +
        2 * Totals.worthIn unit
          (expression.turnedFrom negated around first) := by
  induction expression using join_induction generalizing negated around first with
  | measurement leaf =>
      cases negated <;> cases first <;>
        simp [signedLeaves, writtenLeaves, turnedFrom, Totals.worthIn,
          Totals.signedWorth]
      all_goals
        split <;> omega
  | brackets inner inductionHypothesis =>
      exact inductionHypothesis negated first first
  | join operator left right leftHypothesis rightHypothesis =>
      have leftDiffers := leftHypothesis negated around first
      have rightDiffers :=
        rightHypothesis (operator.turn negated) around (operator.turn around)
      rw [signedLeaves_join, writtenLeaves_join, turnedFrom_join,
        Totals.worthIn_append, Totals.worthIn_append, Totals.worthIn_append]
      omega

/-- If no leaf is turned, the leaves are written as they are counted. -/
theorem writtenLeaves_of_turnedFrom_eq_nil
    {expression : Expression}
    {negated around first : Bool}
    (unturned : expression.turnedFrom negated around first = []) :
    expression.writtenLeaves around first =
      expression.signedLeaves negated := by
  induction expression using join_induction generalizing negated around first with
  | measurement leaf =>
      have same : negated = first := by
        simpa [turnedFrom] using unturned
      rw [writtenLeaves, signedLeaves, same]
  | brackets inner inductionHypothesis =>
      exact inductionHypothesis unturned
  | join operator left right leftHypothesis rightHypothesis =>
      rw [turnedFrom_join, List.append_eq_nil_iff] at unturned
      rw [writtenLeaves_join, signedLeaves_join, leftHypothesis unturned.1,
        rightHypothesis unturned.2]

/-- The first leaf is not turned only if it is written as it is counted. -/
theorem sign_of_turnedFrom_eq_nil
    {expression : Expression}
    {negated around first : Bool}
    (unturned : expression.turnedFrom negated around first = []) :
    negated = first := by
  induction expression using join_induction generalizing negated around first with
  | measurement leaf =>
      simpa [turnedFrom] using unturned
  | brackets inner inductionHypothesis =>
      exact inductionHypothesis unturned
  | join operator left right leftHypothesis _ =>
      rw [turnedFrom_join, List.append_eq_nil_iff] at unturned
      exact leftHypothesis unturned.1

/--
A subtracted operand keeps its signs exactly if it is a factor that keeps them
on its own: the second operand of a sum or difference would be turned.
-/
theorem turnedFrom_not_eq_nil_iff
    (expression : Expression)
    (sign : Bool) :
    expression.turnedFrom (!sign) sign (!sign) = [] ↔
      expression.turnedFrom (!sign) (!sign) (!sign) = [] ∧
        expression.isFactor = true := by
  cases factor : expression.isFactor with
  | true =>
      rw [turnedFrom_of_isFactor factor]
      simp
  | false =>
      obtain ⟨operator, left, right, rfl⟩ :=
        exists_join_of_not_isFactor factor
      refine ⟨?_, by simp⟩
      intro unturned
      rw [turnedFrom_join, List.append_eq_nil_iff] at unturned
      -- The second operand follows an operator that stands outside the
      -- subtraction in the text, but inside it in the tree.
      have same := sign_of_turnedFrom_eq_nil unturned.2
      cases operator <;> simp [Operator.turn] at same

/-- No leaf is turned exactly if only factors are subtracted. -/
theorem turnedFrom_self_eq_nil_iff
    (expression : Expression)
    (sign : Bool) :
    expression.turnedFrom sign sign sign = [] ↔
      expression.SubtractsFactors := by
  induction expression generalizing sign with
  | measurement leaf =>
      simp [turnedFrom, SubtractsFactors]
  | brackets inner inductionHypothesis =>
      exact inductionHypothesis sign
  | addition left right leftHypothesis rightHypothesis =>
      rw [turnedFrom, List.append_eq_nil_iff, leftHypothesis,
        rightHypothesis, SubtractsFactors]
  | subtraction left right leftHypothesis rightHypothesis =>
      rw [turnedFrom, List.append_eq_nil_iff, leftHypothesis,
        turnedFrom_not_eq_nil_iff, rightHypothesis, SubtractsFactors]

/-- No sign is turned exactly if nothing but factors is subtracted. -/
theorem turnedLeaves_eq_nil_iff (expression : Expression) :
    expression.turnedLeaves = [] ↔ expression.SubtractsFactors :=
  expression.turnedFrom_self_eq_nil_iff false

/-- A normal tree subtracts nothing but factors. -/
theorem IsNormal.subtractsFactors
    {expression : Expression}
    (normal : expression.IsNormal) :
    expression.SubtractsFactors := by
  induction expression with
  | measurement leaf =>
      trivial
  | brackets inner inductionHypothesis =>
      exact inductionHypothesis normal.1
  | addition left right leftHypothesis rightHypothesis =>
      exact ⟨leftHypothesis normal.1, rightHypothesis normal.2.1⟩
  | subtraction left right leftHypothesis rightHypothesis =>
      exact ⟨leftHypothesis normal.1, rightHypothesis normal.2.1, normal.2.2⟩

/-- The leaves of a normal tree have the signs that are written. -/
theorem IsNormal.signedLeaves_eq
    {expression : Expression}
    (normal : expression.IsNormal)
    (sign : Bool) :
    expression.signedLeaves sign = expression.writtenLeaves sign sign := by
  have unturned :=
    (expression.turnedFrom_self_eq_nil_iff sign).mpr normal.subtractsFactors
  exact (writtenLeaves_of_turnedFrom_eq_nil unturned).symm

/-- Attaching keeps the operators in front of all operands. -/
theorem writtenLeaves_attach
    (operator : Operator)
    (around first : Bool)
    (left right : Expression) :
    (attach operator left right).writtenLeaves around first =
      left.writtenLeaves around first ++
        right.writtenLeaves around (operator.turn around) := by
  induction right using join_induction with
  | measurement leaf =>
      rw [attach_of_isFactor operator left rfl, writtenLeaves_join]
  | brackets inner _ =>
      rw [attach_of_isFactor operator left rfl, writtenLeaves_join]
  | join inner front last frontHypothesis _ =>
      rw [attach_join, writtenLeaves_join, writtenLeaves_join,
        frontHypothesis, List.append_assoc]

/-- In brackets only the sign in front of them counts. -/
theorem writtenLeaves_group
    (around first : Bool)
    (inner : Expression) :
    inner.group.writtenLeaves around first =
      inner.writtenLeaves first first := by
  cases inner <;> rfl

end Expression

namespace FormatOptions

/-- A leaf with its amount as it is shown. -/
def roundedLeaf
    (options : FormatOptions)
    (leaf : Measurement) :
    Measurement :=
  ⟨options.rounded leaf.amount, leaf.unit⟩

/-- The canonical tree is written with the signs of the tree. -/
theorem writtenLeaves_canonical
    (options : FormatOptions)
    (expression : Expression)
    (around first : Bool) :
    (options.canonical expression).writtenLeaves around first =
      (expression.writtenLeaves around first).map
        (Prod.map options.roundedLeaf id) := by
  induction expression using Expression.join_induction
      generalizing around first with
  | measurement leaf =>
      rfl
  | brackets inner inductionHypothesis =>
      rw [canonical, Expression.writtenLeaves_group, inductionHypothesis,
        Expression.writtenLeaves]
  | join operator left right leftHypothesis rightHypothesis =>
      rw [canonical_join, Expression.writtenLeaves_attach, leftHypothesis,
        rightHypothesis, Expression.writtenLeaves_join, List.map_append]

/-- The canonical tree counts its leaves as the text of the tree has them. -/
theorem signedLeaves_canonical
    (options : FormatOptions)
    (expression : Expression) :
    (options.canonical expression).signedLeaves false =
      (expression.writtenLeaves false false).map
        (Prod.map options.roundedLeaf id) := by
  rw [(options.isNormal_canonical expression).signedLeaves_eq,
    writtenLeaves_canonical]

/-- The tree that is read back has the leaves in their order, each one rounded.
-/
theorem leaves_canonical
    (options : FormatOptions)
    (expression : Expression) :
    (options.canonical expression).leaves =
      expression.leaves.map options.roundedLeaf := by
  induction expression using Expression.join_induction with
  | measurement leaf =>
      rfl
  | brackets inner inductionHypothesis =>
      rw [canonical, Expression.leaves_group, inductionHypothesis]
      rfl
  | join operator left right leftHypothesis rightHypothesis =>
      rw [canonical_join, Expression.leaves_attach, leftHypothesis,
        rightHypothesis, Expression.leaves_join, List.map_append]

end FormatOptions

end LengthCalc
