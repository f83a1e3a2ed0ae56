import LengthCalc.Expression.Conversion
import LengthCalc.Proofs.SignedLeaves

namespace LengthCalc

/-!
# Running totals

The totals of a tree, told by recursion on the tree: its terms from left to
right, those of a subtracted operand with their signs turned, are counted one
after the other.  Every unit has a running total of its own, which the terms of
other units do not touch, and the first one to leave its range is the overflow
of the whole tree.
-/

/-- The signed leaves of a unit, in their order. -/
def ofUnit (unit : LengthUnit) (counted : List (Measurement × Bool)) :
    List (Measurement × Bool) :=
  counted.filter fun leaf => leaf.1.unit = unit

namespace Decimal

/-- The checked sum or difference of a running total and a signed leaf. -/
def countLeaf? (total : Decimal) : Measurement × Bool → Option Decimal
  | (leaf, false) => total.add? leaf.amount
  | (leaf, true) => total.sub? leaf.amount

/-- A running total behind some signed leaves. -/
def countLeaves?
    (total : Decimal)
    (counted : List (Measurement × Bool)) :
    Option Decimal :=
  counted.foldlM countLeaf? total

@[simp] theorem countLeaves?_nil (total : Decimal) :
    total.countLeaves? [] = some total :=
  rfl

/-- Leaves are counted in their order. -/
theorem countLeaves?_cons
    (total : Decimal)
    (first : Measurement × Bool)
    (later : List (Measurement × Bool)) :
    total.countLeaves? (first :: later) =
      (total.countLeaf? first).bind fun updated =>
        updated.countLeaves? later :=
  rfl

/-- A running total leaves its range at one of its leaves. -/
theorem countLeaves?_eq_none_iff
    (total : Decimal)
    (counted : List (Measurement × Bool)) :
    total.countLeaves? counted = none ↔
      ∃ front leaf later reached,
        counted = front ++ leaf :: later ∧
          total.countLeaves? front = some reached ∧
          reached.countLeaf? leaf = none := by
  induction counted generalizing total with
  | nil =>
      simp
  | cons first rest inductionHypothesis =>
      rw [countLeaves?_cons, Option.bind_eq_none_iff]
      constructor
      · intro unreached
        cases step : total.countLeaf? first with
        | none =>
            exact ⟨[], first, rest, total, rfl, rfl, step⟩
        | some updated =>
            obtain ⟨front, leaf, later, reached, rfl, run, overflow⟩ :=
              (inductionHypothesis updated).mp (unreached updated step)
            refine ⟨first :: front, leaf, later, reached, rfl, ?_, overflow⟩
            rw [countLeaves?_cons, step]
            exact run
      · rintro ⟨front, leaf, later, reached, shape, run, overflow⟩ updated step
        cases front with
        | nil =>
            obtain ⟨rfl, rfl⟩ := List.cons.inj shape
            cases run
            rw [step] at overflow
            cases overflow
        | cons first' front =>
            obtain ⟨rfl, rfl⟩ := List.cons.inj shape
            rw [countLeaves?_cons, step] at run
            exact (inductionHypothesis updated).mpr
              ⟨front, leaf, later, reached, rfl, run, overflow⟩

end Decimal

namespace Totals

/-- Continue totals with more signed leaves; no total may leave its range. -/
def continued
    (totals : Totals)
    (counted : List (Measurement × Bool)) :
    Except Failure Totals :=
  match totals.countAll? counted with
  | some result => .ok result
  | none => .error .overflow

/-- A leaf is counted into the total of its unit, which is zero at first. -/
theorem count?_eq_countLeaf?
    (totals : Totals)
    (negated : Bool)
    (leaf : Measurement) :
    totals.count? negated leaf =
      ((totals.amount leaf.unit).countLeaf? (leaf, negated)).map
        (totals.insert leaf.unit) := by
  cases negated <;> rfl

/-- Counting goes on from what the leaves in front have reached. -/
theorem countAll?_append
    (totals : Totals)
    (front back : List (Measurement × Bool)) :
    totals.countAll? (front ++ back) =
      (totals.countAll? front).bind fun reached =>
        reached.countAll? back := by
  induction front generalizing totals with
  | nil =>
      rfl
  | cons first later inductionHypothesis =>
      rcases first with ⟨leaf, negated⟩
      rw [List.cons_append, countAll?, countAll?]
      cases totals.count? negated leaf with
      | none => rfl
      | some updated => exact inductionHypothesis updated

/-- A continuation by two lists is one by the first and then by the second. -/
theorem continued_append
    (totals : Totals)
    (front back : List (Measurement × Bool)) :
    totals.continued (front ++ back) =
      (totals.continued front).bind fun reached =>
        reached.continued back := by
  rw [continued, continued, countAll?_append]
  cases totals.countAll? front <;> rfl

/-- A count that succeeds has counted its first leaf. -/
theorem exists_of_countAll?_cons
    {totals result : Totals}
    {leaf : Measurement}
    {negated : Bool}
    {later : List (Measurement × Bool)}
    (run : totals.countAll? ((leaf, negated) :: later) = some result) :
    ∃ updated,
      totals.count? negated leaf = some updated ∧
        updated.countAll? later = some result := by
  rw [countAll?] at run
  cases step : totals.count? negated leaf with
  | none =>
      simp [step] at run
  | some updated =>
      exact ⟨updated, rfl, by simpa [step] using run⟩

/-- Counting one leaf is a step of the running total of its unit alone. -/
theorem ofUnit_of_count?
    {totals updated : Totals}
    {negated : Bool}
    {leaf : Measurement}
    (counted : totals.count? negated leaf = some updated)
    (unit : LengthUnit)
    (later : List (Measurement × Bool)) :
    (totals.amount unit).countLeaves? (ofUnit unit ((leaf, negated) :: later)) =
      (updated.amount unit).countLeaves? (ofUnit unit later) := by
  rw [count?_eq_countLeaf?, Option.map_eq_some_iff] at counted
  obtain ⟨sum, step, rfl⟩ := counted
  by_cases same : leaf.unit = unit
  · subst same
    simp [ofUnit, Decimal.countLeaves?_cons, step]
  · simp [ofUnit, same, Ne.symm same]

/-- Totals that are reached hold the running total of every unit. -/
theorem countLeaves?_of_countAll?
    {totals result : Totals}
    {counted : List (Measurement × Bool)}
    (run : totals.countAll? counted = some result)
    (unit : LengthUnit) :
    (totals.amount unit).countLeaves? (ofUnit unit counted) =
      some (result.amount unit) := by
  induction counted generalizing totals with
  | nil =>
      cases run
      rfl
  | cons first later inductionHypothesis =>
      rcases first with ⟨leaf, negated⟩
      obtain ⟨updated, step, rest⟩ := exists_of_countAll?_cons run
      rw [ofUnit_of_count? step]
      exact inductionHypothesis rest

/-- No totals are reached exactly if one unit leaves its range. -/
theorem countAll?_eq_none_iff
    (totals : Totals)
    (counted : List (Measurement × Bool)) :
    totals.countAll? counted = none ↔
      ∃ unit,
        (totals.amount unit).countLeaves? (ofUnit unit counted) = none := by
  constructor
  · intro unreached
    induction counted generalizing totals with
    | nil =>
        cases unreached
    | cons first later inductionHypothesis =>
        rcases first with ⟨leaf, negated⟩
        rw [countAll?] at unreached
        cases step : totals.count? negated leaf with
        | none =>
            rw [count?_eq_countLeaf?, Option.map_eq_none_iff] at step
            refine ⟨leaf.unit, ?_⟩
            simp [ofUnit, Decimal.countLeaves?_cons, step]
        | some updated =>
            obtain ⟨unit, overflow⟩ :=
              inductionHypothesis updated (by simpa [step] using unreached)
            exact ⟨unit, by rw [ofUnit_of_count? step, overflow]⟩
  · rintro ⟨unit, overflow⟩
    cases run : totals.countAll? counted with
    | none => rfl
    | some result =>
        rw [countLeaves?_of_countAll? run] at overflow
        cases overflow

/-- The units that have occurred are the former ones and those of the leaves. -/
theorem isSome_get?_of_countAll?
    {totals result : Totals}
    {counted : List (Measurement × Bool)}
    (run : totals.countAll? counted = some result)
    (unit : LengthUnit) :
    (result.get? unit).isSome = true ↔
      (totals.get? unit).isSome = true ∨ ofUnit unit counted ≠ [] := by
  induction counted generalizing totals with
  | nil =>
      cases run
      simp [ofUnit]
  | cons first later inductionHypothesis =>
      rcases first with ⟨leaf, negated⟩
      obtain ⟨updated, step, rest⟩ := exists_of_countAll?_cons run
      rw [inductionHypothesis rest, get?_of_count? step]
      by_cases same : leaf.unit = unit
      · simp [ofUnit, same]
      · simp [ofUnit, same, Ne.symm same]

end Totals

namespace Expression

/--
The terms of a tree from left to right.  A subtracted operand has the signs of
its terms turned, and brackets do not count.
-/
def signedTerms : Expression → List (Measurement × Bool)
  | .measurement leaf => [(leaf, false)]
  | .brackets inner => inner.signedTerms
  | .addition left right => left.signedTerms ++ right.signedTerms
  | .subtraction left right =>
      left.signedTerms ++ turnSigns right.signedTerms

/-- Outside of every subtraction the leaves have their own signs. -/
theorem signedLeaves_false (expression : Expression) :
    expression.signedLeaves false = expression.signedTerms := by
  induction expression with
  | measurement leaf =>
      rfl
  | brackets inner inductionHypothesis =>
      exact inductionHypothesis
  | addition left right leftHypothesis rightHypothesis =>
      rw [signedLeaves, signedTerms, leftHypothesis, rightHypothesis]
  | subtraction left right leftHypothesis rightHypothesis =>
      rw [signedLeaves, signedTerms, signedLeaves_not, leftHypothesis,
        rightHypothesis]

/-- The totals are the signed leaves counted from nothing. -/
theorem totals_eq_continued (expression : Expression) :
    expression.totals = Totals.empty.continued expression.signedTerms := by
  rw [totals, totals?_eq, signedLeaves_false]
  rfl

/-- The totals of a sum go on from those of the left operand. -/
theorem totals_addition (left right : Expression) :
    (addition left right).totals =
      left.totals.bind fun reached =>
        reached.continued right.signedTerms := by
  rw [totals_eq_continued, signedTerms, Totals.continued_append,
    ← totals_eq_continued]

/--
The totals of a difference go on from those of the left operand, with the signs
of the right one turned.
-/
theorem totals_subtraction (left right : Expression) :
    (subtraction left right).totals =
      left.totals.bind fun reached =>
        reached.continued (turnSigns right.signedTerms) := by
  rw [totals_eq_continued, signedTerms, Totals.continued_append,
    ← totals_eq_continued]

@[simp] theorem signedTerms_group (expression : Expression) :
    expression.group.signedTerms = expression.signedTerms := by
  cases expression <;> rfl

@[simp] theorem totals_group (expression : Expression) :
    expression.group.totals = expression.totals := by
  rw [totals_eq_continued, totals_eq_continued, signedTerms_group]

/-- The total of a unit is the count of its own leaves, if there are any. -/
theorem get?_of_totals
    {expression : Expression}
    {totals : Totals}
    (evaluated : expression.totals = .ok totals)
    (unit : LengthUnit) :
    totals.get? unit =
      if ofUnit unit expression.signedTerms = [] then
        none
      else
        Decimal.zero.countLeaves? (ofUnit unit expression.signedTerms) := by
  rw [totals_eq_continued, Totals.continued] at evaluated
  split at evaluated
  · next result run =>
      cases evaluated
      have occurs := Totals.isSome_get?_of_countAll? run unit
      have sum := Totals.countLeaves?_of_countAll? run unit
      rw [Totals.amount_empty] at sum
      rw [Totals.get?_empty] at occurs
      rw [sum, Totals.amount]
      cases found : totals.get? unit with
      | none =>
          have absent : ofUnit unit expression.signedTerms = [] := by
            simpa [found] using occurs
          rw [if_pos absent]
      | some total =>
          have present : ofUnit unit expression.signedTerms ≠ [] := by
            simpa [found] using occurs
          rw [if_neg present]
          rfl
  · cases evaluated

/-- The totals overflow exactly if the count of a single unit does. -/
theorem totals_overflow_iff (expression : Expression) :
    expression.totals = .error .overflow ↔
      ∃ unit,
        Decimal.zero.countLeaves? (ofUnit unit expression.signedTerms) =
          none := by
  have run :=
    Totals.countAll?_eq_none_iff Totals.empty expression.signedTerms
  simp only [Totals.amount_empty] at run
  rw [totals_eq_continued, Totals.continued, ← run]
  split <;> simp_all

/--
A tree is evaluated by counting its signed terms in order, and a sum or a
difference goes on from the totals of its left operand.  The total of a unit
is the running total of its own terms, and an evaluation overflows exactly if
at some term the running total of one unit does.
-/
theorem totals_in_order (expression other : Expression) :
    expression.totals = Totals.empty.continued expression.signedTerms ∧
      (addition expression other).totals =
        (expression.totals.bind fun reached =>
          reached.continued other.signedTerms) ∧
      (subtraction expression other).totals =
        (expression.totals.bind fun reached =>
          reached.continued (turnSigns other.signedTerms)) ∧
      (∀ totals,
        expression.totals = .ok totals →
        ∀ unit,
          totals.get? unit =
            if ofUnit unit expression.signedTerms = [] then
              none
            else
              Decimal.zero.countLeaves?
                (ofUnit unit expression.signedTerms)) ∧
      (expression.totals = .error .overflow ↔
        ∃ unit front leaf later reached,
          ofUnit unit expression.signedTerms = front ++ leaf :: later ∧
            Decimal.zero.countLeaves? front = some reached ∧
            reached.countLeaf? leaf = none) := by
  refine ⟨expression.totals_eq_continued, totals_addition expression other,
    totals_subtraction expression other, ?_, ?_⟩
  · intro totals evaluated unit
    exact get?_of_totals evaluated unit
  · rw [totals_overflow_iff]
    simp only [Decimal.countLeaves?_eq_none_iff]

end Expression

end LengthCalc
