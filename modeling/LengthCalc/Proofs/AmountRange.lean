import LengthCalc.Proofs.SignedLeaves

namespace LengthCalc

/-!
# Amounts with room for their sums

Sums of small amounts are exact.  For each unit the amounts need a common scale
at which their magnitudes together keep the bound of a coefficient; then no
choice of signs and no order of counting can round or overflow.
-/

/-- The magnitudes in one unit, added up at a scale. -/
def sizeIn (unit : LengthUnit) (scale : Nat) : List Measurement → Nat
  | [] => 0
  | leaf :: later =>
      (if leaf.unit = unit then
        (leaf.amount.coefficientAt scale).natAbs
      else
        0) + sizeIn unit scale later

/-- At some scale a total and all leaves of its unit fit together. -/
def HasRoom
    (unit : LengthUnit)
    (total : Decimal)
    (leaves : List Measurement) :
    Prop :=
  ∃ scale,
    scale ≤ 28 ∧
      total.scale ≤ scale ∧
      (∀ leaf ∈ leaves, leaf.unit = unit → leaf.amount.scale ≤ scale) ∧
      (total.coefficientAt scale).natAbs + sizeIn unit scale leaves < 2 ^ 96

/-- For every unit there is a scale at which the leaves of a tree fit. -/
def Expression.InRange (expression : Expression) : Prop :=
  ∀ unit,
    ∃ scale,
      scale ≤ 28 ∧
        (∀ leaf ∈ expression.leaves,
          leaf.unit = unit → leaf.amount.scale ≤ scale) ∧
        sizeIn unit scale expression.leaves < 2 ^ 96

namespace HasRoom

/-- A leaf of another unit takes no room. -/
theorem tail
    {unit : LengthUnit}
    {total : Decimal}
    {leaf : Measurement}
    {later : List Measurement}
    (room : HasRoom unit total (leaf :: later)) :
    HasRoom unit total later := by
  obtain ⟨scale, scaleBound, totalWithin, leavesWithin, bounded⟩ := room
  refine ⟨scale, scaleBound, totalWithin, ?_, ?_⟩
  · intro other member
    exact leavesWithin other (List.mem_cons_of_mem _ member)
  · rw [sizeIn] at bounded
    omega

/-- A leaf is added exactly and leaves room for the rest. -/
theorem add?
    {total : Decimal}
    {leaf : Measurement}
    {later : List Measurement}
    (room : HasRoom leaf.unit total (leaf :: later))
    {amount : Decimal}
    (signed : amount = leaf.amount ∨ amount = leaf.amount.neg) :
    ∃ sum,
      total.add? amount = some sum ∧
        sum.worth = total.worth + amount.worth ∧
        HasRoom leaf.unit sum later := by
  obtain ⟨scale, scaleBound, totalWithin, leavesWithin, bounded⟩ := room
  have leafWithin : leaf.amount.scale ≤ scale :=
    leavesWithin leaf (List.mem_cons_self ..) rfl
  have amountWithin : amount.scale ≤ scale := by
    rcases signed with rfl | rfl
    · exact leafWithin
    · exact leafWithin
  have sameSize :
      (amount.coefficientAt scale).natAbs =
        (leaf.amount.coefficientAt scale).natAbs := by
    rcases signed with rfl | rfl
    · rfl
    · simp
  simp only [sizeIn, ↓reduceIte, ← sameSize] at bounded
  have triangle :=
    Int.natAbs_add_le
      (total.coefficientAt scale) (amount.coefficientAt scale)
  obtain ⟨sum, added, sumWithin, exactly⟩ :=
    Decimal.add?_exact scaleBound totalWithin amountWithin (by omega)
  refine ⟨sum, added, ?_, scale, scaleBound, sumWithin, ?_, ?_⟩
  · rw [Decimal.worth, Decimal.worth, Decimal.worth,
      Decimal.coefficientAt_of_le sumWithin scaleBound,
      Decimal.coefficientAt_of_le totalWithin scaleBound,
      Decimal.coefficientAt_of_le amountWithin scaleBound,
      exactly, Int.add_mul]
  · intro other member
    exact leavesWithin other (List.mem_cons_of_mem _ member)
  · rw [exactly]
    omega

end HasRoom

/-- Leaves with room in every unit are counted exactly, whatever their signs. -/
theorem Totals.countsExactly_of_hasRoom
    {totals : Totals}
    {counted : List (Measurement × Bool)}
    (room :
      ∀ unit,
        HasRoom unit (totals.amount unit) (counted.map Prod.fst)) :
    totals.CountsExactly counted := by
  -- Counting a leaf turns room for it into its part of the total, so that the
  -- total and the leaves that remain still have room together.
  induction counted generalizing totals with
  | nil =>
      trivial
  | cons first later inductionHypothesis =>
      rcases first with ⟨leaf, negated⟩
      have signed :
          (if negated then leaf.amount.neg else leaf.amount) = leaf.amount ∨
            (if negated then leaf.amount.neg else leaf.amount) =
              leaf.amount.neg := by
        cases negated
        · exact .inl rfl
        · exact .inr rfl
      obtain ⟨sum, added, worth, left⟩ := (room leaf.unit).add? signed
      refine ⟨totals.insert leaf.unit sum, ?_, ?_, ?_⟩
      · rw [count?_eq, added]
        rfl
      · rw [amount_insert, if_pos rfl, worth]
        cases negated <;> simp [signedWorth]
      · refine inductionHypothesis ?_
        intro unit
        rw [amount_insert]
        split
        · next same =>
            rw [same]
            exact left
        · exact (room unit).tail

namespace Expression

theorem InRange.addsExactly
    {expression : Expression}
    (range : expression.InRange) :
    expression.AddsExactly := by
  refine Totals.countsExactly_of_hasRoom ?_
  intro unit
  obtain ⟨scale, scaleBound, leavesWithin, bounded⟩ := range unit
  rw [map_fst_signedLeaves, Totals.amount_empty]
  refine ⟨scale, scaleBound, Nat.zero_le scale, leavesWithin, ?_⟩
  simpa [Decimal.coefficientAt, Decimal.zero] using bounded

end Expression

end LengthCalc
