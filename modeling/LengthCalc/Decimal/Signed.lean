import LengthCalc.Decimal.Text

namespace LengthCalc

/-!
# Decimals with a sign of their own

A decimal as it is held and passed on: the sign stands beside the magnitude, so
that a zero can be negative.  It is written with its sign.  What is computed or
read is a decimal by its value, and a zero among these has no sign.
-/

/-- A magnitude divided by ten to the power of a scale, and a sign. -/
structure SignedDecimal where
  isNegative : Bool
  magnitude : Nat
  scale : Nat
  magnitude_lt : magnitude < 2 ^ 96
  scale_le : scale ≤ 28
  deriving Repr

namespace SignedDecimal

instance : DecidableEq SignedDecimal := fun left right =>
  decidable_of_iff
    (left.isNegative = right.isNegative ∧
      left.magnitude = right.magnitude ∧ left.scale = right.scale) <| by
    cases left
    cases right
    simp

/-- The decimal of the same value and scale. -/
def value (amount : SignedDecimal) : Decimal where
  coefficient :=
    if amount.isNegative then -(amount.magnitude : Int) else amount.magnitude
  scale := amount.scale
  coefficient_lt := by
    have bound := amount.magnitude_lt
    split <;> simpa using bound
  scale_le := amount.scale_le

/-- A decimal with the sign of its value. -/
def ofDecimal (value : Decimal) : SignedDecimal :=
  ⟨decide (value.coefficient < 0), value.coefficient.natAbs, value.scale,
    value.coefficient_lt, value.scale_le⟩

/-- The characters of a decimal as it is written, with its sign. -/
def toChars (amount : SignedDecimal) : List Char :=
  (if amount.isNegative then ['-'] else []) ++
    amount.value.wholeDigits ++ amount.value.fractionChars

/-- The text of a decimal as it is written, with its sign. -/
def text (amount : SignedDecimal) : String :=
  String.ofList amount.toChars

/-- A zero with a minus sign. -/
def IsNegativeZero (amount : SignedDecimal) : Prop :=
  amount.isNegative = true ∧ amount.magnitude = 0

instance (amount : SignedDecimal) : Decidable amount.IsNegativeZero :=
  inferInstanceAs (Decidable (_ ∧ _))

/-- The decimal, without its sign if it is zero. -/
def withoutZeroSign (amount : SignedDecimal) : SignedDecimal :=
  { amount with
    isNegative := amount.isNegative && decide (amount.magnitude ≠ 0) }

/-- A decimal has the value that it was made of. -/
@[simp] theorem value_ofDecimal (value : Decimal) :
    (ofDecimal value).value = value := by
  refine Decimal.ext_of_parts ?_ rfl
  simp only [SignedDecimal.value, ofDecimal, decide_eq_true_eq]
  split <;> omega

/-- Going through the value takes the sign of a zero. -/
@[simp] theorem ofDecimal_value (amount : SignedDecimal) :
    ofDecimal amount.value = amount.withoutZeroSign := by
  rcases amount with ⟨isNegative, magnitude, scale, bounded, scaleBound⟩
  cases isNegative <;>
    simp [ofDecimal, value, withoutZeroSign, Nat.pos_iff_ne_zero]

/-- Only the sign of a zero is taken. -/
theorem withoutZeroSign_eq_self_iff (amount : SignedDecimal) :
    amount.withoutZeroSign = amount ↔ ¬ amount.IsNegativeZero := by
  rcases amount with ⟨isNegative, magnitude, scale, bounded, scaleBound⟩
  cases isNegative <;> simp [withoutZeroSign, IsNegativeZero]

end SignedDecimal

end LengthCalc
