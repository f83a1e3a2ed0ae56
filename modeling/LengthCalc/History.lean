import LengthCalc.Expression.Basic

namespace LengthCalc

/-!
# History

The most recent calculations, the newest first.  A history never holds more of
them than its limit; what is too much is dropped from the old end.
-/

/-- An expression and its result. -/
structure Calculation where
  expression : Expression
  result : Measurement
  deriving Repr, DecidableEq

/-- Calculations, the newest first, and the largest number that is kept. -/
structure History where
  limit : Nat
  entries : List Calculation
  length_le : entries.length ≤ limit

namespace History

/-- The history without any calculation. -/
def empty (limit : Nat) : History :=
  ⟨limit, [], Nat.zero_le limit⟩

/-- Put a calculation in front. -/
def push (history : History) (calculation : Calculation) : History :=
  ⟨history.limit, (calculation :: history.entries).take history.limit,
    List.length_take_le _ _⟩

/-- Putting a calculation in front keeps the limit. -/
@[simp] theorem push_limit (history : History) (calculation : Calculation) :
    (history.push calculation).limit = history.limit :=
  rfl

/-- The newest calculations are kept, as many as the limit allows. -/
theorem entries_push (history : History) (calculation : Calculation) :
    (history.push calculation).entries =
      (calculation :: history.entries).take history.limit :=
  rfl

end History

end LengthCalc
