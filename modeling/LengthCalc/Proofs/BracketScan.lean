import LengthCalc.Expression.Fault
import LengthCalc.Proofs.TokenOrder

namespace LengthCalc

/-!
# Brackets from left to right

A flat scan of a list of tokens that keeps the number of open brackets and
stops where a bracket closes nothing or too many brackets are open.  With the
last token it tells what is wrong with the tokens of a text.
-/

/-- How the brackets of some tokens come out. -/
inductive BracketCourse where
  /-- A bracket closes nothing. -/
  | unopened
  /-- More brackets are open than are read. -/
  | tooDeep
  /-- The tokens end with some brackets still open. -/
  | ends (balance : Nat)
  deriving Repr, DecidableEq

namespace Token

/-- How the brackets come out when some brackets are open already. -/
def course (balance : Nat) : List Token → BracketCourse
  | [] => .ends balance
  | .openBracket :: later =>
      if nestingLimit < balance + 1 then
        .tooDeep
      else
        course (balance + 1) later
  | .closeBracket :: later =>
      match balance with
      | 0 => .unopened
      | balance + 1 => course balance later
  | _ :: later => course balance later

/-- A bracket beyond the limit ends the scan. -/
theorem course_openBracket_beyond
    {balance : Nat}
    (beyond : nestingLimit < balance + 1)
    (later : List Token) :
    course balance (.openBracket :: later) = .tooDeep := by
  rw [course, if_pos beyond]

/-- A bracket within the limit is one more that is open. -/
theorem course_openBracket
    {balance : Nat}
    (within : balance + 1 ≤ nestingLimit)
    (later : List Token) :
    course balance (.openBracket :: later) = course (balance + 1) later := by
  rw [course, if_neg (Nat.not_lt.mpr within)]

@[simp] theorem course_unopened (later : List Token) :
    course 0 (.closeBracket :: later) = .unopened :=
  rfl

@[simp] theorem course_closeBracket (balance : Nat) (later : List Token) :
    course (balance + 1) (.closeBracket :: later) = course balance later :=
  rfl

@[simp] theorem course_measurement
    (balance : Nat)
    (amount : Decimal)
    (lengthUnit : LengthUnit)
    (later : List Token) :
    course balance (.number amount :: .unit lengthUnit :: later) =
      course balance later :=
  rfl

@[simp] theorem course_number
    (balance : Nat)
    (amount : Decimal) :
    course balance [.number amount] = .ends balance :=
  rfl

@[simp] theorem course_operator
    (balance : Nat)
    (operator : Operator)
    (later : List Token) :
    course balance (operator.token :: later) = course balance later := by
  cases operator <;> rfl

/--
What is wrong with the tokens of a text: a bracket that closes nothing or too
many open brackets, whichever comes first, else a last number without a unit,
else brackets that are still open.
-/
def fault? (tokens : List Token) : Option SyntaxFault :=
  match course 0 tokens with
  | .unopened => some (.leftover .closeBracket)
  | .tooDeep => some .tooDeep
  | .ends balance =>
      match tokens.getLast? with
      | some (.number amount) => some (.unitMissing amount)
      | _ => if 0 < balance then some .closingMissing else none

/-- Behind a last operand only brackets can be missing. -/
theorem fault?_of_last_operand
    {tokens : List Token}
    {balance : Nat}
    (ends : course 0 tokens = .ends balance)
    (noNumber : ∀ amount, tokens.getLast? ≠ some (.number amount)) :
    fault? tokens = if 0 < balance then some .closingMissing else none := by
  cases last : tokens.getLast? with
  | none =>
      simp [fault?, ends, last]
  | some token =>
      cases token with
      | number amount =>
          exact (noNumber amount last).elim
      | _ =>
          simp [fault?, ends, last]

/-- The scan finds four kinds of faults. -/
theorem fault?_cases
    {tokens : List Token}
    {fault : SyntaxFault}
    (found : fault? tokens = some fault) :
    fault = .leftover .closeBracket ∨
      fault = .tooDeep ∨
      (∃ amount, fault = .unitMissing amount) ∨
      fault = .closingMissing := by
  unfold fault? at found
  split at found
  · exact .inl (Option.some.inj found).symm
  · exact .inr (.inl (Option.some.inj found).symm)
  · split at found
    · next amount _ =>
        exact .inr (.inr (.inl ⟨amount, (Option.some.inj found).symm⟩))
    · split at found
      · exact .inr (.inr (.inr (Option.some.inj found).symm))
      · cases found

end Token

/-- Behind an operand the last token is not a number. -/
theorem TokenPlace.getLast?_ne_number
    {tokens : List Token}
    (reached : TokenPlace.operand.run? tokens = some .operator)
    (amount : Decimal) :
    tokens.getLast? ≠ some (.number amount) := by
  intro isNumber
  obtain ⟨front, rfl⟩ := List.getLast?_eq_some_iff.mp isNumber
  obtain ⟨middle, -, expected⟩ := exists_of_run?_concat reached
  cases middle <;> cases expected

end LengthCalc
