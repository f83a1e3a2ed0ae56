import LengthCalc.Proofs.Grammar

namespace LengthCalc

/-!
# The order of tokens

Which tokens stand behind which in a text, its brackets not being matched:

```text
operands := operand (('+' | '-') operand)*
operand  := '('* number unit ')'*
```

The last operand may end with its number.  A small automaton tells the same
token by token.
-/

/-- The tokens of an operand between brackets that need not match. -/
inductive OperandForm : List Token → Prop where
  | intro
      (opened : Nat)
      (amount : Decimal)
      (unit : LengthUnit)
      (closed : Nat) :
      OperandForm
        (List.replicate opened .openBracket ++
          .number amount :: .unit unit ::
            List.replicate closed .closeBracket)

/-- The tokens of operands with an operator between any two neighbours. -/
inductive OperandsForm : List Token → Prop where
  | last
      {tokens : List Token} :
      OperandForm tokens →
      OperandsForm tokens
  | lastNumber
      (opened : Nat)
      (amount : Decimal) :
      OperandsForm
        (List.replicate opened .openBracket ++ [.number amount])
  | operation
      (operator : Operator)
      {front back : List Token} :
      OperandForm front →
      OperandsForm back →
      OperandsForm (front ++ operator.token :: back)

/-- What is expected behind some tokens. -/
inductive TokenPlace where
  /-- An opening bracket or a number. -/
  | operand
  /-- The unit of a number. -/
  | unit
  /-- A closing bracket or an operator. -/
  | operator
  deriving Repr, DecidableEq

namespace TokenPlace

/-- The place behind one more token, if the token is expected. -/
def after? : TokenPlace → Token → Option TokenPlace
  | .operand, .openBracket => some .operand
  | .operand, .number _ => some .unit
  | .unit, .unit _ => some .operator
  | .operator, .closeBracket => some .operator
  | .operator, .plus => some .operand
  | .operator, .minus => some .operand
  | _, _ => none

/-- The place behind a list of tokens that are all expected. -/
def run? (place : TokenPlace) (tokens : List Token) : Option TokenPlace :=
  tokens.foldlM after? place

@[simp] theorem run?_nil (place : TokenPlace) :
    place.run? [] = some place :=
  rfl

/-- The order of tokens is followed one token at a time. -/
theorem run?_cons
    (place : TokenPlace)
    (token : Token)
    (later : List Token) :
    place.run? (token :: later) =
      (place.after? token).bind fun next => next.run? later :=
  rfl

/-- The first of some expected tokens is expected, and so are the others. -/
theorem exists_of_run?_cons
    {place last : TokenPlace}
    {token : Token}
    {later : List Token}
    (reached : place.run? (token :: later) = some last) :
    ∃ next,
      place.after? token = some next ∧ next.run? later = some last := by
  rw [run?_cons, Option.bind_eq_some_iff] at reached
  exact reached

/--
The order of two lists is that of the first and then, from there, the second.
-/
theorem run?_append
    (place : TokenPlace)
    (front back : List Token) :
    place.run? (front ++ back) =
      (place.run? front).bind fun next => next.run? back := by
  simp only [run?, List.foldlM_append]
  rfl

/-- One more token that is expected may end a list in order. -/
theorem run?_concat
    {place middle next : TokenPlace}
    {front : List Token}
    {token : Token}
    (reached : place.run? front = some middle)
    (expected : middle.after? token = some next) :
    place.run? (front ++ [token]) = some next := by
  simp [run?_append, run?_cons, reached, expected]

/-- The last of some expected tokens is expected behind the others. -/
theorem exists_of_run?_concat
    {place next : TokenPlace}
    {front : List Token}
    {last : Token}
    (reached : place.run? (front ++ [last]) = some next) :
    ∃ middle,
      place.run? front = some middle ∧ middle.after? last = some next := by
  rw [run?_append, Option.bind_eq_some_iff] at reached
  obtain ⟨middle, reachedFront, reachedLast⟩ := reached
  obtain ⟨after, expected, same⟩ := exists_of_run?_cons reachedLast
  cases same
  exact ⟨middle, reachedFront, expected⟩

@[simp] theorem after?_operator (operator : Operator) :
    TokenPlace.operator.after? operator.token = some .operand := by
  cases operator <;> rfl

@[simp] theorem run?_replicate_openBracket (opened : Nat) :
    TokenPlace.operand.run? (List.replicate opened .openBracket) =
      some .operand := by
  induction opened with
  | zero =>
      rfl
  | succ fewer inductionHypothesis =>
      rw [List.replicate_succ, run?_cons]
      exact inductionHypothesis

@[simp] theorem run?_replicate_closeBracket (closed : Nat) :
    TokenPlace.operator.run? (List.replicate closed .closeBracket) =
      some .operator := by
  induction closed with
  | zero =>
      rfl
  | succ fewer inductionHypothesis =>
      rw [List.replicate_succ, run?_cons]
      exact inductionHypothesis

/-- Behind an operand an operator is expected. -/
theorem run?_of_operandForm
    {tokens : List Token}
    (form : OperandForm tokens) :
    TokenPlace.operand.run? tokens = some .operator := by
  cases form with
  | intro opened amount unit closed =>
      simp [run?_append, run?_cons, after?]

/-- Operands stand in order and do not end where an operand is still missing. -/
theorem run?_of_operandsForm
    {tokens : List Token}
    (form : OperandsForm tokens) :
    ∃ place,
      TokenPlace.operand.run? tokens = some place ∧ place ≠ .operand := by
  induction form with
  | last single =>
      exact ⟨.operator, run?_of_operandForm single, by decide⟩
  | lastNumber opened amount =>
      exact ⟨.unit, by simp [run?_append, run?_cons, after?], by decide⟩
  | operation operator first _ inductionHypothesis =>
      obtain ⟨place, reached, complete⟩ := inductionHypothesis
      refine ⟨place, ?_, complete⟩
      simp [run?_append, run?_cons, run?_of_operandForm first, reached]

end TokenPlace

/-- The tokens that complete the operands of a text from a place on. -/
inductive RestForm : TokenPlace → List Token → Prop where
  | operands
      {tokens : List Token} :
      OperandsForm tokens →
      RestForm .operand tokens
  | lastNumber :
      RestForm .unit []
  | unit
      (unit : LengthUnit)
      {later : List Token} :
      RestForm .operator later →
      RestForm .unit (.unit unit :: later)
  | lastOperand
      (closed : Nat) :
      RestForm .operator (List.replicate closed .closeBracket)
  | operation
      (closed : Nat)
      (operator : Operator)
      {later : List Token} :
      OperandsForm later →
      RestForm .operator
        (List.replicate closed .closeBracket ++ operator.token :: later)

namespace RestForm

/-- An opening bracket may stand in front of operands. -/
theorem openBracket
    {tokens : List Token}
    (form : OperandsForm tokens) :
    OperandsForm (.openBracket :: tokens) := by
  cases form with
  | last single =>
      cases single with
      | intro opened amount unit closed =>
          exact .last (.intro (opened + 1) amount unit closed)
  | lastNumber opened amount =>
      exact .lastNumber (opened + 1) amount
  | operation operator first later =>
      cases first with
      | intro opened amount unit closed =>
          exact .operation operator
            (.intro (opened + 1) amount unit closed) later

/-- A number may stand in front of what follows numbers. -/
theorem number
    (amount : Decimal)
    {later : List Token}
    (rest : RestForm .unit later) :
    OperandsForm (.number amount :: later) := by
  cases rest with
  | lastNumber =>
      exact .lastNumber 0 amount
  | unit unit behind =>
      cases behind with
      | lastOperand closed =>
          exact .last (.intro 0 amount unit closed)
      | operation closed operator later =>
          exact .operation operator (.intro 0 amount unit closed) later

/-- A closing bracket may stand in front of what follows operands. -/
theorem closeBracket
    {later : List Token}
    (rest : RestForm .operator later) :
    RestForm .operator (.closeBracket :: later) := by
  cases rest with
  | lastOperand closed =>
      exact .lastOperand (closed + 1)
  | operation closed operator later =>
      exact .operation (closed + 1) operator later

/-- An expected token in front of what completes the operands behind it. -/
theorem cons
    {place next : TokenPlace}
    {token : Token}
    {later : List Token}
    (expected : place.after? token = some next)
    (rest : RestForm next later) :
    RestForm place (token :: later) := by
  cases place with
  | operand =>
      cases token <;>
        simp only [TokenPlace.after?, Option.some.injEq,
          reduceCtorEq] at expected <;> subst expected
      · cases rest with
        | operands form =>
            exact .operands (openBracket form)
      · exact .operands (number _ rest)
  | unit =>
      cases token <;>
        simp only [TokenPlace.after?, Option.some.injEq,
          reduceCtorEq] at expected
      subst expected
      exact .unit _ rest
  | operator =>
      cases token <;>
        simp only [TokenPlace.after?, Option.some.injEq,
          reduceCtorEq] at expected <;> subst expected
      · exact closeBracket rest
      · cases rest with
        | operands form =>
            exact .operation 0 .plus form
      · cases rest with
        | operands form =>
            exact .operation 0 .minus form

/--
Tokens in order that miss no operand in the end have the form that the place
asks for.
-/
theorem of_run?
    {place last : TokenPlace}
    {tokens : List Token}
    (reached : place.run? tokens = some last)
    (complete : last ≠ .operand) :
    RestForm place tokens := by
  induction tokens generalizing place with
  | nil =>
      have same : place = last := by simpa using reached
      subst same
      cases place with
      | operand => exact (complete rfl).elim
      | unit => exact .lastNumber
      | operator => exact .lastOperand 0
  | cons token later inductionHypothesis =>
      obtain ⟨next, expected, rest⟩ := TokenPlace.exists_of_run?_cons reached
      exact .cons expected (inductionHypothesis rest)

end RestForm

/-- Tokens are in order and complete exactly if they are operands. -/
theorem operandsForm_iff (tokens : List Token) :
    OperandsForm tokens ↔
      ∃ place,
        TokenPlace.operand.run? tokens = some place ∧ place ≠ .operand := by
  constructor
  · exact TokenPlace.run?_of_operandsForm
  · rintro ⟨place, reached, complete⟩
    cases RestForm.of_run? reached complete with
    | operands form =>
        exact form

end LengthCalc
