import LengthCalc.Expression.Fault
import LengthCalc.Proofs.Nesting
import LengthCalc.Proofs.NormalForm

namespace LengthCalc

/-!
# The grammar of expressions

Which lists of tokens are terms and chains, and which trees they stand for:

```text
chain := term (('+' | '-') term)*
term  := number unit | '(' chain ')'
```

A chain is built from the left, one term at a time, and a chain between
brackets stands for its group.  The grammar does not bound the nesting of
brackets.
-/

/-- The token of an operator. -/
def Operator.token : Operator → Token
  | .plus => .plus
  | .minus => .minus

mutual

/-- The tokens of a measurement or of a chain between brackets. -/
inductive TermForm : List Token → Expression → Prop where
  | measurement
      (amount : Decimal)
      (unit : LengthUnit) :
      TermForm [.number amount, .unit unit] (.ofAmount amount unit)
  | group
      {tokens : List Token}
      {inner : Expression} :
      ChainForm tokens inner →
      TermForm (.openBracket :: (tokens ++ [.closeBracket])) inner.group

/-- The tokens of terms with an operator between any two neighbours. -/
inductive ChainForm : List Token → Expression → Prop where
  | term
      {tokens : List Token}
      {expression : Expression} :
      TermForm tokens expression →
      ChainForm tokens expression
  | operation
      (operator : Operator)
      {front back : List Token}
      {left right : Expression} :
      ChainForm front left →
      TermForm back right →
      ChainForm
        (front ++ operator.token :: back)
        (operator.join left right)

end

namespace Token

/-- The nesting of the brackets in a list of tokens. -/
def nesting (tokens : List Token) : Nat :=
  nestingOf .openBracket .closeBracket tokens

@[simp] theorem nesting_nil : nesting [] = 0 :=
  rfl

@[simp] theorem nesting_openBracket (tokens : List Token) :
    nesting (.openBracket :: tokens) = nesting tokens + 1 :=
  rfl

@[simp] theorem nesting_closeBracket (tokens : List Token) :
    nesting (.closeBracket :: tokens) = nesting tokens - 1 :=
  rfl

@[simp] theorem nesting_number
    (amount : Decimal)
    (tokens : List Token) :
    nesting (.number amount :: tokens) = nesting tokens :=
  rfl

@[simp] theorem nesting_unit
    (unit : LengthUnit)
    (tokens : List Token) :
    nesting (.unit unit :: tokens) = nesting tokens :=
  rfl

@[simp] theorem nesting_operator
    (operator : Operator)
    (tokens : List Token) :
    nesting (operator.token :: tokens) = nesting tokens := by
  cases operator <;> rfl

/-- The measurements that are written in a list of tokens, in order. -/
def measurements : List Token → List Measurement
  | .number amount :: .unit lengthUnit :: later =>
      ⟨amount, lengthUnit⟩ :: measurements later
  | _ :: later => measurements later
  | [] => []

@[simp] theorem measurements_nil : measurements [] = [] :=
  rfl

@[simp] theorem measurements_number_unit
    (amount : Decimal)
    (unit : LengthUnit)
    (later : List Token) :
    measurements (.number amount :: .unit unit :: later) =
      ⟨amount, unit⟩ :: measurements later :=
  rfl

@[simp] theorem measurements_openBracket (later : List Token) :
    measurements (.openBracket :: later) = measurements later :=
  rfl

@[simp] theorem measurements_closeBracket (later : List Token) :
    measurements (.closeBracket :: later) = measurements later :=
  rfl

@[simp] theorem measurements_operator
    (operator : Operator)
    (later : List Token) :
    measurements (operator.token :: later) = measurements later := by
  cases operator <;> rfl

end Token

/-- A property of chains that holds of terms and passes on to longer chains. -/
theorem ChainForm.chain_induction
    {holds :
      ∀ tokens expression, ChainForm tokens expression → Prop}
    (term :
      ∀ {tokens expression}
        (single : TermForm tokens expression),
        holds tokens expression (.term single))
    (operation :
      ∀ (operator : Operator) {front back left right}
        (chain : ChainForm front left)
        (last : TermForm back right),
        holds front left chain →
        holds _ _ (.operation operator chain last))
    {tokens : List Token}
    {expression : Expression}
    (form : ChainForm tokens expression) :
    holds tokens expression form := by
  match form with
  | .term single =>
      exact term single
  | .operation operator chain last =>
      exact operation operator chain last
        (chain.chain_induction term operation)

mutual

/-- A term in front closes all its brackets. -/
theorem TermForm.nesting_append
    {tokens : List Token}
    {expression : Expression}
    (form : TermForm tokens expression)
    (later : List Token) :
    Token.nesting (tokens ++ later) =
      max (Token.nesting tokens) (Token.nesting later) := by
  match form with
  | .measurement amount unit =>
      simp
  | @TermForm.group tokens inner chain =>
      have behind := chain.nesting_append (.closeBracket :: later)
      have alone := chain.nesting_append [.closeBracket]
      simp only [Token.nesting_closeBracket, Token.nesting_nil] at behind alone
      simp only [List.cons_append, List.append_assoc, List.nil_append,
        Token.nesting_openBracket, behind, alone]
      omega

/-- The brackets of a chain are closed where the chain ends. -/
theorem ChainForm.nesting_append
    {tokens : List Token}
    {expression : Expression}
    (form : ChainForm tokens expression)
    (later : List Token) :
    Token.nesting (tokens ++ later) =
      max (Token.nesting tokens) (Token.nesting later) := by
  match form with
  | .term term =>
      exact term.nesting_append later
  | @ChainForm.operation operator front back left right chain term =>
      have behind := chain.nesting_append (operator.token :: (back ++ later))
      have alone := chain.nesting_append (operator.token :: back)
      simp only [Token.nesting_operator] at behind alone
      simp only [List.append_assoc, List.cons_append, behind, alone,
        term.nesting_append later]
      omega

end

mutual

/-- The measurements of a term are the leaves of its tree. -/
theorem TermForm.measurements_append
    {tokens : List Token}
    {expression : Expression}
    (form : TermForm tokens expression)
    (later : List Token) :
    Token.measurements (tokens ++ later) =
      expression.leaves ++ Token.measurements later := by
  match form with
  | .measurement amount unit =>
      simp [Expression.ofAmount, Expression.leaves]
  | @TermForm.group tokens inner chain =>
      simp [chain.measurements_append (.closeBracket :: later)]

/-- A chain stands for a tree with the measurements of its tokens. -/
theorem ChainForm.measurements_append
    {tokens : List Token}
    {expression : Expression}
    (form : ChainForm tokens expression)
    (later : List Token) :
    Token.measurements (tokens ++ later) =
      expression.leaves ++ Token.measurements later := by
  match form with
  | .term term =>
      exact term.measurements_append later
  | @ChainForm.operation operator front back left right chain term =>
      simp [chain.measurements_append (operator.token :: (back ++ later)),
        term.measurements_append later]

end

mutual

/-- A term is a normal tree and a factor. -/
theorem TermForm.isNormal
    {tokens : List Token}
    {expression : Expression}
    (form : TermForm tokens expression) :
    expression.IsNormal ∧ expression.isFactor = true := by
  match form with
  | .measurement amount unit =>
      exact ⟨trivial, rfl⟩
  | .group chain =>
      simpa using chain.isNormal

/-- A chain stands for a tree in normal form. -/
theorem ChainForm.isNormal
    {tokens : List Token}
    {expression : Expression}
    (form : ChainForm tokens expression) :
    expression.IsNormal := by
  match form with
  | .term term =>
      exact term.isNormal.1
  | .operation operator chain term =>
      simpa using And.intro chain.isNormal term.isNormal

end

mutual

/-- The groups of a term are nested at most as deep as its brackets. -/
theorem TermForm.groupDepth_le
    {tokens : List Token}
    {expression : Expression}
    (form : TermForm tokens expression) :
    expression.groupDepth ≤ Token.nesting tokens := by
  match form with
  | .measurement amount unit =>
      exact Nat.le_refl _
  | @TermForm.group tokens inner chain =>
      have within := chain.groupDepth_le
      have outer := inner.groupDepth_group_le
      have alone := chain.nesting_append [.closeBracket]
      simp only [Token.nesting_openBracket, alone]
      omega

/-- The groups of a chain are nested at most as deeply as its brackets. -/
theorem ChainForm.groupDepth_le
    {tokens : List Token}
    {expression : Expression}
    (form : ChainForm tokens expression) :
    expression.groupDepth ≤ Token.nesting tokens := by
  match form with
  | .term term =>
      exact term.groupDepth_le
  | @ChainForm.operation operator front back left right chain term =>
      have leftWithin := chain.groupDepth_le
      have rightWithin := term.groupDepth_le
      rw [chain.nesting_append, Token.nesting_operator,
        Expression.groupDepth_join]
      omega

end

end LengthCalc
