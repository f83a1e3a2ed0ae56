import LengthCalc.Proofs.CanonicalText
import LengthCalc.Proofs.CanonicalTree
import LengthCalc.Proofs.Grammar

namespace LengthCalc

/-!
# The tokens of canonical text

The tokens that the text of a tree is written with.  They form a chain of the
grammar, and the tree of that chain is the canonical one.  Their brackets nest
exactly as those of the text do.
-/

/-- A chain may be continued by an operator and a whole further chain. -/
theorem ChainForm.attach
    {front back : List Token}
    {left right : Expression}
    (leftForm : ChainForm front left)
    (operator : Operator)
    (rightForm : ChainForm back right) :
    ChainForm
      (front ++ operator.token :: back)
      (.attach operator left right) := by
  induction rightForm using ChainForm.chain_induction with
  | term single =>
      rw [Expression.attach_of_isFactor operator left single.isNormal.2]
      exact .operation operator leftForm single
  | operation inner first last longer =>
      rw [Expression.attach_join]
      simpa using ChainForm.operation inner longer last

namespace FormatOptions

/-- The tokens of a right operand, with the brackets that its sign needs. -/
def operandTokens
    (options : FormatOptions)
    (right : Expression)
    (tokens : List Token) :
    List Token :=
  if options.bracketsSign right then
    .openBracket :: (tokens ++ [.closeBracket])
  else
    tokens

/-- The tokens of the text of a tree. -/
def writtenTokens (options : FormatOptions) : Expression → List Token
  | .measurement leaf =>
      [.number (options.rounded leaf.amount), .unit leaf.unit]
  | .brackets inner =>
      .openBracket :: (options.writtenTokens inner ++ [.closeBracket])
  | .addition left right =>
      options.writtenTokens left ++
        .plus :: options.operandTokens right (options.writtenTokens right)
  | .subtraction left right =>
      options.writtenTokens left ++
        .minus :: options.operandTokens right (options.writtenTokens right)

theorem writtenTokens_join
    (options : FormatOptions)
    (operator : Operator)
    (left right : Expression) :
    options.writtenTokens (operator.join left right) =
      options.writtenTokens left ++
        operator.token ::
          options.operandTokens right (options.writtenTokens right) := by
  cases operator <;> rfl

/-- The brackets around a negative operand do not change what it stands for. -/
theorem chainForm_operandTokens
    (options : FormatOptions)
    {right : Expression}
    (form :
      ChainForm (options.writtenTokens right) (options.canonical right)) :
    ChainForm
      (options.operandTokens right (options.writtenTokens right))
      (options.canonical right) := by
  unfold operandTokens
  split
  · next signed =>
      cases right with
      | measurement leaf =>
          exact .term (.group form)
      | addition left right => simp [bracketsSign] at signed
      | subtraction left right => simp [bracketsSign] at signed
      | brackets inner => simp [bracketsSign] at signed
  · exact form

/-- The tokens of the text of a tree stand for the canonical tree. -/
theorem chainForm_writtenTokens
    (options : FormatOptions)
    (expression : Expression) :
    ChainForm
      (options.writtenTokens expression)
      (options.canonical expression) := by
  induction expression using Expression.join_induction with
  | measurement leaf =>
      exact .term (.measurement _ _)
  | brackets inner inductionHypothesis =>
      exact .term (.group inductionHypothesis)
  | join operator left right leftHypothesis rightHypothesis =>
      have operandForm := options.chainForm_operandTokens rightHypothesis
      rw [writtenTokens_join, canonical_join]
      exact leftHypothesis.attach operator operandForm

end FormatOptions

end LengthCalc
