import LengthCalc.Token.Basic

namespace LengthCalc

/-!
# Syntax faults

What can be wrong with a list of tokens, and how it is worded.
-/

/-- Where the parser stands in a chain of terms. -/
inductive ChainPlace where
  /-- Before the first term. -/
  | start
  /-- Behind a term. -/
  | afterTerm
  /-- Behind a plus. -/
  | afterPlus
  /-- Behind a minus. -/
  | afterMinus
  deriving Repr, DecidableEq

/-- What may come next at a place. -/
def ChainPlace.expectation : ChainPlace → String
  | .start => "a measurement or '('"
  | .afterTerm => "'+', '-', ')' or end of input"
  | .afterPlus => "a measurement or '(' after operator"
  | .afterMinus => "a measurement or '(' after operator"

/-- The deepest nesting of brackets that is read. -/
def nestingLimit : Nat :=
  200

/-- The reason why a list of tokens is not an expression. -/
inductive SyntaxFault where
  /-- A token that cannot continue a chain. -/
  | misplaced (token : Token) (place : ChainPlace)
  /-- The tokens end where a chain has to go on. -/
  | chainEnds (place : ChainPlace)
  /-- A token that does not begin a term. -/
  | notTerm (token : Token)
  /-- The tokens end where a term has to begin. -/
  | termMissing
  /-- A number is followed by something else than a unit. -/
  | notUnit (amount : Decimal) (token : Token)
  /-- The tokens end behind a number. -/
  | unitMissing (amount : Decimal)
  /-- The brackets are nested too deeply. -/
  | tooDeep
  /-- A group is followed by something else than its closing bracket. -/
  | notClosing (token : Token)
  /-- The tokens end inside a group. -/
  | closingMissing
  /-- A token follows the complete expression. -/
  | leftover (token : Token)
  deriving Repr, DecidableEq

/-- The wording of a syntax fault. -/
def SyntaxFault.detail : SyntaxFault → String
  | .misplaced token place =>
      "'" ++ token.text ++ "' in wrong place, expected " ++ place.expectation
  | .chainEnds place =>
      "Expected " ++ place.expectation ++ ", but reached end of input"
  | .notTerm token =>
      "'" ++ token.text ++
        "' in wrong place, expected a measurement or '('"
  | .termMissing =>
      "Expected a measurement or '(', but reached end of input"
  | .notUnit amount token =>
      "Expected unit after number " ++ amount.text ++
        ", got '" ++ token.text ++ "'"
  | .unitMissing amount =>
      "Expected unit after number " ++ amount.text ++
        ", but reached end of input"
  | .tooDeep =>
      "Expression too deeply nested (max depth: " ++
        nestingLimit.repr ++ ")"
  | .notClosing token => "'" ++ token.text ++ "' instead of closing bracket"
  | .closingMissing => "No closing bracket"
  | .leftover token =>
      "Unexpected '" ++ token.text ++
        "' after complete expression: too many tokens, bracket mismatch maybe"

end LengthCalc
