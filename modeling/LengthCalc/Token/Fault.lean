import LengthCalc.Decimal.Text

namespace LengthCalc

/-!
# Lexical faults

What can be wrong with a text before its structure is looked at.  The wording
of a fault says what would have been right.
-/

/-- Where the scanner stands between and inside the pieces of an operand. -/
inductive ScanPlace where
  | start
  | sign
  | integer
  | point
  | fraction
  | afterNumber
  | letters
  | afterUnit
  deriving Repr, DecidableEq

/-- What may come next at a place. -/
def ScanPlace.expectation : ScanPlace → String
  | .start => "Expected space, digit, '(', '-' or '.'"
  | .sign => "Expected digit or '.'"
  | .integer => "Expected space, digit, letter or '.'"
  | .point => "Expected digit"
  | .fraction => "Expected space, digit or letter"
  | .afterNumber => "Expected space or letter"
  | .letters => "Expected space, letter, ')', '-' or '+'"
  | .afterUnit => "Expected space, ')', '-' or '+'"

/-- The reason why a text is not split into tokens. -/
inductive LexicalFault where
  /-- A character that no expression contains. -/
  | foreignCharacter
  /-- A character that cannot follow what was read. -/
  | misplaced (place : ScanPlace)
  /-- The text ends where an operand has to begin or to go on. -/
  | unexpectedEnd
  /-- Digits that are not read as a decimal. -/
  | numberRejected (reason : Decimal.ReadFault)
  /-- Letters that are not the code of a unit. -/
  | unknownUnit (name : String)
  deriving Repr, DecidableEq

/-- What was expected in place of the fault. -/
def LexicalFault.expectation : LexicalFault → String
  | .foreignCharacter =>
      "Expected space, digit, letter, '(', ')', '-', '+' or '.'"
  | .misplaced place => place.expectation
  | .unexpectedEnd => "Unexpected end of data"
  | .numberRejected _ => "Expected a number within decimal range"
  | .unknownUnit name =>
      "Unknown unit '" ++ name ++ "', expected mm, cm, in, px or pt"

end LengthCalc
