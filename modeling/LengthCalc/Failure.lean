import LengthCalc.Expression.Fault
import LengthCalc.LengthUnit.Basic
import LengthCalc.Token.Fault

namespace LengthCalc

/-!
# Failures

Everything that can go wrong between a text and a result: the text is not split
into tokens, the tokens are not an expression, a unit is unknown, or a number
leaves its range.  A failure is a cause; a diagnostic is its wording.
-/

/-- Why an expression is not read or not evaluated. -/
inductive Failure where
  | lexical (input : String) (position : Nat) (cause : LexicalFault)
  | syntactic (cause : SyntaxFault)
  | conversion (name : String)
  | overflow
  deriving Repr, DecidableEq

/-- A failure put into words. -/
inductive Diagnostic where
  | lexical (input : String) (position : Nat) (expected : String)
  | syntactic (detail : String)
  | conversion (detail : String)
  | overflow
  deriving Repr, DecidableEq

namespace Diagnostic

/--
A text with a mark before the character at a position; the mark stands at the
end when the text has no such character.
-/
def marked (input : String) (position : Nat) : String :=
  String.ofList (input.toList.take position) ++ "[]" ++
    String.ofList (input.toList.drop position)

/-- The line that reports a failure. -/
def message : Diagnostic → String
  | .lexical input position expected =>
      expected ++ " at pos " ++ position.repr ++ ": `" ++
        marked input position ++ "`"
  | .syntactic detail => "Syntax error: " ++ detail
  | .conversion detail => "Conversion error: " ++ detail
  | .overflow => "numeric overflow"

end Diagnostic

namespace Failure

/-- The wording of a failure. -/
def diagnostic : Failure → Diagnostic
  | .lexical input position cause =>
      .lexical input position cause.expectation
  | .syntactic cause => .syntactic cause.detail
  | .conversion name =>
      .conversion
        ("unknown unit '" ++ name ++
          "', expected one of mm, cm, in, px, pt")
  | .overflow => .overflow

/-- The line that reports a failure. -/
def message (failure : Failure) : String :=
  failure.diagnostic.message

end Failure

namespace LengthUnit

/-- The unit with the given code, or the failure that names the text. -/
def ofCode (text : String) : Except Failure LengthUnit :=
  match ofCode? text with
  | some unit => .ok unit
  | none => .error (.conversion text)

end LengthUnit

end LengthCalc
