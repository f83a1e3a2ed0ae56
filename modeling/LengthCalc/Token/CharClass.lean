import LengthCalc.Text.Alphabetic
import LengthCalc.Text.Blank

namespace LengthCalc

/-!
# Character classes

What the scanner sees of a character.  The blank characters come first, then
the ASCII digits, then the letters and last the five signs; every other
character has no place in an expression.
-/

/-- The part that a character can play in an expression. -/
inductive CharClass where
  | space
  | digit
  | letter
  | openBracket
  | closeBracket
  | minus
  | plus
  | point
  deriving Repr, DecidableEq

namespace CharClass

/-- The class of a sign. -/
def ofSign? : Char → Option CharClass
  | '(' => some .openBracket
  | ')' => some .closeBracket
  | '-' => some .minus
  | '+' => some .plus
  | '.' => some .point
  | _ => none

/-- The class of a character, if it may occur in an expression. -/
def of? (character : Char) : Option CharClass :=
  if isBlank character then
    some .space
  else if character.isDigit then
    some .digit
  else if isAlphabetic character then
    some .letter
  else
    ofSign? character

end CharClass

end LengthCalc
