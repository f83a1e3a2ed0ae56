import LengthCalc.Token.Basic
import LengthCalc.Token.CharClass
import LengthCalc.Token.Fault

namespace LengthCalc

/-!
# The scanner

A machine that reads a text character by character.  Its state says what a
character means: a minus where an operand begins is the sign of a number, and a
minus behind a unit is an operator.  The text of an unfinished number or unit
is part of the state that needs it.
-/

namespace Scanner

/-- The text of an unfinished number or unit and where it begins. -/
structure Lexeme where
  start : Nat
  text : String
  deriving Repr, DecidableEq

/-- A lexical fault and the character that it is found at. -/
structure Fault where
  position : Nat
  cause : LexicalFault
  deriving Repr, DecidableEq

namespace Lexeme

/-- The lexeme of a single character. -/
def begin (position : Nat) (character : Char) : Lexeme :=
  ⟨position, String.singleton character⟩

/-- The lexeme with one more character. -/
def push (lexeme : Lexeme) (character : Char) : Lexeme :=
  { lexeme with text := lexeme.text.push character }

/-- The text of a number with a zero in place of a missing integer part. -/
def literal (lexeme : Lexeme) : List Char :=
  match lexeme.text.toList with
  | '-' :: '.' :: fraction => '-' :: '0' :: '.' :: fraction
  | '.' :: fraction => '0' :: '.' :: fraction
  | characters => characters

/-- The token of a finished number. -/
def number (lexeme : Lexeme) : Except Fault Token :=
  match Decimal.ofChars lexeme.literal with
  | .ok value => .ok (.number value)
  | .error reason => .error ⟨lexeme.start, .numberRejected reason⟩

/-- The token of a finished unit. -/
def unit (lexeme : Lexeme) : Except Fault Token :=
  match LengthUnit.ofCode? lexeme.text with
  | some lengthUnit => .ok (.unit lengthUnit)
  | none => .error ⟨lexeme.start, .unknownUnit lexeme.text⟩

end Lexeme

/-- What has been read of the operand at hand. -/
inductive State where
  /-- An operand begins. -/
  | start
  /-- A minus sign. -/
  | sign (lexeme : Lexeme)
  /-- A number without a point. -/
  | integer (lexeme : Lexeme)
  /-- A number that ends in its point. -/
  | point (lexeme : Lexeme)
  /-- A number with digits behind its point. -/
  | fraction (lexeme : Lexeme)
  /-- A number and a blank. -/
  | afterNumber
  /-- The letters of a unit. -/
  | letters (lexeme : Lexeme)
  /-- A unit and a blank or a closing bracket. -/
  | afterUnit
  deriving Repr, DecidableEq

namespace State

/-- The place that a state stands for. -/
def place : State → ScanPlace
  | .start => .start
  | .sign _ => .sign
  | .integer _ => .integer
  | .point _ => .point
  | .fraction _ => .fraction
  | .afterNumber => .afterNumber
  | .letters _ => .letters
  | .afterUnit => .afterUnit

/-- The state after one more character, with the tokens that it completes. -/
def step
    (position : Nat)
    (character : Char)
    (charClass : CharClass)
    (state : State) :
    Except Fault (State × List Token) :=
  let misplaced := .error ⟨position, .misplaced state.place⟩
  match state with
  | .start =>
      match charClass with
      | .space => .ok (.start, [])
      | .openBracket => .ok (.start, [.openBracket])
      | .minus => .ok (.sign (.begin position character), [])
      | .digit => .ok (.integer (.begin position character), [])
      | .point => .ok (.point (.begin position character), [])
      | _ => misplaced
  | .sign lexeme =>
      match charClass with
      | .digit => .ok (.integer (lexeme.push character), [])
      | .point => .ok (.point (lexeme.push character), [])
      | _ => misplaced
  | .integer lexeme =>
      match charClass with
      | .digit => .ok (.integer (lexeme.push character), [])
      | .point => .ok (.point (lexeme.push character), [])
      | .space => lexeme.number.map fun token => (.afterNumber, [token])
      | .letter =>
          lexeme.number.map fun token =>
            (.letters (.begin position character), [token])
      | _ => misplaced
  | .point lexeme =>
      match charClass with
      | .digit => .ok (.fraction (lexeme.push character), [])
      | _ => misplaced
  | .fraction lexeme =>
      match charClass with
      | .digit => .ok (.fraction (lexeme.push character), [])
      | .space => lexeme.number.map fun token => (.afterNumber, [token])
      | .letter =>
          lexeme.number.map fun token =>
            (.letters (.begin position character), [token])
      | _ => misplaced
  | .afterNumber =>
      match charClass with
      | .space => .ok (.afterNumber, [])
      | .letter => .ok (.letters (.begin position character), [])
      | _ => misplaced
  | .letters lexeme =>
      match charClass with
      | .letter => .ok (.letters (lexeme.push character), [])
      | .space => lexeme.unit.map fun token => (.afterUnit, [token])
      | .plus => lexeme.unit.map fun token => (.start, [token, .plus])
      | .minus => lexeme.unit.map fun token => (.start, [token, .minus])
      | .closeBracket =>
          lexeme.unit.map fun token => (.afterUnit, [token, .closeBracket])
      | _ => misplaced
  | .afterUnit =>
      match charClass with
      | .space => .ok (.afterUnit, [])
      | .plus => .ok (.start, [.plus])
      | .minus => .ok (.start, [.minus])
      | .closeBracket => .ok (.afterUnit, [.closeBracket])
      | _ => misplaced

/-- The tokens that the end of the text completes. -/
def finish (length : Nat) : State → Except Fault (List Token)
  | .letters lexeme => lexeme.unit.map fun token => [token]
  | .integer lexeme => lexeme.number.map fun token => [token]
  | .fraction lexeme => lexeme.number.map fun token => [token]
  | .afterNumber => .ok []
  | .afterUnit => .ok []
  | .start => .error ⟨length, .unexpectedEnd⟩
  | .sign _ => .error ⟨length, .unexpectedEnd⟩
  | .point _ => .error ⟨length, .unexpectedEnd⟩

end State

end Scanner

/-- How far a text has been read, with the tokens found so far. -/
structure Scanner where
  position : Nat
  state : Scanner.State
  tokens : Array Token
  deriving Repr, DecidableEq

namespace Scanner

/-- The scanner before the first character. -/
def initial : Scanner :=
  ⟨0, .start, #[]⟩

/-- Read one more character. -/
def advance (scanner : Scanner) (character : Char) : Except Fault Scanner :=
  match CharClass.of? character with
  | none =>
      .error ⟨scanner.position, .foreignCharacter⟩
  | some charClass =>
      (scanner.state.step scanner.position character charClass).map
        fun (state, completed) =>
          ⟨scanner.position + 1, state, scanner.tokens ++ completed⟩

/-- Read all characters of a list. -/
def run (scanner : Scanner) (characters : List Char) : Except Fault Scanner :=
  characters.foldlM advance scanner

/-- All tokens, once the text has ended. -/
def finish (scanner : Scanner) : Except Fault (List Token) :=
  (scanner.state.finish scanner.position).map
    fun completed => scanner.tokens.toList ++ completed

/-- The tokens of a list of characters. -/
def tokensOf (characters : List Char) : Except Fault (List Token) :=
  initial.run characters >>= finish

end Scanner

end LengthCalc
