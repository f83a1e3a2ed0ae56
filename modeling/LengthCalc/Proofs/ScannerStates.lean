import LengthCalc.Proofs.LexicalGrammar
import LengthCalc.Token.Scanner

namespace LengthCalc

/-!
# The states of the scanner

What the unfinished lexeme of each state looks like, and which token ends it.
-/

/-- The codes are written in small letters. -/
theorem LengthUnit.map_toLower_code (unit : LengthUnit) :
    unit.code.toList.map Char.toLower = unit.code.toList := by
  cases unit <;> decide

namespace Scanner

namespace Lexeme

@[simp] theorem toList_begin (position : Nat) (character : Char) :
    (begin position character).text.toList = [character] := by
  simp [begin]

@[simp] theorem toList_push (lexeme : Lexeme) (character : Char) :
    (lexeme.push character).text.toList =
      lexeme.text.toList ++ [character] := by
  simp [push]

/-- The literal of a number is the one that its form tells. -/
theorem literal_of_numberForm
    {lexeme : Lexeme}
    {literal : List Char}
    (form : NumberForm lexeme.text.toList literal) :
    lexeme.literal = literal := by
  unfold Lexeme.literal
  generalize lexeme.text.toList = characters at form
  cases form with
  | whole isNegative run =>
      obtain ⟨digit, rest, rfl, noMinus, noPoint⟩ := run.exists_cons
      cases isNegative <;> simp [minusChars, noMinus, noPoint]
  | fraction isNegative whole run =>
      obtain ⟨digit, rest, rfl, noMinus, noPoint⟩ := whole.exists_cons
      cases isNegative <;> simp [minusChars, noMinus, noPoint]
  | bareFraction isNegative run =>
      cases isNegative <;> simp [minusChars]

/-- A finished number is spelled by its lexeme and a unit is expected behind it.
-/
theorem spelled_of_number
    {lexeme : Lexeme}
    {literal : List Char}
    {token : Token}
    (form : NumberForm lexeme.text.toList literal)
    (finished : lexeme.number = .ok token) :
    token.Spelled lexeme.text.toList ∧
      TokenPlace.operand.after? token = some .unit := by
  unfold number at finished
  split at finished
  · next value read =>
      cases finished
      rw [literal_of_numberForm form] at read
      exact ⟨.number form read, rfl⟩
  · cases finished

/--
A finished unit is spelled by its lexeme and an operator is expected behind it.
-/
theorem spelled_of_unit
    {lexeme : Lexeme}
    {token : Token}
    (finished : lexeme.unit = .ok token) :
    token.Spelled lexeme.text.toList ∧
      TokenPlace.unit.after? token = some .operator := by
  unfold unit at finished
  split at finished
  · next lengthUnit found =>
      cases finished
      have same := List.find?_some found
      rw [decide_eq_true_eq] at same
      rw [LengthUnit.foldCase, LengthUnit.map_toLower_code] at same
      exact ⟨.unit same.symm, rfl⟩
  · cases finished

/-- A lexeme that is the code of a unit, in any case, is finished as that unit.
-/
theorem unit_of_code
    {lexeme : Lexeme}
    {unit : LengthUnit}
    (written :
      lexeme.text.toList.map Char.toLower = unit.code.toList) :
    lexeme.unit = .ok (.unit unit) := by
  have found : LengthUnit.ofCode? lexeme.text = some unit := by
    simp only [LengthUnit.ofCode?, LengthUnit.foldCase, written]
    cases unit <;> decide
  simp [Lexeme.unit, found]

end Lexeme

namespace State

/-- The characters of the unfinished lexeme of a state. -/
def unfinished : State → List Char
  | .start => []
  | .sign lexeme => lexeme.text.toList
  | .integer lexeme => lexeme.text.toList
  | .point lexeme => lexeme.text.toList
  | .fraction lexeme => lexeme.text.toList
  | .afterNumber => []
  | .letters lexeme => lexeme.text.toList
  | .afterUnit => []

/-- The place in front of the unfinished lexeme of a state. -/
def tokenPlace : State → TokenPlace
  | .start => .operand
  | .sign _ => .operand
  | .integer _ => .operand
  | .point _ => .operand
  | .fraction _ => .operand
  | .afterNumber => .unit
  | .letters _ => .unit
  | .afterUnit => .operator

/-- What the unfinished lexeme of a state looks like. -/
inductive WellFormed : State → Prop where
  | start :
      WellFormed .start
  | sign
      {lexeme : Lexeme} :
      lexeme.text.toList = ['-'] →
      WellFormed (.sign lexeme)
  | integer
      {lexeme : Lexeme}
      (isNegative : Bool)
      {digits : List Char} :
      IsDigitRun digits →
      lexeme.text.toList = minusChars isNegative ++ digits →
      WellFormed (.integer lexeme)
  | point
      {lexeme : Lexeme}
      (isNegative : Bool)
      {whole : List Char} :
      Decimal.AllDigits whole →
      lexeme.text.toList = minusChars isNegative ++ (whole ++ ['.']) →
      WellFormed (.point lexeme)
  | fraction
      {lexeme : Lexeme}
      (isNegative : Bool)
      {whole digits : List Char} :
      Decimal.AllDigits whole →
      IsDigitRun digits →
      lexeme.text.toList =
        minusChars isNegative ++ (whole ++ '.' :: digits) →
      WellFormed (.fraction lexeme)
  | afterNumber :
      WellFormed .afterNumber
  | letters
      {lexeme : Lexeme} :
      lexeme.text.toList ≠ [] →
      (∀ character ∈ lexeme.text.toList,
        isAlphabetic character = true) →
      WellFormed (.letters lexeme)
  | afterUnit :
      WellFormed .afterUnit

/-- The states that hold a finished number which the next letter completes. -/
inductive HoldsNumber : State → Lexeme → Prop where
  | integer (lexeme : Lexeme) : HoldsNumber (.integer lexeme) lexeme
  | fraction (lexeme : Lexeme) : HoldsNumber (.fraction lexeme) lexeme

/-- The number that is held is the unfinished lexeme. -/
theorem HoldsNumber.unfinished_eq
    {state : State}
    {lexeme : Lexeme}
    (holds : HoldsNumber state lexeme) :
    state.unfinished = lexeme.text.toList := by
  cases holds <;> rfl

/-- A number is held where an operand is expected. -/
theorem HoldsNumber.tokenPlace_eq
    {state : State}
    {lexeme : Lexeme}
    (holds : HoldsNumber state lexeme) :
    state.tokenPlace = .operand := by
  cases holds <;> rfl

/-- A number that is held has one of the forms of numbers. -/
theorem HoldsNumber.numberForm
    {state : State}
    {lexeme : Lexeme}
    (holds : HoldsNumber state lexeme)
    (wellFormed : state.WellFormed) :
    ∃ literal, NumberForm lexeme.text.toList literal := by
  cases holds with
  | integer =>
      cases wellFormed with
      | integer isNegative run shape =>
          rw [shape]
          exact ⟨_, .whole isNegative run⟩
  | fraction =>
      cases wellFormed with
      | @fraction _ isNegative whole digits wholeDigits run shape =>
          rw [shape]
          by_cases bare : whole = []
          · subst bare
            exact ⟨_, .bareFraction isNegative run⟩
          · exact ⟨_, .fraction isNegative ⟨bare, wholeDigits⟩ run⟩

end State

end Scanner

end LengthCalc
