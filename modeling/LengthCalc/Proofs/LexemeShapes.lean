import LengthCalc.Proofs.Characters
import LengthCalc.Proofs.LexicalGrammar

namespace LengthCalc

/-!
# The shapes of lexemes

Which characters a lexeme begins with, consists of, and may be followed by.
They tell where a lexeme ends.
-/

/-- A sign, and digits and points that end with a digit. -/
structure NumberShape (characters : List Char) where
  isNegative : Bool
  front : List Char
  last : Char
  shape : characters = minusChars isNegative ++ (front ++ [last])
  front_plain : ∀ character ∈ front, character.isDigit = true ∨ character = '.'
  last_digit : last.isDigit = true

/-- A run of digits ends with a digit. -/
theorem IsDigitRun.exists_last
    {characters : List Char}
    (run : IsDigitRun characters) :
    ∃ front last,
      characters = front ++ [last] ∧
        Decimal.AllDigits front ∧ last.isDigit = true := by
  rcases List.eq_nil_or_concat characters with empty | ⟨front, last, shape⟩
  · exact (run.nonempty empty).elim
  · rw [List.concat_eq_append] at shape
    have digits := run.digits
    rw [shape] at digits
    exact ⟨front, last, shape,
      fun character member => digits character (by simp [member]),
      digits last (by simp)⟩

/-- All three forms of a number share one shape. -/
theorem NumberForm.numberShape
    {characters literal : List Char}
    (form : NumberForm characters literal) :
    Nonempty (NumberShape characters) := by
  cases form with
  | whole isNegative run =>
      obtain ⟨front, last, rfl, digits, lastDigit⟩ := run.exists_last
      exact ⟨isNegative, front, last, rfl,
        fun character member => .inl (digits character member), lastDigit⟩
  | @fraction isNegative whole _ wholeRun run =>
      obtain ⟨front, last, rfl, digits, lastDigit⟩ := run.exists_last
      refine ⟨isNegative, whole ++ '.' :: front, last, by simp, ?_, lastDigit⟩
      intro character member
      rcases List.mem_append.mp member with inWhole | behind
      · exact .inl (wholeRun.digits character inWhole)
      · rcases List.mem_cons.mp behind with isPoint | inFront
        · exact .inr isPoint
        · exact .inl (digits character inFront)
  | bareFraction isNegative run =>
      obtain ⟨front, last, rfl, digits, lastDigit⟩ := run.exists_last
      refine ⟨isNegative, '.' :: front, last, by simp, ?_, lastDigit⟩
      intro character member
      rcases List.mem_cons.mp member with isPoint | inFront
      · exact .inr isPoint
      · exact .inl (digits character inFront)

/-- A character of a number. -/
def InNumber (character : Char) : Prop :=
  CharClass.of? character = some .minus ∨
    CharClass.of? character = some .digit ∨
    CharClass.of? character = some .point

namespace NumberShape

variable {characters : List Char}

/-- Digits and the point stand in numbers. -/
theorem inNumber_of_plain
    {character : Char}
    (plain : character.isDigit = true ∨ character = '.') :
    InNumber character := by
  rcases plain with digit | rfl
  · exact .inr (.inl (CharClass.of?_isDigit digit))
  · exact .inr (.inr CharClass.of?_point)

/-- Every character of a number is one that numbers consist of. -/
theorem inNumber (number : NumberShape characters) :
    ∀ character ∈ characters, InNumber character := by
  intro character member
  rw [number.shape] at member
  rcases List.mem_append.mp member with inSign | inBody
  · cases sign : number.isNegative with
    | false =>
        simp [sign, minusChars] at inSign
    | true =>
        simp only [sign, minusChars, ↓reduceIte,
          List.mem_singleton] at inSign
        rw [inSign]
        exact .inl CharClass.of?_minus
  · rcases List.mem_append.mp inBody with inFront | isLast
    · exact inNumber_of_plain (number.front_plain character inFront)
    · rw [List.mem_singleton.mp isLast]
      exact inNumber_of_plain (.inl number.last_digit)

/-- A number has characters. -/
theorem ne_nil (number : NumberShape characters) : characters ≠ [] := by
  intro empty
  have shape := number.shape
  simp [empty] at shape

/-- A number ends with a digit. -/
theorem getLast?_digit (number : NumberShape characters) :
    ∀ character ∈ characters.getLast?, character.isDigit = true := by
  rcases number with ⟨isNegative, front, last, rfl, -, lastDigit⟩
  intro character member
  rw [← List.append_assoc, List.getLast?_concat] at member
  cases member
  exact lastDigit

/-- A minus in a number is its first character. -/
theorem minus_first
    (number : NumberShape characters)
    {before after : List Char}
    (found : characters = before ++ '-' :: after) :
    before = [] := by
  have noMinus : '-' ∉ number.front ++ [number.last] := by
    intro member
    rcases List.mem_append.mp member with inFront | isLast
    · rcases number.front_plain '-' inFront with digit | point
      · simp at digit
      · cases point
    · have digit := number.last_digit
      rw [← List.mem_singleton.mp isLast] at digit
      simp at digit
  have same := number.shape.symm.trans found
  cases before with
  | nil =>
      rfl
  | cons first rest =>
      refine (noMinus ?_).elim
      cases sign : number.isNegative with
      | false =>
          simp only [sign, minusChars, Bool.false_eq_true, ↓reduceIte,
            List.nil_append] at same
          simp [same]
      | true =>
          simp only [sign, minusChars, ↓reduceIte, List.cons_append,
            List.nil_append, List.cons.injEq] at same
          simp [same.2]

end NumberShape

/-- The classes of characters that a token begins with at a place. -/
def TokenPlace.begins : TokenPlace → CharClass → Bool
  | .operand, .openBracket => true
  | .operand, .minus => true
  | .operand, .digit => true
  | .operand, .point => true
  | .unit, .letter => true
  | .operator, .closeBracket => true
  | .operator, .plus => true
  | .operator, .minus => true
  | _, _ => false

/-- A character that may stand at a place. -/
def TokenPlace.Admits (place : TokenPlace) (character : Char) : Prop :=
  ∃ charClass,
    CharClass.of? character = some charClass ∧
      (charClass = .space ∨ place.begins charClass = true)

namespace TokenPlace

/-- What a unit begins with does not continue a number. -/
theorem not_inNumber_of_admits
    {character : Char}
    (admits : TokenPlace.unit.Admits character) :
    ¬ InNumber character := by
  obtain ⟨charClass, classified, expected⟩ := admits
  unfold InNumber
  rw [classified]
  rcases expected with rfl | letter
  · simp
  · cases charClass <;> simp_all [begins]

/-- What may follow an operand is not a letter. -/
theorem not_letter_of_admits
    {character : Char}
    (admits : TokenPlace.operator.Admits character) :
    CharClass.of? character ≠ some .letter := by
  obtain ⟨charClass, classified, expected⟩ := admits
  rw [classified]
  rcases expected with rfl | sign
  · simp
  · cases charClass <;> simp_all [begins]

/-- What may follow an operand does not continue a unit. -/
theorem isAlphabetic_eq_false_of_admits
    {character : Char}
    (admits : TokenPlace.operator.Admits character) :
    isAlphabetic character = false := by
  have noLetter := not_letter_of_admits admits
  obtain ⟨charClass, classified, -⟩ := admits
  refine CharClass.isAlphabetic_eq_false_of_of? classified ?_
  rintro rfl
  exact noLetter classified

end TokenPlace

namespace Token.Spelled

variable {token : Token}
variable {lexeme : List Char}
variable {place next : TokenPlace}

/-- A unit is spelled with letters only. -/
theorem letters
    {unit : LengthUnit}
    (spelled : Token.Spelled (.unit unit) lexeme) :
    lexeme ≠ [] ∧
      ∀ character ∈ lexeme, CharClass.of? character = some .letter := by
  cases spelled with
  | unit code =>
      constructor
      · rintro rfl
        cases unit <;> cases code
      · intro character member
        have inCode : character.toLower ∈ unit.code.toList := by
          rw [← code]
          exact List.mem_map_of_mem member
        exact CharClass.of?_of_toLower_mem_code inCode

/-- A number is spelled in the shape of numbers. -/
theorem numberShape
    {value : Decimal}
    (spelled : Token.Spelled (.number value) lexeme) :
    Nonempty (NumberShape lexeme) := by
  cases spelled with
  | number form _ =>
      exact form.numberShape

/-- An expected token begins with a character of its place. -/
theorem begins
    (spelled : token.Spelled lexeme)
    (expected : place.after? token = some next) :
    ∃ first rest charClass,
      lexeme = first :: rest ∧
        CharClass.of? first = some charClass ∧
        place.begins charClass = true := by
  cases token with
  | openBracket =>
      cases spelled
      cases place <;> cases expected
      exact ⟨_, _, _, rfl, CharClass.of?_openBracket, rfl⟩
  | closeBracket =>
      cases spelled
      cases place <;> cases expected
      exact ⟨_, _, _, rfl, CharClass.of?_closeBracket, rfl⟩
  | plus =>
      cases spelled
      cases place <;> cases expected
      exact ⟨_, _, _, rfl, CharClass.of?_plus, rfl⟩
  | minus =>
      cases spelled
      cases place <;> cases expected
      exact ⟨_, _, _, rfl, CharClass.of?_minus, rfl⟩
  | number value =>
      cases place <;> cases expected
      obtain ⟨number⟩ := spelled.numberShape
      obtain ⟨first, rest, shape⟩ :=
        List.exists_cons_of_ne_nil number.ne_nil
      rcases number.inNumber first (by simp [shape]) with
          minus | digit | point
      · exact ⟨first, rest, _, shape, minus, rfl⟩
      · exact ⟨first, rest, _, shape, digit, rfl⟩
      · exact ⟨first, rest, _, shape, point, rfl⟩
  | unit unit =>
      cases place <;> cases expected
      obtain ⟨nonempty, letters⟩ := spelled.letters
      obtain ⟨first, rest, shape⟩ := List.exists_cons_of_ne_nil nonempty
      exact ⟨first, rest, _, shape, letters first (by simp [shape]), rfl⟩

/-- A token that may follow does not begin with a blank. -/
theorem not_blank
    (spelled : token.Spelled lexeme)
    (expected : place.after? token = some next)
    (later : List Char) :
    ∀ character ∈ (lexeme ++ later).head?, ¬ isBlank character = true := by
  obtain ⟨first, rest, charClass, rfl, classified, begins⟩ :=
    spelled.begins expected
  intro character member
  cases member
  have noSpace : charClass ≠ .space := by
    rintro rfl
    cases place <;> cases begins
  simp [CharClass.isBlank_eq_false_of_of? classified noSpace]

end Token.Spelled

end LengthCalc
