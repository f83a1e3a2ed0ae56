import LengthCalc.Proofs.DecimalReading
import LengthCalc.Proofs.TokenOrder
import LengthCalc.Text.Alphabetic
import LengthCalc.Text.Blank

namespace LengthCalc

/-!
# The lexical grammar

How a text is made up of pieces: runs of blanks, each with the characters of
one token behind it, and blanks at the end.  Blanks may stand between two
tokens and never inside one.
-/

/-- The minus sign of a number that has one. -/
def minusChars (isNegative : Bool) : List Char :=
  if isNegative then ['-'] else []

/-- One or more decimal digits. -/
structure IsDigitRun (characters : List Char) : Prop where
  nonempty : characters ≠ []
  digits : Decimal.AllDigits characters

/-- No characters at all are digits. -/
theorem Decimal.allDigits_nil : Decimal.AllDigits [] :=
  fun _ member => (List.not_mem_nil member).elim

/-- Digits followed by one more digit are a run of digits. -/
theorem IsDigitRun.concat
    {front : List Char}
    (digits : Decimal.AllDigits front)
    {digit : Char}
    (isDigit : digit.isDigit = true) :
    IsDigitRun (front ++ [digit]) where
  nonempty := by
    simp
  digits := by
    intro character member
    rcases List.mem_append.mp member with before | last
    · exact digits character before
    · rw [List.mem_singleton.mp last]
      exact isDigit

/-- A digit alone is a run of digits. -/
theorem IsDigitRun.singleton
    {digit : Char}
    (isDigit : digit.isDigit = true) :
    IsDigitRun [digit] :=
  IsDigitRun.concat Decimal.allDigits_nil isDigit

/-- A run of digits begins neither with a sign nor with a point. -/
theorem IsDigitRun.exists_cons
    {characters : List Char}
    (run : IsDigitRun characters) :
    ∃ digit rest,
      characters = digit :: rest ∧ digit ≠ '-' ∧ digit ≠ '.' := by
  obtain ⟨digit, rest, shape⟩ := List.exists_cons_of_ne_nil run.nonempty
  have isDigit : digit.isDigit = true :=
    run.digits digit (by simp [shape])
  refine ⟨digit, rest, shape, ?_, ?_⟩
  · rintro rfl
    simp at isDigit
  · rintro rfl
    simp at isDigit

/--
The characters of a number, and the literal that they stand for: the same
characters with a zero in place of a missing integer part.
-/
inductive NumberForm : List Char → List Char → Prop where
  | whole
      (isNegative : Bool)
      {digits : List Char} :
      IsDigitRun digits →
      NumberForm
        (minusChars isNegative ++ digits)
        (minusChars isNegative ++ digits)
  | fraction
      (isNegative : Bool)
      {whole digits : List Char} :
      IsDigitRun whole →
      IsDigitRun digits →
      NumberForm
        (minusChars isNegative ++ (whole ++ '.' :: digits))
        (minusChars isNegative ++ (whole ++ '.' :: digits))
  | bareFraction
      (isNegative : Bool)
      {digits : List Char} :
      IsDigitRun digits →
      NumberForm
        (minusChars isNegative ++ '.' :: digits)
        (minusChars isNegative ++ '0' :: '.' :: digits)

/-- The characters that a token can be written with. -/
inductive Token.Spelled : Token → List Char → Prop where
  | openBracket :
      Token.Spelled .openBracket ['(']
  | closeBracket :
      Token.Spelled .closeBracket [')']
  | plus :
      Token.Spelled .plus ['+']
  | minus :
      Token.Spelled .minus ['-']
  | number
      {characters literal : List Char}
      {value : Decimal} :
      NumberForm characters literal →
      Decimal.ofChars literal = .ok value →
      Token.Spelled (.number value) characters
  | unit
      {characters : List Char}
      {unit : LengthUnit} :
      characters.map Char.toLower = unit.code.toList →
      Token.Spelled (.unit unit) characters

/-- Whether an operand begins behind some tokens. -/
def Token.OperandBegins (tokens : List Token) : Prop :=
  ∀ last ∈ tokens.getLast?,
    last = .openBracket ∨ last = .plus ∨ last = .minus

/-- A token with its characters and the blanks in front of it. -/
@[ext]
structure Piece where
  blanks : List Char
  lexeme : List Char
  token : Token
  blanks_blank : ∀ character ∈ blanks, isBlank character = true
  spelled : token.Spelled lexeme

/-- The characters of a piece. -/
def Piece.characters (piece : Piece) : List Char :=
  piece.blanks ++ piece.lexeme

/-- The characters of pieces. -/
def Piece.join (pieces : List Piece) : List Char :=
  pieces.flatMap Piece.characters

@[simp] theorem Piece.join_nil : Piece.join [] = [] :=
  rfl

@[simp] theorem Piece.join_cons (piece : Piece) (later : List Piece) :
    Piece.join (piece :: later) =
      piece.blanks ++ (piece.lexeme ++ Piece.join later) := by
  simp [Piece.join, Piece.characters]

@[simp] theorem Piece.join_append (front back : List Piece) :
    Piece.join (front ++ back) = Piece.join front ++ Piece.join back := by
  simp [Piece.join]

/-- Pieces whose tokens are in order and complete, and blanks behind them. -/
@[ext]
structure Splitting where
  pieces : List Piece
  ending : List Char
  ending_blank : ∀ character ∈ ending, isBlank character = true
  operands : OperandsForm (pieces.map Piece.token)

namespace Splitting

/-- The text that is split. -/
def characters (splitting : Splitting) : List Char :=
  Piece.join splitting.pieces ++ splitting.ending

/-- The tokens of the pieces. -/
def tokens (splitting : Splitting) : List Token :=
  splitting.pieces.map Piece.token

/--
The letters of a unit are a maximal run of alphabetic characters: there is no
such character directly in front of them or behind them.
-/
def HasMaximalUnits (splitting : Splitting) : Prop :=
  ∀ front piece back unit,
    splitting.pieces = front ++ piece :: back →
    piece.token = .unit unit →
    (∀ character ∈ (Piece.join front ++ piece.blanks).getLast?,
      isAlphabetic character = false) ∧
    (∀ character ∈ piece.lexeme, isAlphabetic character = true) ∧
    (∀ character ∈ (Piece.join back ++ splitting.ending).head?,
      isAlphabetic character = false)

/--
Every minus of the text begins a piece, which is a number where an operand
begins and the operator elsewhere.
-/
def HasMinusRoles (splitting : Splitting) : Prop :=
  ∀ before after,
    splitting.characters = before ++ '-' :: after →
    ∃ front piece back rest,
      splitting.pieces = front ++ piece :: back ∧
        before = Piece.join front ++ piece.blanks ∧
        piece.lexeme = '-' :: rest ∧
        (Token.OperandBegins (front.map Piece.token) ∧
            (∃ value, piece.token = .number value) ∨
          ¬ Token.OperandBegins (front.map Piece.token) ∧
            piece.token = .minus)

end Splitting

end LengthCalc
