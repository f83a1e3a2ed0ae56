import LengthCalc.Expression.Text
import LengthCalc.Proofs.LexemeShapes
import LengthCalc.Proofs.ScannerComplete
import LengthCalc.Proofs.ScannerSound

namespace LengthCalc

/-!
# The tokens of a text

A text has tokens exactly if it can be split into pieces, and then it can be
split in one way only: a lexeme ends where a character stands that cannot
belong to it.
-/

/-- Two lists that go on behind the same characters are split alike. -/
theorem append_eq_of_stop
    {holds : Char → Prop}
    {front front' back back' : List Char}
    (same : front ++ back = front' ++ back')
    (all : ∀ character ∈ front, holds character)
    (all' : ∀ character ∈ front', holds character)
    (stop : ∀ character ∈ back.head?, ¬ holds character)
    (stop' : ∀ character ∈ back'.head?, ¬ holds character) :
    front = front' ∧ back = back' := by
  induction front generalizing front' with
  | nil =>
      cases front' with
      | nil =>
          exact ⟨rfl, same⟩
      | cons character rest =>
          rw [List.nil_append] at same
          subst same
          exact (stop character rfl (all' character (by simp))).elim
  | cons character rest inductionHypothesis =>
      cases front' with
      | nil =>
          rw [List.nil_append] at same
          subst same
          exact (stop' character rfl (all character (by simp))).elim
      | cons character' rest' =>
          obtain ⟨rfl, later⟩ := List.cons.inj same
          obtain ⟨rfl, rfl⟩ :=
            inductionHypothesis later
              (fun other member => all other (by simp [member]))
              (fun other member => all' other (by simp [member]))
          exact ⟨rfl, rfl⟩

/-- A character of two lists stands in the first one or in the second one. -/
theorem append_eq_at
    {front back before after : List Char}
    {character : Char}
    (found : front ++ back = before ++ character :: after) :
    (∃ rest, front = before ++ character :: rest) ∨
      ∃ behind, before = front ++ behind ∧ back = behind ++ character :: after := by
  rcases List.append_eq_append_iff.mp found with
      ⟨behind, reached, shape⟩ | ⟨inFront, shape, reached⟩
  · exact .inr ⟨behind, reached, shape⟩
  · cases inFront with
    | nil =>
        exact .inr ⟨[], by simpa using shape.symm, by simpa using reached.symm⟩
    | cons first rest =>
        obtain ⟨rfl, -⟩ := List.cons.inj reached
        exact .inl ⟨rest, shape⟩

namespace Token.Spelled

variable {token : Token}
variable {place next : TokenPlace}
variable {lexeme lexeme' later later' : List Char}

/-- The same token is spelled alike at the beginning of the same characters. -/
theorem unique
    (spelled : token.Spelled lexeme)
    (spelled' : token.Spelled lexeme')
    (expected : place.after? token = some next)
    (same : lexeme ++ later = lexeme' ++ later')
    (admits : ∀ character ∈ later.head?, next.Admits character)
    (admits' : ∀ character ∈ later'.head?, next.Admits character) :
    lexeme = lexeme' ∧ later = later' := by
  cases token with
  | openBracket =>
      cases spelled
      cases spelled'
      exact ⟨rfl, (List.cons.inj same).2⟩
  | closeBracket =>
      cases spelled
      cases spelled'
      exact ⟨rfl, (List.cons.inj same).2⟩
  | plus =>
      cases spelled
      cases spelled'
      exact ⟨rfl, (List.cons.inj same).2⟩
  | minus =>
      cases spelled
      cases spelled'
      exact ⟨rfl, (List.cons.inj same).2⟩
  | number value =>
      obtain ⟨number⟩ := spelled.numberShape
      obtain ⟨number'⟩ := spelled'.numberShape
      cases place <;> cases expected
      exact append_eq_of_stop same number.inNumber number'.inNumber
        (fun character member =>
          TokenPlace.not_inNumber_of_admits (admits character member))
        (fun character member =>
          TokenPlace.not_inNumber_of_admits (admits' character member))
  | unit unit =>
      cases place <;> cases expected
      exact append_eq_of_stop same spelled.letters.2 spelled'.letters.2
        (fun character member =>
          TokenPlace.not_letter_of_admits (admits character member))
        (fun character member =>
          TokenPlace.not_letter_of_admits (admits' character member))

/-- A minus is the first character of its lexeme. -/
theorem minus_first
    (spelled : token.Spelled lexeme)
    {before after : List Char}
    (found : lexeme = before ++ '-' :: after) :
    before = [] ∧ (token = .minus ∨ ∃ value, token = .number value) := by
  have member : '-' ∈ lexeme := by
    simp [found]
  cases token with
  | openBracket =>
      cases spelled
      simp at member
  | closeBracket =>
      cases spelled
      simp at member
  | plus =>
      cases spelled
      simp at member
  | minus =>
      cases spelled
      cases before with
      | nil =>
          exact ⟨rfl, .inl rfl⟩
      | cons first rest =>
          simp at found
  | number value =>
      obtain ⟨number⟩ := spelled.numberShape
      exact ⟨number.minus_first found, .inr ⟨value, rfl⟩⟩
  | unit unit =>
      have letter := spelled.letters.2 '-' member
      rw [CharClass.of?_minus] at letter
      cases letter

end Token.Spelled

namespace TokenPlace

/-- Whether an operand begins can be read off the last token. -/
theorem operandBegins_iff
    {place : TokenPlace}
    {tokens : List Token}
    (reached : TokenPlace.operand.run? tokens = some place) :
    Token.OperandBegins tokens ↔ place = .operand := by
  rcases List.eq_nil_or_concat tokens with rfl | ⟨front, last, rfl⟩
  · cases reached
    simp [Token.OperandBegins]
  · rw [List.concat_eq_append] at reached ⊢
    obtain ⟨middle, -, expected⟩ := exists_of_run?_concat reached
    simp only [Token.OperandBegins, List.getLast?_concat, Option.mem_def,
      Option.some.injEq, forall_eq']
    cases last <;> cases middle <;> cases expected <;> simp

/-- A unit is expected behind a number only. -/
theorem exists_number_of_unit
    {tokens : List Token}
    (reached : TokenPlace.operand.run? tokens = some .unit) :
    ∃ front value, tokens = front ++ [.number value] := by
  rcases List.eq_nil_or_concat tokens with rfl | ⟨front, last, rfl⟩
  · cases reached
  · rw [List.concat_eq_append] at reached ⊢
    obtain ⟨middle, -, expected⟩ := exists_of_run?_concat reached
    cases last with
    | number value =>
        exact ⟨front, value, rfl⟩
    | _ =>
        cases middle <;> cases expected

end TokenPlace

namespace Piece

variable {place last : TokenPlace}
variable {pieces pieces' : List Piece}
variable {ending ending' : List Char}

/-- Behind a place stands a character that the place admits. -/
theorem head_admits
    (expected : place.run? (pieces.map Piece.token) = some last)
    (ending_blank : ∀ character ∈ ending, isBlank character = true) :
    ∀ character ∈ (Piece.join pieces ++ ending).head?,
      place.Admits character := by
  have admits_blank :
      ∀ character, isBlank character = true → place.Admits character :=
    fun character blank =>
      ⟨.space, CharClass.of?_of_isBlank blank, .inl rfl⟩
  intro character member
  cases pieces with
  | nil =>
      exact admits_blank character
        (ending_blank character (List.mem_of_mem_head? member))
  | cons piece rest =>
      obtain ⟨next, first, -⟩ := TokenPlace.exists_of_run?_cons expected
      rcases piece with ⟨blanks, lexeme, token, blanks_blank, spelled⟩
      cases blanks with
      | nil =>
          obtain ⟨character', lexemeRest, charClass, rfl, classified,
              begins⟩ := spelled.begins first
          cases member
          exact ⟨charClass, classified, .inr begins⟩
      | cons _ _ =>
          cases member
          exact admits_blank character (blanks_blank character (by simp))

/-- The same characters with the same tokens are split alike. -/
theorem join_unique
    (expected : place.run? (pieces.map Piece.token) = some last)
    (sameTokens : pieces.map Piece.token = pieces'.map Piece.token)
    (same : Piece.join pieces ++ ending = Piece.join pieces' ++ ending')
    (ending_blank : ∀ character ∈ ending, isBlank character = true)
    (ending_blank' : ∀ character ∈ ending', isBlank character = true) :
    pieces = pieces' ∧ ending = ending' := by
  induction pieces generalizing place pieces' with
  | nil =>
      have empty : pieces' = [] := by
        simpa using sameTokens.symm
      subst empty
      exact ⟨rfl, by simpa using same⟩
  | cons piece rest inductionHypothesis =>
      cases pieces' with
      | nil =>
          cases sameTokens
      | cons piece' rest' =>
          rcases piece with ⟨blanks, lexeme, token, blanks_blank, spelled⟩
          rcases piece' with
            ⟨blanks', lexeme', token', blanks_blank', spelled'⟩
          obtain ⟨rfl, restTokens⟩ := List.cons.inj sameTokens
          obtain ⟨next, first, later⟩ :=
            TokenPlace.exists_of_run?_cons expected
          simp only [Piece.join_cons, List.append_assoc] at same
          obtain ⟨rfl, sameBehindBlanks⟩ :=
            append_eq_of_stop same blanks_blank blanks_blank'
              (spelled.not_blank first _) (spelled'.not_blank first _)
          obtain ⟨rfl, sameRest⟩ :=
            spelled.unique spelled' first sameBehindBlanks
              (head_admits later ending_blank)
              (head_admits (restTokens ▸ later) ending_blank')
          obtain ⟨rfl, rfl⟩ :=
            inductionHypothesis later restTokens sameRest
          exact ⟨rfl, rfl⟩

/-- A character that is not blank stands in the lexeme of a piece. -/
theorem exists_of_not_blank
    {character : Char}
    (notBlank : ¬ isBlank character = true)
    (ending_blank : ∀ other ∈ ending, isBlank other = true)
    {before after : List Char}
    (found : Piece.join pieces ++ ending = before ++ character :: after) :
    ∃ front piece back lead rest,
      pieces = front ++ piece :: back ∧
        before = Piece.join front ++ (piece.blanks ++ lead) ∧
        piece.lexeme = lead ++ character :: rest := by
  induction pieces generalizing before with
  | nil =>
      have member : character ∈ ending := by
        rw [Piece.join_nil, List.nil_append] at found
        simp [found]
      exact (notBlank (ending_blank character member)).elim
  | cons piece later inductionHypothesis =>
      rw [Piece.join_cons, List.append_assoc, List.append_assoc] at found
      rcases append_eq_at found with
          ⟨rest, inBlanks⟩ | ⟨behindBlanks, rfl, atLexeme⟩
      · have blank := piece.blanks_blank character (by simp [inBlanks])
        exact (notBlank blank).elim
      · rcases append_eq_at atLexeme with
            ⟨rest, inLexeme⟩ | ⟨behindLexeme, rfl, inLater⟩
        · exact ⟨[], piece, later, behindBlanks, rest, rfl, rfl, inLexeme⟩
        · obtain ⟨front, other, back, lead, rest, rfl, rfl, inOther⟩ :=
            inductionHypothesis inLater
          exact ⟨piece :: front, other, back, lead, rest, rfl, by simp,
            inOther⟩

end Piece

namespace Splitting

/-- The places around a piece. -/
theorem exists_places
    (splitting : Splitting)
    {front back : List Piece}
    {piece : Piece}
    (split : splitting.pieces = front ++ piece :: back) :
    ∃ place next last,
      TokenPlace.operand.run? (front.map Piece.token) = some place ∧
        place.after? piece.token = some next ∧
        next.run? (back.map Piece.token) = some last := by
  obtain ⟨last, expected, -⟩ := (operandsForm_iff _).mp splitting.operands
  rw [split, List.map_append, TokenPlace.run?_append,
    Option.bind_eq_some_iff] at expected
  obtain ⟨place, reached, around⟩ := expected
  obtain ⟨next, first, later⟩ := TokenPlace.exists_of_run?_cons around
  exact ⟨place, next, last, reached, first, later⟩

theorem unique
    {splitting splitting' : Splitting}
    (same : splitting.characters = splitting'.characters) :
    splitting = splitting' := by
  have sameTokens : splitting.tokens = splitting'.tokens := by
    have read := Scanner.tokensOf_splitting splitting
    rw [same, Scanner.tokensOf_splitting splitting'] at read
    exact (Except.ok.inj read).symm
  obtain ⟨last, expected, -⟩ := (operandsForm_iff _).mp splitting.operands
  obtain ⟨samePieces, sameEnding⟩ :=
    Piece.join_unique expected sameTokens same
      splitting.ending_blank splitting'.ending_blank
  exact Splitting.ext samePieces sameEnding

/-- In front of a unit stands a blank or the last digit of its number. -/
theorem before_unit
    {front : List Piece}
    (reached : TokenPlace.operand.run? (front.map Piece.token) = some .unit)
    {blanks : List Char}
    (blanks_blank : ∀ character ∈ blanks, isBlank character = true) :
    ∀ character ∈ (Piece.join front ++ blanks).getLast?,
      isAlphabetic character = false := by
  intro character member
  rcases List.eq_nil_or_concat blanks with rfl | ⟨others, blank, rfl⟩
  · obtain ⟨tokens, value, shape⟩ := TokenPlace.exists_number_of_unit reached
    obtain ⟨earlier, lastPiece, rfl, -, isLast⟩ :=
      List.map_eq_append_iff.mp shape
    obtain ⟨piece, rfl, isNumber⟩ := List.map_eq_singleton_iff.mp isLast
    have spelled := piece.spelled
    rw [isNumber] at spelled
    obtain ⟨number⟩ := spelled.numberShape
    refine isAlphabetic_eq_false_of_isDigit (number.getLast?_digit character ?_)
    simpa [List.getLast?_append, number.ne_nil] using member
  · rw [List.concat_eq_append] at member blanks_blank
    rw [← List.append_assoc, List.getLast?_concat] at member
    cases member
    exact isAlphabetic_eq_false_of_isBlank
      (blanks_blank character (by simp))

theorem hasMaximalUnits (splitting : Splitting) :
    splitting.HasMaximalUnits := by
  intro front piece back unit split isUnit
  obtain ⟨place, next, last, reached, expected, later⟩ :=
    splitting.exists_places split
  have spelled := piece.spelled
  rw [isUnit] at spelled expected
  cases place <;> cases expected
  refine ⟨before_unit reached piece.blanks_blank, ?_, ?_⟩
  · intro character member
    exact CharClass.holds_of_of? (spelled.letters.2 character member)
  · intro character member
    exact TokenPlace.isAlphabetic_eq_false_of_admits
      (Piece.head_admits later splitting.ending_blank character member)

theorem hasMinusRoles (splitting : Splitting) :
    splitting.HasMinusRoles := by
  intro before after found
  obtain ⟨front, piece, back, lead, rest, split, rfl, inLexeme⟩ :=
    Piece.exists_of_not_blank (by decide) splitting.ending_blank found
  obtain ⟨place, next, -, reached, expected, -⟩ :=
    splitting.exists_places split
  obtain ⟨rfl, isMinus | ⟨value, isNumber⟩⟩ :=
    piece.spelled.minus_first inLexeme
  · rw [isMinus] at expected
    cases place <;> cases expected
    refine ⟨front, piece, back, rest, split, by simp, inLexeme,
      .inr ⟨?_, isMinus⟩⟩
    simp [TokenPlace.operandBegins_iff reached]
  · rw [isNumber] at expected
    cases place <;> cases expected
    refine ⟨front, piece, back, rest, split, by simp, inLexeme,
      .inl ⟨?_, value, isNumber⟩⟩
    simp [TokenPlace.operandBegins_iff reached]

end Splitting

/--
A text has tokens exactly if it can be split into lexemes with blanks around
them, and then they are the tokens of the lexemes.  It can be split in one way
only, in which units are maximal runs of letters and a minus is a sign where an
operand begins and an operator elsewhere.
-/
theorem tokenize_exact (text : String) :
    (∀ tokens,
        tokenize text = .ok tokens ↔
          ∃ splitting : Splitting,
            splitting.characters = text.toList ∧
              splitting.tokens = tokens) ∧
      (∀ splitting splitting' : Splitting,
        splitting.characters = text.toList →
        splitting'.characters = text.toList →
        splitting = splitting') ∧
      (∀ splitting : Splitting,
        splitting.characters = text.toList →
        splitting.HasMaximalUnits ∧ splitting.HasMinusRoles) := by
  refine ⟨?_, ?_, ?_⟩
  · intro tokens
    rw [tokenize_eq_ok_iff]
    constructor
    · exact Scanner.exists_splitting_of_tokensOf
    · rintro ⟨splitting, shape, rfl⟩
      rw [← shape]
      exact Scanner.tokensOf_splitting splitting
  · intro splitting splitting' shape shape'
    exact Splitting.unique (shape.trans shape'.symm)
  · intro splitting _
    exact ⟨splitting.hasMaximalUnits, splitting.hasMinusRoles⟩

end LengthCalc
