import LengthCalc.Proofs.ParserVerdict
import LengthCalc.Proofs.WrittenTextScan
import LengthCalc.Report

namespace LengthCalc

/-!
# Printed tokens are read again

The texts of the tokens of a text are lexemes of the same tokens, and the order
of the tokens is one in which a text may have them.  So blanks may be put
between the texts or left out, and what comes out has the same tokens.
-/

/-- The text of a token is one that the token can be written with. -/
theorem Token.spelled_text (token : Token) :
    token.Spelled token.text.toList := by
  cases token with
  | openBracket => exact .openBracket
  | closeBracket => exact .closeBracket
  | plus => exact .plus
  | minus => exact .minus
  | number value =>
      have characters : (Token.number value).text.toList = value.toChars := by
        simp [text, Decimal.text]
      rw [characters]
      exact .number value.numberForm_toChars value.ofChars_toChars
  | unit lengthUnit => exact .unit lengthUnit.map_toLower_code

/-- The texts of tokens with any blanks in front of each and behind the last. -/
inductive Token.Spaced : List Token → List Char → Prop where
  | ending
      {blanks : List Char} :
      (∀ character ∈ blanks, isBlank character = true) →
      Token.Spaced [] blanks
  | token
      {blanks : List Char}
      (token : Token)
      {later : List Token}
      {characters : List Char} :
      (∀ character ∈ blanks, isBlank character = true) →
      Token.Spaced later characters →
      Token.Spaced (token :: later)
        (blanks ++ (token.text.toList ++ characters))

namespace Token.Spaced

variable {tokens : List Token}
variable {characters : List Char}

/-- No blanks at all are blanks. -/
theorem noBlanks : ∀ character ∈ ([] : List Char), isBlank character = true :=
  fun _ member => (List.not_mem_nil member).elim

/-- More blanks may stand in front. -/
theorem blanks
    (spaced : Token.Spaced tokens characters)
    {front : List Char}
    (allBlank : ∀ character ∈ front, isBlank character = true) :
    Token.Spaced tokens (front ++ characters) := by
  cases spaced with
  | ending blank =>
      exact .ending (List.forall_mem_append.mpr ⟨allBlank, blank⟩)
  | token token blank later =>
      rw [← List.append_assoc]
      exact .token token (List.forall_mem_append.mpr ⟨allBlank, blank⟩) later

/-- Spaced tokens are the pieces of their characters. -/
theorem exists_pieces (spaced : Token.Spaced tokens characters) :
    ∃ (pieces : List Piece) (ending : List Char),
      (∀ character ∈ ending, isBlank character = true) ∧
        pieces.map Piece.token = tokens ∧
        Piece.join pieces ++ ending = characters := by
  induction spaced with
  | @ending blanks blank =>
      exact ⟨[], blanks, blank, rfl, rfl⟩
  | @token blanks token _ _ blank _ inductionHypothesis =>
      obtain ⟨pieces, ending, endingBlank, rfl, rfl⟩ := inductionHypothesis
      exact ⟨⟨blanks, token.text.toList, token, blank, token.spelled_text⟩ ::
        pieces, ending, endingBlank, rfl, by simp⟩

/-- Tokens in an order that texts have are read again, however spaced. -/
theorem tokensOf_eq
    (spaced : Token.Spaced tokens characters)
    (operands : OperandsForm tokens) :
    Scanner.tokensOf characters = .ok tokens := by
  obtain ⟨pieces, ending, blank, rfl, rfl⟩ := spaced.exists_pieces
  exact Scanner.tokensOf_splitting ⟨pieces, ending, blank, operands⟩

/-- One token on each line is one way to space tokens. -/
theorem lines (tokens : List Token) :
    Token.Spaced tokens (unlines (tokens.map Token.text)).toList := by
  have lineBreak : ∀ character ∈ ['\n'], isBlank character = true :=
    List.forall_mem_singleton.mpr (isBlank_of_isWhitespace rfl)
  induction tokens with
  | nil =>
      exact .ending noBlanks
  | cons token later inductionHypothesis =>
      have spaced :=
        Token.Spaced.token token noBlanks
          (inductionHypothesis.blanks lineBreak)
      simpa [unlines] using spaced

/-- The same blanks between any two neighbours are one way to space tokens. -/
theorem intercalate
    {separator : String}
    (blank : ∀ character ∈ separator.toList, isBlank character = true)
    (tokens : List Token) :
    Token.Spaced tokens
      (separator.intercalate (tokens.map Token.text)).toList := by
  induction tokens with
  | nil =>
      exact .ending noBlanks
  | cons token later inductionHypothesis =>
      cases later with
      | nil =>
          simpa using Token.Spaced.token token noBlanks (.ending noBlanks)
      | cons next others =>
          have spaced :=
            Token.Spaced.token token noBlanks
              (inductionHypothesis.blanks blank)
          simpa using spaced

end Token.Spaced

/--
The tokens of a text are read again from their texts: from the report that has
one of them on each line, from the texts with the same blanks between any two
of them, and from the texts with any blanks around them.
-/
theorem tokenize_printed
    {text : String}
    {tokens : List Token}
    (scanned : tokenize text = .ok tokens) :
    (∃ report,
        tokensReport text = .ok report ∧ tokenize report = .ok tokens) ∧
      (∀ separator : String,
        (∀ character ∈ separator.toList, isBlank character = true) →
        tokenize (separator.intercalate (tokens.map Token.text)) =
          .ok tokens) ∧
      (∀ written : String,
        Token.Spaced tokens written.toList →
        tokenize written = .ok tokens) := by
  have operands := Expression.operandsForm_of_tokenize scanned
  have reads (written : String) (spaced : Token.Spaced tokens written.toList) :
      tokenize written = .ok tokens :=
    (tokenize_eq_ok_iff _ _).mpr (spaced.tokensOf_eq operands)
  refine ⟨⟨unlines (tokens.map Token.text), ?_, ?_⟩, ?_, reads⟩
  · simp [tokensReport, scanned, Except.map]
  · exact reads _ (.lines tokens)
  · intro separator blank
    exact reads _ (.intercalate blank tokens)

/-- Nothing needs to stand between the texts, not even around a sign. -/
theorem tokenize_printed_signed :
    tokenize " -.50IN -\t-3 PT" =
        .ok [.number ⟨-50, 2, by decide, by decide⟩, .unit .inch, .minus,
          .number ⟨-3, 0, by decide, by decide⟩, .unit .point] ∧
      tokensReport " -.50IN -\t-3 PT" = .ok "-0.50\nin\n-\n-3\npt\n" ∧
      tokenize "-0.50\nin\n-\n-3\npt\n" =
        .ok [.number ⟨-50, 2, by decide, by decide⟩, .unit .inch, .minus,
          .number ⟨-3, 0, by decide, by decide⟩, .unit .point] ∧
      tokenize "-0.50in--3pt" =
        .ok [.number ⟨-50, 2, by decide, by decide⟩, .unit .inch, .minus,
          .number ⟨-3, 0, by decide, by decide⟩, .unit .point] := by
  have scanned :
      tokenize " -.50IN -\t-3 PT" =
        .ok [.number ⟨-50, 2, by decide, by decide⟩, .unit .inch, .minus,
          .number ⟨-3, 0, by decide, by decide⟩, .unit .point] :=
    rfl
  have reported :
      tokensReport " -.50IN -\t-3 PT" = .ok "-0.50\nin\n-\n-3\npt\n" := by
    rfl
  obtain ⟨⟨report, same, again⟩, separated, -⟩ := tokenize_printed scanned
  obtain rfl := Except.ok.inj (reported.symm.trans same)
  exact ⟨scanned, reported, again, separated "" (by simp)⟩

end LengthCalc
