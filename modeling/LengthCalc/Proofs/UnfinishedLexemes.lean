import LengthCalc.Proofs.LexicalFaults
import LengthCalc.Proofs.LiteralMagnitude

namespace LengthCalc

/-!
# Unfinished lexemes

While a text is read, the lexeme of a state is the stretch of the text from
where it began to the place that has been reached, and has the form of that
state.  So a finished number is read from a literal that can only be too large,
and a finished unit is the complete run of letters at its place.
-/

namespace Scanner

/-- A scanner that stands in a text holds the stretch of it that is unfinished. -/
structure Buffers (scanner : Scanner) (characters : List Char) : Prop where
  reached : scanner.position ≤ characters.length
  begun :
    ∀ lexeme,
      scanner.state.lexeme? = some lexeme →
      lexeme.start < scanner.position
  stretch :
    ∀ lexeme,
      scanner.state.lexeme? = some lexeme →
      lexeme.text.toList = characters.extract lexeme.start scanner.position
  wellFormed : scanner.state.WellFormed

variable {scanner : Scanner}
variable {front : List Char}
variable {lexeme : Lexeme}

/-- What has been read of a text is all that the unfinished lexeme depends on. -/
theorem buffers_of_run
    (read : initial.run front = .ok scanner)
    (later : List Char) :
    scanner.Buffers (front ++ later) where
  reached := by
    rw [position_of_initial read, List.length_append]
    exact Nat.le_add_right _ _
  begun := by
    intro lexeme holds
    have inside := start_lt_of_lexeme? read holds []
    rwa [List.append_nil, ← position_of_initial read] at inside
  stretch := by
    intro lexeme holds
    have place := position_of_initial read
    obtain ⟨before, shape, start, -, -⟩ := exists_before_of_lexeme? read holds
    have length :
        scanner.position - lexeme.start = lexeme.text.toList.length := by
      rw [place, shape, List.length_append, start]
      exact Nat.add_sub_cancel_left _ _
    rw [List.extract_eq_take_drop, length, shape, List.append_assoc, ← start,
      List.drop_left, List.take_left]
  wellFormed := (hasRead_of_initial read).wellFormed

/-- A number that is held has the form that its literal is made from. -/
theorem numberForm_of_holds
    (read : initial.run front = .ok scanner)
    (holds : scanner.state.HoldsNumber lexeme) :
    NumberForm lexeme.text.toList lexeme.literal := by
  obtain ⟨literal, form⟩ :=
    holds.numberForm (hasRead_of_initial read).wellFormed
  rwa [Lexeme.literal_of_numberForm form]

/-- A number in its form is refused exactly if it is too large. -/
theorem Lexeme.number_error_iff
    (form : NumberForm lexeme.text.toList lexeme.literal)
    {numeral : PlainNumeral}
    (literal : numeral.IsLiteral)
    (written : lexeme.literal = numeral.characters)
    (fault : Fault) :
    lexeme.number = .error fault ↔
      fault = ⟨lexeme.start, .numberRejected .outOfRange⟩ ∧
        2 ^ 96 - 1 / 2 ≤ numeral.magnitude := by
  rw [← Decimal.ofChars_refused_iff literal, ← written]
  constructor
  · intro refused
    obtain ⟨reason, unread, rfl⟩ := lexeme.exists_reason_of_number refused
    obtain rfl := form.reason_eq_outOfRange unread
    exact ⟨rfl, unread⟩
  · rintro ⟨rfl, unread⟩
    rw [Lexeme.number, unread]

end Scanner

/-- A number that is refused where it stands is too large. -/
theorem NumberAt.exists_tooLarge
    {characters number literal : List Char}
    {position : Nat}
    (stands : NumberAt characters position number literal)
    (refused : Decimal.ofChars literal = .error .outOfRange) :
    ∃ numeral : PlainNumeral,
      numeral.IsLiteral ∧
        literal = numeral.characters ∧
        2 ^ 96 - 1 / 2 ≤ numeral.magnitude := by
  obtain ⟨_, _, _, _, _, form, _⟩ := stands
  obtain ⟨numeral, isLiteral, rfl⟩ := form.exists_numeral
  have tooLarge := (Decimal.ofChars_refused_iff isLiteral).mp refused
  exact ⟨numeral, isLiteral, rfl, tooLarge⟩

/-- The cause of a lexical failure describes its text. -/
theorem describes_of_tokenize
    {text : String}
    {position : Nat}
    {cause : LexicalFault}
    (refused : tokenize text = .error (.lexical text position cause)) :
    cause.Describes text position := by
  unfold tokenize at refused
  split at refused
  · cases refused
  · next stopped =>
      cases refused
      exact (Scanner.origin_of_tokensOf stopped).describes

/--
Wherever a scanner stands in a text, its unfinished lexeme is the stretch of the
text from where the lexeme began to that place, in the form of the state.  A
number that may end there has a literal with integer digits, which is refused
exactly if its number is at least half of one above the largest coefficient.  So
a number of the text is refused for its size only, and an unknown unit is
reported where its letters begin, with all of them.
-/
theorem tokenize_buffers_lexemes (text : String) :
    (∀ front later scanner,
        text.toList = front ++ later →
        Scanner.initial.run front = .ok scanner →
        scanner.position = front.length ∧
          scanner.Buffers text.toList ∧
          ∀ lexeme,
            scanner.state.HoldsNumber lexeme →
            NumberForm lexeme.text.toList lexeme.literal ∧
              ∃ numeral : PlainNumeral,
                numeral.IsLiteral ∧
                  lexeme.literal = numeral.characters ∧
                  ∀ fault,
                    lexeme.number = .error fault ↔
                      fault = ⟨lexeme.start, .numberRejected .outOfRange⟩ ∧
                        2 ^ 96 - 1 / 2 ≤ numeral.magnitude) ∧
      (∀ position reason,
        tokenize text =
            .error (.lexical text position (.numberRejected reason)) →
        reason = .outOfRange ∧
          ∃ number, ∃ numeral : PlainNumeral,
            NumberAt text.toList position number numeral.characters ∧
              numeral.IsLiteral ∧
              2 ^ 96 - 1 / 2 ≤ numeral.magnitude) ∧
      ∀ position name,
        tokenize text =
            .error (.lexical text position (.unknownUnit name)) →
        UnitAt text.toList position name.toList ∧
          LengthUnit.ofCode? name = none ∧
          (Failure.lexical text position (.unknownUnit name)).diagnostic =
            .lexical text position
              ("Unknown unit '" ++ name ++
                "', expected mm, cm, in, px or pt") := by
  refine ⟨?_, ?_, ?_⟩
  · intro front later scanner shape read
    refine ⟨Scanner.position_of_initial read, ?_, ?_⟩
    · rw [shape]
      exact Scanner.buffers_of_run read later
    · intro lexeme holds
      have form := Scanner.numberForm_of_holds read holds
      obtain ⟨numeral, literal, written⟩ := form.exists_numeral
      exact ⟨form, numeral, literal, written,
        Scanner.Lexeme.number_error_iff form literal written⟩
  · intro position reason refused
    obtain ⟨rfl, number, literal, stands, unread⟩ :=
      describes_of_tokenize refused
    obtain ⟨numeral, isLiteral, rfl, tooLarge⟩ := stands.exists_tooLarge unread
    exact ⟨rfl, number, numeral, stands, isLiteral, tooLarge⟩
  · intro position name refused
    obtain ⟨stands, unknown⟩ := describes_of_tokenize refused
    exact ⟨stands, unknown, rfl⟩

/--
A number without integer digits in front of an unknown unit, and the smallest
number that is refused.
-/
theorem tokenize_buffers_lexemes_refused :
    tokenize "1mm - -.5km" =
        .error (.lexical "1mm - -.5km" 9 (.unknownUnit "km")) ∧
      "-.5".toList = "1mm - -.5km".toList.extract 6 9 ∧
      NumberForm "-.5".toList "-0.5".toList ∧
      UnitAt "1mm - -.5km".toList 9 "km".toList ∧
      tokenize "79228162514264337593543950335.5mm" =
        .error
          (.lexical "79228162514264337593543950335.5mm" 0
            (.numberRejected .outOfRange)) ∧
      ∃ number, ∃ numeral : PlainNumeral,
        NumberAt "79228162514264337593543950335.5mm".toList 0 number
            numeral.characters ∧
          2 ^ 96 - 1 / 2 ≤ numeral.magnitude := by
  have read :
      Scanner.initial.run "1mm - -.5".toList =
        .ok ⟨9, .fraction ⟨6, "-.5"⟩,
          #[.number ⟨1, 0, by decide, by decide⟩, .unit .millimeter,
            .minus]⟩ := by
    rfl
  have unknown :
      tokenize "1mm - -.5km" =
        .error (.lexical "1mm - -.5km" 9 (.unknownUnit "km")) := by
    rfl
  have tooLarge :
      tokenize "79228162514264337593543950335.5mm" =
        .error
          (.lexical "79228162514264337593543950335.5mm" 0
            (.numberRejected .outOfRange)) := by
    rfl
  obtain ⟨stands, -, letters⟩ := tokenize_buffers_lexemes "1mm - -.5km"
  obtain ⟨-, buffers, held⟩ := stands _ "km".toList _ (by decide) read
  obtain ⟨-, sizes, -⟩ :=
    tokenize_buffers_lexemes "79228162514264337593543950335.5mm"
  obtain ⟨-, number, numeral, numberAt, -, magnitude⟩ := sizes 0 _ tooLarge
  exact ⟨unknown, buffers.stretch _ rfl, (held _ (.fraction _)).1,
    (letters 9 "km" unknown).1, tooLarge, number, numeral, numberAt, magnitude⟩

end LengthCalc
