import LengthCalc.Proofs.ScannerRun
import LengthCalc.Proofs.ScannerStates

namespace LengthCalc.Scanner

/-!
# The scanner reads every splitting

A scanner that stands at a place reads blanks and stays there, and reads the
characters of an expected token and goes on to the place behind it.  A token
whose characters may still go on is counted as read: `StandsAt` adds it to the
tokens found.
-/

/-- A sign and one more character, which begins what a state collects. -/
theorem run_signed
    (collecting : Lexeme → State)
    {character : Char}
    {charClass : CharClass}
    (classified : CharClass.of? character = some charClass)
    (ofStart :
      ∀ position,
        State.start.step position character charClass =
          .ok (collecting (.begin position character), []))
    (ofSign :
      ∀ lexeme position,
        (State.sign lexeme).step position character charClass =
          .ok (collecting (lexeme.push character), []))
    (isNegative : Bool)
    (position : Nat)
    (found : Array Token) :
    ∃ place lexeme,
      lexeme.text.toList = minusChars isNegative ++ [character] ∧
        run ⟨position, .start, found⟩ (minusChars isNegative ++ [character]) =
          .ok ⟨place, collecting lexeme, found⟩ := by
  cases isNegative with
  | false =>
      have first :
          Scanner.advance ⟨position, .start, found⟩ character =
            .ok ⟨position + 1, collecting (.begin position character), found⟩ :=
        advance_of_silent_step classified (ofStart position)
      refine ⟨position + 1, .begin position character,
        Lexeme.toList_begin position character, ?_⟩
      exact run_cons_of_advance first []
  | true =>
      have sign :
          Scanner.advance ⟨position, .start, found⟩ '-' =
            .ok ⟨position + 1, .sign (.begin position '-'), found⟩ :=
        advance_of_silent_step CharClass.of?_minus rfl
      have second :
          Scanner.advance
              ⟨position + 1, .sign (.begin position '-'), found⟩ character =
            .ok ⟨position + 1 + 1,
              collecting ((Lexeme.begin position '-').push character),
              found⟩ :=
        advance_of_silent_step classified (ofSign _ _)
      refine ⟨position + 1 + 1, (Lexeme.begin position '-').push character,
        by simp [minusChars], ?_⟩
      exact (run_cons_of_advance sign [character]).trans
        (run_cons_of_advance second [])

/-- Each of some digits is classified as a digit. -/
theorem of?_of_allDigits
    {digits : List Char}
    (allDigits : Decimal.AllDigits digits) :
    ∀ character ∈ digits, CharClass.of? character = some .digit :=
  fun character member => CharClass.of?_isDigit (allDigits character member)

/-- A number without a fraction is read up to its last digit. -/
theorem run_whole
    (isNegative : Bool)
    {digits : List Char}
    (digitRun : IsDigitRun digits)
    (position : Nat)
    (found : Array Token) :
    ∃ place lexeme,
      lexeme.text.toList = minusChars isNegative ++ digits ∧
        run ⟨position, .start, found⟩ (minusChars isNegative ++ digits) =
          .ok ⟨place, .integer lexeme, found⟩ := by
  obtain ⟨digit, rest, shape⟩ :=
    List.exists_cons_of_ne_nil digitRun.nonempty
  have digits := digitRun.digits
  rw [shape] at digits ⊢
  obtain ⟨place, lexeme, text, first⟩ :=
    run_signed .integer (CharClass.of?_isDigit digits.head)
      (fun _ => rfl) (fun _ _ => rfl) isNegative position found
  have later :=
    run_collect State.integer (fun _ _ _ => rfl)
      (of?_of_allDigits digits.tail) place lexeme found
  refine ⟨place + rest.length, lexeme.pushAll rest, by simp [text], ?_⟩
  rw [List.append_cons, run_append_of_run first]
  exact later

/-- The digits behind a point. -/
theorem run_fraction
    {digits : List Char}
    (digitRun : IsDigitRun digits)
    (position : Nat)
    (lexeme : Lexeme)
    (found : Array Token) :
    ∃ place collected,
      collected.text.toList = lexeme.text.toList ++ digits ∧
        run ⟨position, .point lexeme, found⟩ digits =
          .ok ⟨place, .fraction collected, found⟩ := by
  obtain ⟨digit, rest, shape⟩ :=
    List.exists_cons_of_ne_nil digitRun.nonempty
  have digits := digitRun.digits
  rw [shape] at digits ⊢
  have first :
      Scanner.advance ⟨position, .point lexeme, found⟩ digit =
        .ok ⟨position + 1, .fraction (lexeme.push digit), found⟩ :=
    advance_of_silent_step (CharClass.of?_isDigit digits.head) rfl
  have later :=
    run_collect State.fraction (fun _ _ _ => rfl)
      (of?_of_allDigits digits.tail) (position + 1) (lexeme.push digit) found
  refine ⟨position + 1 + rest.length, (lexeme.push digit).pushAll rest,
    by simp, ?_⟩
  rw [run_cons_of_advance first]
  exact later

/-- A number is collected from its first character to its last one. -/
theorem run_number
    {characters literal : List Char}
    (form : NumberForm characters literal)
    (position : Nat)
    (found : Array Token) :
    ∃ place state lexeme,
      State.HoldsNumber state lexeme ∧
        lexeme.text.toList = characters ∧
        run ⟨position, .start, found⟩ characters =
          .ok ⟨place, state, found⟩ := by
  cases form with
  | whole isNegative digits =>
      obtain ⟨place, lexeme, text, read⟩ :=
        run_whole isNegative digits position found
      exact ⟨place, _, lexeme, .integer lexeme, text, read⟩
  | @fraction isNegative wholeChars fractionDigits whole digits =>
      obtain ⟨place, lexeme, text, read⟩ :=
        run_whole isNegative whole position found
      have point :
          Scanner.advance ⟨place, .integer lexeme, found⟩ '.' =
            .ok ⟨place + 1, .point (lexeme.push '.'), found⟩ :=
        advance_of_silent_step CharClass.of?_point rfl
      obtain ⟨ending, collected, full, rest⟩ :=
        run_fraction digits (place + 1) (lexeme.push '.') found
      refine ⟨ending, _, collected, .fraction collected, ?_, ?_⟩
      · simp [full, text]
      · rw [← List.append_assoc, run_append_of_run read,
          run_cons_of_advance point]
        exact rest
  | bareFraction isNegative digits =>
      obtain ⟨place, lexeme, text, read⟩ :=
        run_signed .point CharClass.of?_point
          (fun _ => rfl) (fun _ _ => rfl) isNegative position found
      obtain ⟨ending, collected, full, rest⟩ :=
        run_fraction digits place lexeme found
      refine ⟨ending, _, collected, .fraction collected, ?_, ?_⟩
      · simp [full, text]
      · rw [List.append_cons, run_append_of_run read]
        exact rest

/-- The tokens that a state still completes, and the place behind them. -/
inductive State.Awaits : State → TokenPlace → List Token → Prop where
  | start :
      Awaits .start .operand []
  | number
      {state : State}
      {lexeme : Lexeme}
      {token : Token} :
      state.HoldsNumber lexeme →
      lexeme.number = .ok token →
      Awaits state .unit [token]
  | afterNumber :
      Awaits .afterNumber .unit []
  | operator
      {state : State}
      {tokens : List Token} :
      state.Completes tokens →
      Awaits state .operator tokens

/-- The scanner has read tokens and stands at the place behind them. -/
def StandsAt
    (scanner : Scanner)
    (place : TokenPlace)
    (tokens : List Token) :
    Prop :=
  ∃ pending,
    scanner.state.Awaits place pending ∧
      tokens = scanner.tokens.toList ++ pending

namespace StandsAt

variable {scanner : Scanner}
variable {place next : TokenPlace}
variable {tokens : List Token}

/-- The scanner begins where an operand is expected. -/
theorem initial : Scanner.initial.StandsAt .operand [] :=
  ⟨[], .start, rfl⟩

/-- Behind an operand an operator is expected. -/
theorem of_behind (behind : scanner.Behind tokens) :
    scanner.StandsAt .operator tokens := by
  obtain ⟨pending, completes, shape⟩ := behind
  exact ⟨pending, .operator completes, shape⟩

/-- Where an operator is expected the scanner stands behind an operand. -/
theorem behind (stands : scanner.StandsAt .operator tokens) :
    scanner.Behind tokens := by
  rcases scanner with ⟨position, state, found⟩
  obtain ⟨pending, awaits, shape⟩ := stands
  cases awaits with
  | operator completes =>
      exact ⟨pending, completes, shape⟩

/-- Where an operand is expected nothing is unfinished. -/
theorem operand (stands : scanner.StandsAt .operand tokens) :
    ∃ position found,
      scanner = ⟨position, .start, found⟩ ∧ tokens = found.toList := by
  rcases scanner with ⟨position, state, found⟩
  obtain ⟨pending, awaits, shape⟩ := stands
  cases awaits with
  | start =>
      exact ⟨position, found, rfl, by simpa using shape⟩

/--
Behind a number, a blank and a letter do what they do behind the number and a
blank.
-/
theorem advance_unit
    (stands : scanner.StandsAt .unit tokens)
    {character : Char}
    {charClass : CharClass}
    (classified : CharClass.of? character = some charClass)
    (state : Nat → State)
    (ofNumber :
      ∀ numberState lexeme position,
        State.HoldsNumber numberState lexeme →
        numberState.step position character charClass =
          lexeme.number.map fun token => (state position, [token]))
    (ofAfterNumber :
      ∀ position,
        State.afterNumber.step position character charClass =
          .ok (state position, [])) :
    ∃ position place found,
      found.toList = tokens ∧
        scanner.advance character = .ok ⟨position, state place, found⟩ := by
  rcases scanner with ⟨position, before, found⟩
  obtain ⟨pending, awaits, shape⟩ := stands
  cases awaits with
  | @number _ lexeme token holds finished =>
      have stepped := ofNumber before lexeme position holds
      rw [finished] at stepped
      exact ⟨_, position, found ++ [token], by simp [shape],
        advance_of_step classified stepped⟩
  | afterNumber =>
      exact ⟨_, position, found, by simp [shape],
        advance_of_silent_step classified (ofAfterNumber position)⟩

/-- A blank does not change what is expected. -/
theorem blank
    (stands : scanner.StandsAt place tokens)
    {character : Char}
    (blank : isBlank character = true) :
    ∃ after,
      scanner.advance character = .ok after ∧ after.StandsAt place tokens := by
  have classified := CharClass.of?_of_isBlank blank
  cases place with
  | operand =>
      obtain ⟨position, found, rfl, rfl⟩ := stands.operand
      exact ⟨_, advance_of_silent_step classified rfl, [], .start, by simp⟩
  | unit =>
      obtain ⟨position, -, found, rfl, read⟩ :=
        stands.advance_unit classified (fun _ => .afterNumber)
          (fun _ _ _ holds => by cases holds <;> rfl) (fun _ => rfl)
      exact ⟨_, read, [], .afterNumber, by simp⟩
  | operator =>
      obtain ⟨after, read, behind⟩ := stands.behind.space classified
      exact ⟨after, read, .of_behind behind⟩

/-- Blanks do not change what is expected. -/
theorem blanks
    (stands : scanner.StandsAt place tokens)
    {characters : List Char}
    (allBlank : ∀ character ∈ characters, isBlank character = true) :
    ∃ after,
      scanner.run characters = .ok after ∧ after.StandsAt place tokens := by
  induction characters generalizing scanner with
  | nil =>
      exact ⟨scanner, rfl, stands⟩
  | cons character rest inductionHypothesis =>
      obtain ⟨middle, first, standsStill⟩ :=
        stands.blank (allBlank character (by simp))
      obtain ⟨after, later, standsAfter⟩ :=
        inductionHypothesis standsStill
          (fun other member => allBlank other (by simp [member]))
      exact ⟨after, by rw [run_cons_of_advance first, later], standsAfter⟩

/-- A number is read where an operand is expected. -/
theorem number
    (stands : scanner.StandsAt .operand tokens)
    {characters literal : List Char}
    (form : NumberForm characters literal)
    {value : Decimal}
    (read : Decimal.ofChars literal = .ok value) :
    ∃ after,
      scanner.run characters = .ok after ∧
        after.StandsAt .unit (tokens ++ [.number value]) := by
  obtain ⟨position, found, rfl, rfl⟩ := stands.operand
  obtain ⟨place, state, lexeme, holds, rfl, ran⟩ :=
    run_number form position found
  have finished : lexeme.number = .ok (.number value) := by
    rw [Lexeme.number, Lexeme.literal_of_numberForm form, read]
  exact ⟨_, ran, [.number value], .number holds finished, rfl⟩

/-- A unit is read where one is expected, in any case. -/
theorem unit
    (stands : scanner.StandsAt .unit tokens)
    {characters : List Char}
    {unit : LengthUnit}
    (code : characters.map Char.toLower = unit.code.toList) :
    ∃ after,
      scanner.run characters = .ok after ∧
        after.StandsAt .operator (tokens ++ [.unit unit]) := by
  have letters :
      ∀ character ∈ characters,
        CharClass.of? character = some .letter := by
    intro character member
    have inCode : character.toLower ∈ unit.code.toList := by
      rw [← code]
      exact List.mem_map_of_mem member
    exact CharClass.of?_of_toLower_mem_code inCode
  cases characters with
  | nil =>
      cases unit <;> cases code
  | cons letter rest =>
      obtain ⟨position, place, found, rfl, first⟩ :=
        stands.advance_unit (letters letter (by simp))
          (fun position => .letters (.begin position letter))
          (fun _ _ _ holds => by cases holds <;> rfl) (fun _ => rfl)
      have restLetters :
          ∀ character ∈ rest, CharClass.of? character = some .letter :=
        fun character member => letters character (by simp [member])
      have later :=
        run_collect State.letters (fun _ _ _ => rfl) restLetters
          position (.begin place letter) found
      have finished :
          ((Lexeme.begin place letter).pushAll rest).unit =
            .ok (.unit unit) := by
        refine Lexeme.unit_of_code ?_
        simpa using code
      have read :=
        (run_cons_of_advance first rest).trans later
      exact ⟨_, read, [.unit unit], .operator (.letters finished), rfl⟩

/-- An operator is read where one is expected. -/
theorem sign
    (stands : scanner.StandsAt .operator tokens)
    (operator : Operator) :
    ∃ after,
      scanner.run [operator.signChar] = .ok after ∧
        after.StandsAt .operand (tokens ++ [operator.token]) := by
  obtain ⟨position, found, shape, read⟩ := stands.behind.operator operator
  exact ⟨_, run_cons_of_advance read [], [], .start, by simp [shape]⟩

/-- The characters of an expected token are read as that token. -/
theorem lexeme
    (stands : scanner.StandsAt place tokens)
    {token : Token}
    {characters : List Char}
    (spelled : token.Spelled characters)
    (expected : place.after? token = some next) :
    ∃ after,
      scanner.run characters = .ok after ∧
        after.StandsAt next (tokens ++ [token]) := by
  cases spelled with
  | openBracket =>
      cases place <;> cases expected
      obtain ⟨position, found, rfl, rfl⟩ := stands.operand
      have read :
          Scanner.advance ⟨position, .start, found⟩ '(' =
            .ok ⟨position + 1, .start, found ++ [Token.openBracket]⟩ :=
        advance_of_step CharClass.of?_openBracket rfl
      exact ⟨_, run_cons_of_advance read [], [], .start, by simp⟩
  | closeBracket =>
      cases place <;> cases expected
      obtain ⟨after, read, behind⟩ := stands.behind.closeBracket
      exact ⟨after, run_cons_of_advance read [], .of_behind behind⟩
  | plus =>
      cases place <;> cases expected
      exact stands.sign .plus
  | minus =>
      cases place <;> cases expected
      exact stands.sign .minus
  | number form read =>
      cases place <;> cases expected
      exact stands.number form read
  | unit code =>
      cases place <;> cases expected
      exact stands.unit code

/-- Pieces whose tokens are expected are read one after the other. -/
theorem pieces
    (stands : scanner.StandsAt place tokens)
    {pieces : List Piece}
    (expected : place.run? (pieces.map Piece.token) = some next) :
    ∃ after,
      scanner.run (Piece.join pieces) = .ok after ∧
        after.StandsAt next (tokens ++ pieces.map Piece.token) := by
  induction pieces generalizing scanner place tokens with
  | nil =>
      cases expected
      exact ⟨scanner, rfl, by simpa using stands⟩
  | cons piece rest inductionHypothesis =>
      obtain ⟨middle, first, later⟩ := TokenPlace.exists_of_run?_cons expected
      obtain ⟨atLexeme, readBlanks, standsBefore⟩ :=
        stands.blanks piece.blanks_blank
      obtain ⟨behindLexeme, readLexeme, standsBehind⟩ :=
        standsBefore.lexeme piece.spelled first
      obtain ⟨after, readRest, standsAfter⟩ :=
        inductionHypothesis standsBehind later
      refine ⟨after, ?_, by simpa using standsAfter⟩
      rw [Piece.join_cons, run_append_of_run readBlanks,
        run_append_of_run readLexeme, readRest]

/-- A text may end where no operand is expected. -/
theorem finish
    (stands : scanner.StandsAt place tokens)
    (complete : place ≠ .operand) :
    scanner.finish = .ok tokens := by
  cases place with
  | operand =>
      exact (complete rfl).elim
  | unit =>
      rcases scanner with ⟨position, state, found⟩
      obtain ⟨pending, awaits, shape⟩ := stands
      cases awaits with
      | number holds finished =>
          cases holds <;>
            simp [Scanner.finish, State.finish, finished, Except.map, shape]
      | afterNumber =>
          simp [Scanner.finish, State.finish, Except.map, shape]
  | operator =>
      exact stands.behind.finish

end StandsAt

/-- A splitting of a text is read as its tokens. -/
theorem tokensOf_splitting (splitting : Splitting) :
    tokensOf splitting.characters = .ok splitting.tokens := by
  obtain ⟨place, expected, complete⟩ :=
    (operandsForm_iff _).mp splitting.operands
  obtain ⟨behind, readPieces, standsBehind⟩ :=
    StandsAt.initial.pieces expected
  obtain ⟨last, readEnding, standsLast⟩ :=
    standsBehind.blanks splitting.ending_blank
  simp only [tokensOf, Splitting.characters, run_append_of_run readPieces,
    readEnding]
  exact standsLast.finish complete

end LengthCalc.Scanner
