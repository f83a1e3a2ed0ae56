import LengthCalc.Proofs.DecimalRange
import LengthCalc.Proofs.LexicalExact
import LengthCalc.Proofs.ScannerFaults

namespace LengthCalc

/-!
# Lexical faults are found where they are

The fault of a text stands at the right character of it.  A character that is
refused is refused in every text that begins alike.  A number or a unit that is
refused is the complete one that begins there, as far as its characters go on.
A text that ends too early only lacks a digit and a unit.
-/

/-- Only a text that ends too early is said to do so. -/
theorem LexicalFault.expectation_eq_iff (cause : LexicalFault) :
    cause.expectation = "Unexpected end of data" ↔ cause = .unexpectedEnd := by
  cases cause with
  | foreignCharacter => decide
  | misplaced place => cases place <;> decide
  | unexpectedEnd => decide
  | numberRejected reason =>
      have differs :
          "Expected a number within decimal range" ≠
            "Unexpected end of data" := by
        decide
      exact iff_of_false differs nofun
  | unknownUnit name =>
      -- The two texts differ in their third character.
      have differs :
          "Unknown unit '" ++ name ++ "', expected mm, cm, in, px or pt" ≠
            "Unexpected end of data" := by
        intro same
        have third := congrArg (fun text => text.toList[2]?) same
        simp only [String.toList_append, List.append_assoc] at third
        rw [List.getElem?_append_left (by decide)] at third
        revert third
        decide
      exact iff_of_false differs nofun

/-- The message of a lexical failure shows the text with a mark in it. -/
theorem Failure.message_lexical
    (text : String)
    (position : Nat)
    (cause : LexicalFault) :
    (Failure.lexical text position cause).message =
      cause.expectation ++ " at pos " ++ position.repr ++ ": `" ++
        (String.ofList (text.toList.take position) ++ "[]" ++
          String.ofList (text.toList.drop position)) ++
        "`" :=
  rfl

/--
The letters that stand at a place of a text, with no letter in front of them or
behind them.
-/
def UnitAt
    (characters : List Char)
    (position : Nat)
    (letters : List Char) :
    Prop :=
  ∃ before after,
    characters = before ++ (letters ++ after) ∧
      before.length = position ∧
      letters ≠ [] ∧
      (∀ character ∈ before.getLast?, isAlphabetic character = false) ∧
      (∀ character ∈ letters, isAlphabetic character = true) ∧
      (∀ character ∈ after.head?, isAlphabetic character = false)

/--
The number that stands at a place of a text, where an operand begins: complete
pieces are in front of it, so that a minus there is an operator, and neither
the character in front of it nor the one behind it belongs to the number.
-/
def NumberAt
    (characters : List Char)
    (position : Nat)
    (number literal : List Char) :
    Prop :=
  ∃ before after tokens,
    characters = before ++ (number ++ after) ∧
      before.length = position ∧
      NumberForm number literal ∧
      Progress before tokens .operand [] ∧
      (∀ character ∈ before.getLast?,
        character.isDigit = false ∧ character ≠ '.') ∧
      (∀ character ∈ after.head?, ¬ InNumber character)

/--
With a digit and a unit behind it a text has tokens, unless the number that
the digit completes is out of range.
-/
def LacksOperand (text : String) : Prop :=
  (∃ tokens, tokenize (text ++ "1mm") = .ok tokens) ∨
    ∃ position number literal,
      NumberAt (text ++ "1mm").toList position number literal ∧
        position + number.length = text.length + 1 ∧
        Decimal.ofChars literal = .error .outOfRange ∧
        tokenize (text ++ "1mm") =
          .error
            (.lexical (text ++ "1mm") position (.numberRejected .outOfRange))

/-- Every text with the same characters up to a place has the fault there. -/
def RefusedAlike
    (text : String)
    (position : Nat)
    (cause : LexicalFault) :
    Prop :=
  ∀ other : String,
    other.toList.take (position + 1) = text.toList.take (position + 1) →
    tokenize other = .error (.lexical other position cause)

/-- What a fault at a place says about the text. -/
def LexicalFault.Describes
    (text : String)
    (position : Nat) :
    LexicalFault → Prop
  | .foreignCharacter => RefusedAlike text position .foreignCharacter
  | .misplaced place => RefusedAlike text position (.misplaced place)
  | .unexpectedEnd => LacksOperand text
  | .numberRejected reason =>
      reason = .outOfRange ∧
        ∃ number literal,
          NumberAt text.toList position number literal ∧
            Decimal.ofChars literal = .error reason
  | .unknownUnit name =>
      UnitAt text.toList position name.toList ∧
        LengthUnit.ofCode? name = none

/-- A number that is refused is out of range. -/
theorem NumberAt.reason_eq_outOfRange
    {characters number literal : List Char}
    {position : Nat}
    (stands : NumberAt characters position number literal)
    {reason : Decimal.ReadFault}
    (refused : Decimal.ofChars literal = .error reason) :
    reason = .outOfRange := by
  obtain ⟨_, _, _, _, _, form, _⟩ := stands
  exact form.reason_eq_outOfRange refused

namespace Progress

variable {before : List Char}
variable {tokens : List Token}

/-- In front of a unit stands no letter. -/
theorem before_unit (progress : Progress before tokens .unit []) :
    ∀ character ∈ before.getLast?, isAlphabetic character = false := by
  cases progress with
  | intro pieces blanks _ blanksBlank reached =>
      rw [List.append_nil]
      exact Splitting.before_unit reached blanksBlank

/-- In front of an operand stands a blank, a bracket or an operator. -/
theorem before_operand (progress : Progress before tokens .operand []) :
    ∀ character ∈ before.getLast?,
      character.isDigit = false ∧ character ≠ '.' := by
  cases progress with
  | intro pieces blanks _ blanksBlank reached =>
      rw [List.append_nil]
      intro character member
      rcases List.eq_nil_or_concat blanks with rfl | ⟨others, blank, rfl⟩
      · rw [List.append_nil] at member
        rcases List.eq_nil_or_concat pieces with rfl | ⟨front, piece, rfl⟩
        · cases member
        · rcases piece with ⟨pieceBlanks, lexeme, token, _, spelled⟩
          have begins : Token.OperandBegins _ :=
            (TokenPlace.operandBegins_iff reached).mpr rfl
          rcases begins token (by simp) with rfl | rfl | rfl <;>
            · cases spelled
              simp at member
              subst member
              decide
      · rw [List.concat_eq_append] at member blanksBlank
        rw [← List.append_assoc, List.getLast?_concat] at member
        cases member
        have isBlank := blanksBlank character (by simp)
        constructor
        · cases isDigit : character.isDigit with
          | false => rfl
          | true =>
              rw [CharClass.isBlank_of_isDigit isDigit] at isBlank
              contradiction
        · rintro rfl
          revert isBlank
          decide

end Progress

namespace Scanner

variable {scanner : Scanner}
variable {front later characters : List Char}
variable {character : Char}
variable {lexeme : Lexeme}
variable {fault : Fault}

/-- A number that is held is the one that begins at its place. -/
theorem numberAt_of_holds
    (read : initial.run front = .ok scanner)
    (holds : scanner.state.HoldsNumber lexeme)
    (ends : ∀ character ∈ later.head?, ¬ InNumber character) :
    NumberAt (front ++ later) lexeme.start lexeme.text.toList
      lexeme.literal := by
  obtain ⟨literal, form⟩ :=
    holds.numberForm (hasRead_of_initial read).wellFormed
  obtain ⟨before, rfl, place, -, progress⟩ :=
    exists_before_of_lexeme? read holds.lexeme?_eq
  rw [holds.tokenPlace_eq] at progress
  rw [Lexeme.literal_of_numberForm form]
  exact ⟨before, later, _, List.append_assoc _ _ _, place, form, progress,
    progress.before_operand, ends⟩

/-- Letters that are held are the ones that begin at their place. -/
theorem unitAt_of_holds
    (read : initial.run front = .ok scanner)
    (holds : scanner.state = .letters lexeme)
    (ends : ∀ character ∈ later.head?, isAlphabetic character = false) :
    UnitAt (front ++ later) lexeme.start lexeme.text.toList := by
  have wellFormed := (hasRead_of_initial read).wellFormed
  obtain ⟨before, rfl, place, nonempty, progress⟩ :=
    exists_before_of_lexeme? read (State.lexeme?_of_letters holds)
  rw [holds] at progress wellFormed
  cases wellFormed with
  | letters _ letters =>
      exact ⟨before, later, List.append_assoc _ _ _, place, nonempty,
        progress.before_unit, letters, ends⟩

/-- A digit is read in every state in which a text may not end. -/
theorem exists_advance_of_unfinished
    (unfinished : scanner.state.Unfinished) :
    ∃ next lexeme,
      scanner.advance '1' = .ok next ∧ next.state.HoldsNumber lexeme := by
  rcases scanner with ⟨position, state, tokens⟩
  have digit : CharClass.of? '1' = some .digit := by decide
  cases unfinished with
  | start =>
      exact ⟨_, _, advance_of_silent_step digit rfl, .integer _⟩
  | sign lexeme =>
      exact ⟨_, _, advance_of_silent_step digit rfl, .integer _⟩
  | point lexeme =>
      exact ⟨_, _, advance_of_silent_step digit rfl, .fraction _⟩

/-- A letter behind a number that is out of range is not reached. -/
theorem advance_of_rejected
    (holds : scanner.state.HoldsNumber lexeme)
    {reason : Decimal.ReadFault}
    (rejected : Decimal.ofChars lexeme.literal = .error reason) :
    scanner.advance 'm' = .error ⟨lexeme.start, .numberRejected reason⟩ := by
  rcases scanner with ⟨position, state, tokens⟩
  have letter : CharClass.of? 'm' = some .letter := by decide
  have number :
      lexeme.number = .error ⟨lexeme.start, .numberRejected reason⟩ := by
    rw [Lexeme.number, rejected]
  simp only [advance, letter]
  cases holds <;>
    · simp only [State.step, number]
      rfl

/-- What stops at the end of a text goes on with an operand. -/
theorem lacksOperand_of_unfinished
    {text : String}
    (read : initial.run text.toList = .ok scanner)
    (unfinished : scanner.state.Unfinished) :
    LacksOperand text := by
  obtain ⟨next, lexeme, advanced, holds⟩ :=
    exists_advance_of_unfinished unfinished
  have readDigit : initial.run (text.toList ++ ['1']) = .ok next := by
    rw [run_append_of_run read, run_cons_of_advance advanced]
    rfl
  have seam : (text ++ "1mm").toList = text.toList ++ ['1'] ++ ['m', 'm'] := by
    simp
  cases read : Decimal.ofChars lexeme.literal with
  | ok value =>
      have finished : lexeme.number = .ok (.number value) := by
        rw [Lexeme.number, read]
      have stands :
          next.StandsAt .unit (next.tokens.toList ++ [.number value]) :=
        ⟨[.number value], .number holds finished, rfl⟩
      have code :
          ['m', 'm'].map Char.toLower =
            LengthUnit.millimeter.code.toList := by
        decide
      obtain ⟨last, readUnit, complete⟩ := stands.unit code
      have tokens := complete.finish (by decide)
      refine .inl ⟨_, (tokenize_eq_ok_iff _ _).mpr (Eq.trans ?_ tokens)⟩
      rw [seam, tokensOf, run_append_of_run readDigit, readUnit]
      rfl
  | error reason =>
      have ends :
          ∀ character ∈ ['m', 'm'].head?, ¬ InNumber character := by
        intro character member
        cases member
        unfold InNumber
        decide
      obtain ⟨before, shape, place, -, -⟩ :=
        exists_before_of_lexeme? readDigit holds.lexeme?_eq
      have seamLength := congrArg List.length shape
      simp only [List.length_append, List.length_singleton, place] at seamLength
      have number := numberAt_of_holds readDigit holds ends
      obtain rfl := number.reason_eq_outOfRange read
      have refused := advance_of_rejected holds read
      have stopped := tokensOf_of_advance readDigit refused ['m']
      rw [← seam] at number stopped
      refine .inr ⟨_, _, _, number, seamLength.symm, read, ?_⟩
      rw [tokenize, stopped]

/-- A lexeme begins in front of a character. -/
theorem start_lt_of_lexeme?
    (read : initial.run front = .ok scanner)
    (holds : scanner.state.lexeme? = some lexeme)
    (later : List Char) :
    lexeme.start < (front ++ later).length := by
  obtain ⟨before, rfl, place, nonempty, -⟩ :=
    exists_before_of_lexeme? read holds
  have more := List.length_pos_iff.mpr nonempty
  simp only [List.length_append, place]
  omega

/-- Only the end of a text is a place behind its last character. -/
theorem Origin.position_le
    {fault : Fault}
    (origin : Origin characters fault) :
    fault.position ≤ characters.length ∧
      (fault.position = characters.length ↔ fault.cause = .unexpectedEnd) := by
  have inside
      {position : Nat}
      {cause : LexicalFault}
      (before : position < characters.length)
      (other : cause ≠ .unexpectedEnd) :
      position ≤ characters.length ∧
        (position = characters.length ↔ cause = .unexpectedEnd) :=
    ⟨Nat.le_of_lt before, iff_of_false (Nat.ne_of_lt before) other⟩
  cases origin with
  | character _ _ atCharacter =>
      refine inside (by simp) ?_
      rcases atCharacter with rfl | ⟨place, rfl⟩ <;> simp
  | number read holds _ _ =>
      exact inside (start_lt_of_lexeme? read holds.lexeme?_eq _) (by simp)
  | unit read holds _ _ =>
      have held := State.lexeme?_of_letters holds
      exact inside (start_lt_of_lexeme? read held _) (by simp)
  | ending _ _ => simp

/-- What is refused at a character is refused whatever stands behind it. -/
theorem refusedAlike_of_advance
    {text : String}
    {cause : LexicalFault}
    (shape : text.toList = front ++ character :: later)
    (read : initial.run front = .ok scanner)
    (refused : scanner.advance character = .error ⟨front.length, cause⟩) :
    RefusedAlike text front.length cause := by
  intro other same
  have alike : other.toList.take (front.length + 1) = front ++ [character] := by
    simpa [shape, List.take_append, List.take_of_length_le] using same
  have otherShape :
      other.toList =
        front ++ character :: other.toList.drop (front.length + 1) := by
    rw [← List.take_append_drop (front.length + 1) other.toList, alike]
    simp
  rw [tokenize, otherShape, tokensOf_of_advance read refused]

/-- Where a fault comes from is what it says about the text. -/
theorem Origin.describes
    {text : String}
    {fault : Fault}
    (origin : Origin text.toList fault) :
    fault.cause.Describes text fault.position := by
  generalize shape : text.toList = characters at origin
  cases origin with
  | character read refused atCharacter =>
      have alike := refusedAlike_of_advance shape read refused
      rcases atCharacter with rfl | ⟨place, rfl⟩
      · exact alike
      · exact alike
  | @number front later scanner lexeme reason read holds ends rejected =>
      have number := numberAt_of_holds read holds fun character member =>
        TokenPlace.not_inNumber_of_admits (ends character member)
      have outOfRange := number.reason_eq_outOfRange rejected
      rw [← shape] at number
      exact ⟨outOfRange, _, _, number, rejected⟩
  | @unit front later scanner lexeme read holds ends unknown =>
      refine ⟨?_, unknown⟩
      rw [shape]
      exact unitAt_of_holds read holds fun character member =>
        TokenPlace.isAlphabetic_eq_false_of_admits (ends character member)
  | ending read unfinished =>
      rw [← shape] at read
      exact lacksOperand_of_unfinished read unfinished

end Scanner

/--
A text that has no tokens is reported with the place of the fault, which is
behind the last character exactly if the text ends too early.  The message
shows the text with a mark at that place.  The fault of a character depends on
nothing behind that character, the fault of a number or a unit stands where the
whole of it begins, and a text that ends too early lacks only an operand.
-/
theorem tokenize_error_located
    {text input : String}
    {position : Nat}
    {cause : LexicalFault}
    (refused : tokenize text = .error (.lexical input position cause)) :
    input = text ∧
      position ≤ text.length ∧
      (position = text.length ↔
        cause.expectation = "Unexpected end of data") ∧
      (∃ front back,
        (Failure.lexical input position cause).message =
          front ++
            (String.ofList (text.toList.take position) ++ "[]" ++
              String.ofList (text.toList.drop position)) ++
            back) ∧
      cause.Describes text position := by
  unfold tokenize at refused
  split at refused
  · cases refused
  · next fault stopped =>
      cases refused
      have origin := Scanner.origin_of_tokensOf stopped
      obtain ⟨bounded, isEnd⟩ := origin.position_le
      refine ⟨rfl, bounded, ?_, ?_, origin.describes⟩
      · rw [fault.cause.expectation_eq_iff]
        exact isEnd
      · exact ⟨_, _, Failure.message_lexical _ _ _⟩

theorem tokenize_error_located_unknownUnit :
    tokenize "1cm + 2km" =
        .error (.lexical "1cm + 2km" 7 (.unknownUnit "km")) ∧
      UnitAt "1cm + 2km".toList 7 "km".toList := by
  have refused :
      tokenize "1cm + 2km" =
        .error (.lexical "1cm + 2km" 7 (.unknownUnit "km")) := by
    rfl
  obtain ⟨-, -, -, -, unitAt, -⟩ := tokenize_error_located refused
  exact ⟨refused, unitAt⟩

end LengthCalc
