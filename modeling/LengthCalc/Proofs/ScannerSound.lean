import LengthCalc.Proofs.ScannerRun
import LengthCalc.Proofs.ScannerStates

namespace LengthCalc

/-!
# What the scanner accepts

Every text that is scanned to its end is split into pieces with the tokens that
the scanner finds.  The invariant of a run is `State.HasRead`: the characters
read so far are complete pieces, blanks, and an unfinished lexeme, which the
state holds.
-/

/--
Characters that are made up of the pieces of some tokens, which are followed by
a place, and of blanks and an unfinished lexeme.
-/
inductive Progress :
    List Char → List Token → TokenPlace → List Char → Prop where
  | intro
      (pieces : List Piece)
      (blanks unfinished : List Char)
      {place : TokenPlace} :
      (∀ character ∈ blanks, isBlank character = true) →
      TokenPlace.operand.run? (pieces.map Piece.token) = some place →
      Progress
        (Piece.join pieces ++ (blanks ++ unfinished))
        (pieces.map Piece.token)
        place
        unfinished

namespace Progress

variable {front unfinished : List Char}
variable {tokens : List Token}
variable {place next : TokenPlace}

/-- Nothing has been read at the start. -/
theorem start : Progress [] [] .operand [] :=
  .intro [] [] [] (by simp) rfl

/-- A blank may be read between two tokens. -/
theorem blank
    (progress : Progress front tokens place [])
    {character : Char}
    (blank : isBlank character = true) :
    Progress (front ++ [character]) tokens place [] := by
  cases progress with
  | intro pieces blanks _ blanksBlank reached =>
      have longerBlank :
          ∀ other ∈ blanks ++ [character], isBlank other = true := by
        intro other member
        rcases List.mem_append.mp member with before | last
        · exact blanksBlank other before
        · rw [List.mem_singleton.mp last]
          exact blank
      simpa using Progress.intro pieces _ [] longerBlank reached

/-- One more character of the unfinished lexeme may be read. -/
theorem push
    (progress : Progress front tokens place unfinished)
    (character : Char) :
    Progress
      (front ++ [character]) tokens place (unfinished ++ [character]) := by
  cases progress with
  | intro pieces blanks unfinished blanksBlank reached =>
      simpa using
        Progress.intro pieces blanks (unfinished ++ [character])
          blanksBlank reached

/-- An expected token with its characters ends the lexeme. -/
theorem complete
    (progress : Progress front tokens place unfinished)
    {token : Token}
    (spelled : token.Spelled unfinished)
    (expected : place.after? token = some next) :
    Progress front (tokens ++ [token]) next [] := by
  cases progress with
  | intro pieces blanks unfinished blanksBlank reached =>
      let piece : Piece := ⟨blanks, unfinished, token, blanksBlank, spelled⟩
      have longer :
          TokenPlace.operand.run? ((pieces ++ [piece]).map Piece.token) =
            some next := by
        rw [List.map_append]
        exact TokenPlace.run?_concat reached expected
      have result :=
        Progress.intro (pieces ++ [piece]) [] [] (by simp) longer
      simpa [piece] using result

/-- Complete pieces in a place where a text may end are a splitting of it. -/
theorem exists_splitting
    (progress : Progress front tokens place [])
    (complete : place ≠ .operand) :
    ∃ splitting : Splitting,
      splitting.characters = front ∧ splitting.tokens = tokens := by
  cases progress with
  | intro pieces blanks _ blanksBlank reached =>
      have operands : OperandsForm (pieces.map Piece.token) :=
        (operandsForm_iff _).mpr ⟨place, reached, complete⟩
      refine ⟨⟨pieces, blanks, blanksBlank, operands⟩, ?_, rfl⟩
      simp [Splitting.characters]

end Progress

/-- What was mapped to a value that there is. -/
theorem ok_of_map
    {α β ε : Type}
    {f : α → β}
    {outcome : Except ε α}
    {result : β}
    (mapped : outcome.map f = .ok result) :
    ∃ value, outcome = .ok value ∧ f value = result := by
  cases outcome with
  | error fault => cases mapped
  | ok value => exact ⟨value, rfl, Except.ok.inj mapped⟩

namespace Scanner

namespace State

/-- The characters read so far, as the tokens found and the state tell them. -/
structure HasRead
    (front : List Char)
    (tokens : List Token)
    (state : State) : Prop where
  progress : Progress front tokens state.tokenPlace state.unfinished
  wellFormed : state.WellFormed

namespace HasRead

variable {front : List Char}
variable {tokens completed : List Token}
variable {position : Nat}
variable {character : Char}
variable {charClass : CharClass}
variable {lexeme : Lexeme}
variable {state next : State}

/-- A character behind complete pieces begins a lexeme. -/
theorem begin
    (read : HasRead front tokens state)
    (complete : state.unfinished = [])
    (position : Nat)
    (character : Char) :
    Progress
      (front ++ [character]) tokens state.tokenPlace
      (Lexeme.begin position character).text.toList := by
  have progress := read.progress
  rw [complete] at progress
  rw [Lexeme.toList_begin]
  exact progress.push character

/-- A lexeme that is pushed a character is unfinished still. -/
theorem push
    (read : HasRead front tokens state)
    (holds : state.unfinished = lexeme.text.toList)
    (character : Char) :
    Progress
      (front ++ [character]) tokens state.tokenPlace
      (lexeme.push character).text.toList := by
  have progress := read.progress
  rw [holds] at progress
  rw [Lexeme.toList_push]
  exact progress.push character

/-- A step that completes no token only moves on in the lexeme. -/
theorem silent
    (progress : Progress front tokens next.tokenPlace next.unfinished)
    (wellFormed : next.WellFormed) :
    HasRead front (tokens ++ []) next := by
  rw [List.append_nil]
  exact ⟨progress, wellFormed⟩

/-- From the start a step begins an operand, opens a bracket or skips a blank.
-/
theorem of_start
    (read : HasRead front tokens .start)
    (holds : charClass.Holds character)
    (stepped :
      State.start.step position character charClass =
        .ok (next, completed)) :
    HasRead (front ++ [character]) (tokens ++ completed) next := by
  have begun := read.begin rfl position character
  cases charClass <;>
    simp only [step, Except.ok.injEq, Prod.mk.injEq, reduceCtorEq] at stepped <;>
    obtain ⟨rfl, rfl⟩ := stepped
  case space =>
    exact silent (read.progress.blank holds) .start
  case digit =>
    exact silent begun
      (.integer false (.singleton holds) (Lexeme.toList_begin ..))
  case openBracket =>
    cases holds
    rw [Lexeme.toList_begin] at begun
    exact ⟨begun.complete .openBracket rfl, .start⟩
  case minus =>
    cases holds
    exact silent begun (.sign (Lexeme.toList_begin ..))
  case point =>
    cases holds
    exact silent begun
      (.point false Decimal.allDigits_nil (Lexeme.toList_begin ..))

/-- Behind a sign a step goes on with the number. -/
theorem of_sign
    (read : HasRead front tokens (.sign lexeme))
    (holds : charClass.Holds character)
    (stepped :
      (State.sign lexeme).step position character charClass =
        .ok (next, completed)) :
    HasRead (front ++ [character]) (tokens ++ completed) next := by
  have pushed := read.push rfl character
  cases read.wellFormed with
  | sign shape =>
      cases charClass <;>
        simp only [step, Except.ok.injEq, Prod.mk.injEq,
          reduceCtorEq] at stepped <;>
        obtain ⟨rfl, rfl⟩ := stepped
      case digit =>
        refine silent pushed (.integer true (.singleton holds) ?_)
        simp [shape, minusChars]
      case point =>
        cases holds
        refine silent pushed (.point true Decimal.allDigits_nil ?_)
        simp [shape, minusChars]

/-- A blank or a letter ends a number, and so does the end of a text. -/
theorem finishNumber
    (read : HasRead front tokens state)
    (holds : state.HoldsNumber lexeme)
    {token : Token}
    (finished : lexeme.number = .ok token) :
    Progress front (tokens ++ [token]) .unit [] := by
  have progress := read.progress
  rw [holds.unfinished_eq, holds.tokenPlace_eq] at progress
  obtain ⟨literal, form⟩ := holds.numberForm read.wellFormed
  obtain ⟨spelled, expected⟩ := Lexeme.spelled_of_number form finished
  exact progress.complete spelled expected

/-- A blank ends a number, which is the token completed. -/
theorem of_number_space
    (read : HasRead front tokens state)
    (holdsNumber : state.HoldsNumber lexeme)
    (blank : isBlank character = true)
    (stepped :
      (lexeme.number.map fun token => (State.afterNumber, [token])) =
        .ok (next, completed)) :
    HasRead (front ++ [character]) (tokens ++ completed) next := by
  obtain ⟨token, finished, rfl, rfl⟩ := ok_of_map stepped
  exact ⟨(read.finishNumber holdsNumber finished).blank blank, .afterNumber⟩

/-- A letter ends a number and begins the unit. -/
theorem of_number_letter
    (read : HasRead front tokens state)
    (holdsNumber : state.HoldsNumber lexeme)
    (letter : isAlphabetic character = true)
    (stepped :
      (lexeme.number.map fun token =>
        (State.letters (.begin position character), [token])) =
        .ok (next, completed)) :
    HasRead (front ++ [character]) (tokens ++ completed) next := by
  obtain ⟨token, finished, rfl, rfl⟩ := ok_of_map stepped
  have begun := (read.finishNumber holdsNumber finished).push character
  refine ⟨?_, .letters ?_ ?_⟩
  · rw [unfinished, Lexeme.toList_begin]
    exact begun
  · simp
  · simpa using letter

/-- Among the integer digits a step goes on with the number or ends it. -/
theorem of_integer
    (read : HasRead front tokens (.integer lexeme))
    (holds : charClass.Holds character)
    (stepped :
      (State.integer lexeme).step position character charClass =
        .ok (next, completed)) :
    HasRead (front ++ [character]) (tokens ++ completed) next := by
  have pushed := read.push rfl character
  cases read.wellFormed with
  | integer isNegative run shape =>
      cases charClass <;>
        simp only [step, Except.ok.injEq, Prod.mk.injEq,
          reduceCtorEq] at stepped
      case space =>
        exact read.of_number_space (.integer lexeme) holds stepped
      case letter =>
        exact read.of_number_letter (.integer lexeme) holds stepped
      case digit =>
        obtain ⟨rfl, rfl⟩ := stepped
        refine silent pushed
          (.integer isNegative (.concat run.digits holds) ?_)
        simp [shape]
      case point =>
        obtain ⟨rfl, rfl⟩ := stepped
        cases holds
        refine silent pushed (.point isNegative run.digits ?_)
        simp [shape]

/-- Behind a point a step goes on with the fraction. -/
theorem of_point
    (read : HasRead front tokens (.point lexeme))
    (holds : charClass.Holds character)
    (stepped :
      (State.point lexeme).step position character charClass =
        .ok (next, completed)) :
    HasRead (front ++ [character]) (tokens ++ completed) next := by
  have pushed := read.push rfl character
  cases read.wellFormed with
  | point isNegative wholeDigits shape =>
      cases charClass <;>
        simp only [step, Except.ok.injEq, Prod.mk.injEq,
          reduceCtorEq] at stepped
      case digit =>
        obtain ⟨rfl, rfl⟩ := stepped
        refine silent pushed
          (.fraction isNegative wholeDigits (.singleton holds) ?_)
        simp [shape]

/-- Among the decimal places a step goes on with the number or ends it. -/
theorem of_fraction
    (read : HasRead front tokens (.fraction lexeme))
    (holds : charClass.Holds character)
    (stepped :
      (State.fraction lexeme).step position character charClass =
        .ok (next, completed)) :
    HasRead (front ++ [character]) (tokens ++ completed) next := by
  have pushed := read.push rfl character
  cases read.wellFormed with
  | fraction isNegative wholeDigits run shape =>
      cases charClass <;>
        simp only [step, Except.ok.injEq, Prod.mk.injEq,
          reduceCtorEq] at stepped
      case space =>
        exact read.of_number_space (.fraction lexeme) holds stepped
      case letter =>
        exact read.of_number_letter (.fraction lexeme) holds stepped
      case digit =>
        obtain ⟨rfl, rfl⟩ := stepped
        refine silent pushed
          (.fraction isNegative wholeDigits (.concat run.digits holds) ?_)
        simp [shape]

/-- Behind a number a step begins the unit or skips a blank. -/
theorem of_afterNumber
    (read : HasRead front tokens .afterNumber)
    (holds : charClass.Holds character)
    (stepped :
      State.afterNumber.step position character charClass =
        .ok (next, completed)) :
    HasRead (front ++ [character]) (tokens ++ completed) next := by
  have begun := read.begin rfl position character
  cases charClass <;>
    simp only [step, Except.ok.injEq, Prod.mk.injEq, reduceCtorEq] at stepped <;>
    obtain ⟨rfl, rfl⟩ := stepped
  case space =>
    exact silent (read.progress.blank holds) .afterNumber
  case letter =>
    have letter : isAlphabetic character = true := holds
    refine silent begun (.letters ?_ ?_)
    · simp
    · simpa using letter

/-- A blank or a sign ends a unit, and so does the end of a text. -/
theorem finishUnit
    (read : HasRead front tokens (.letters lexeme))
    {token : Token}
    (finished : lexeme.unit = .ok token) :
    Progress front (tokens ++ [token]) .operator [] := by
  obtain ⟨spelled, expected⟩ := Lexeme.spelled_of_unit finished
  exact read.progress.complete spelled expected

/-- A sign behind a unit that it ends. -/
theorem of_unit_sign
    (read : HasRead front tokens (.letters lexeme))
    {sign : Token}
    (spelled : sign.Spelled [character])
    (expected : TokenPlace.operator.after? sign = some next.tokenPlace)
    (complete : next.unfinished = [])
    (wellFormed : next.WellFormed)
    {token : Token}
    (finished : lexeme.unit = .ok token) :
    HasRead (front ++ [character]) (tokens ++ [token, sign]) next := by
  have pushed := (read.finishUnit finished).push character
  have progress := pushed.complete spelled expected
  refine ⟨?_, wellFormed⟩
  rw [complete]
  simpa using progress

/-- Among the letters of a unit a step goes on with the unit or ends it. -/
theorem of_letters
    (read : HasRead front tokens (.letters lexeme))
    (holds : charClass.Holds character)
    (stepped :
      (State.letters lexeme).step position character charClass =
        .ok (next, completed)) :
    HasRead (front ++ [character]) (tokens ++ completed) next := by
  have pushed := read.push rfl character
  cases charClass <;>
    simp only [step, Except.ok.injEq, Prod.mk.injEq, reduceCtorEq] at stepped
  case letter =>
    obtain ⟨rfl, rfl⟩ := stepped
    cases read.wellFormed with
    | letters nonempty letters =>
        refine silent pushed (.letters ?_ ?_)
        · simp
        · intro other member
          rw [Lexeme.toList_push] at member
          rcases List.mem_append.mp member with before | last
          · exact letters other before
          · rw [List.mem_singleton.mp last]
            exact holds
  case space =>
    obtain ⟨token, finished, rfl, rfl⟩ := ok_of_map stepped
    exact ⟨(read.finishUnit finished).blank holds, .afterUnit⟩
  case plus =>
    obtain ⟨token, finished, rfl, rfl⟩ := ok_of_map stepped
    cases holds
    exact read.of_unit_sign .plus rfl rfl .start finished
  case minus =>
    obtain ⟨token, finished, rfl, rfl⟩ := ok_of_map stepped
    cases holds
    exact read.of_unit_sign .minus rfl rfl .start finished
  case closeBracket =>
    obtain ⟨token, finished, rfl, rfl⟩ := ok_of_map stepped
    cases holds
    exact read.of_unit_sign .closeBracket rfl rfl .afterUnit finished

/-- Behind a unit a step reads an operator or a bracket or skips a blank. -/
theorem of_afterUnit
    (read : HasRead front tokens .afterUnit)
    (holds : charClass.Holds character)
    (stepped :
      State.afterUnit.step position character charClass =
        .ok (next, completed)) :
    HasRead (front ++ [character]) (tokens ++ completed) next := by
  have pushed := read.progress.push character
  cases charClass <;>
    simp only [step, Except.ok.injEq, Prod.mk.injEq, reduceCtorEq] at stepped <;>
    obtain ⟨rfl, rfl⟩ := stepped
  case space =>
    exact silent (read.progress.blank holds) .afterUnit
  case plus =>
    cases holds
    exact ⟨pushed.complete .plus rfl, .start⟩
  case minus =>
    cases holds
    exact ⟨pushed.complete .minus rfl, .start⟩
  case closeBracket =>
    cases holds
    exact ⟨pushed.complete .closeBracket rfl, .afterUnit⟩

/-- One more character is read in every state. -/
theorem step
    (read : HasRead front tokens state)
    (holds : charClass.Holds character)
    (stepped :
      state.step position character charClass = .ok (next, completed)) :
    HasRead (front ++ [character]) (tokens ++ completed) next := by
  cases state with
  | start => exact read.of_start holds stepped
  | sign lexeme => exact read.of_sign holds stepped
  | integer lexeme => exact read.of_integer holds stepped
  | point lexeme => exact read.of_point holds stepped
  | fraction lexeme => exact read.of_fraction holds stepped
  | afterNumber => exact read.of_afterNumber holds stepped
  | letters lexeme => exact read.of_letters holds stepped
  | afterUnit => exact read.of_afterUnit holds stepped

/-- The end of a text completes the operands. -/
theorem finish
    {length : Nat}
    (read : HasRead front tokens state)
    (finished : state.finish length = .ok completed) :
    ∃ place,
      Progress front (tokens ++ completed) place [] ∧ place ≠ .operand := by
  cases state with
  | start =>
      cases finished
  | sign lexeme =>
      cases finished
  | point lexeme =>
      cases finished
  | integer lexeme =>
      obtain ⟨token, ended, rfl⟩ := ok_of_map finished
      exact ⟨.unit, read.finishNumber (.integer lexeme) ended, by decide⟩
  | fraction lexeme =>
      obtain ⟨token, ended, rfl⟩ := ok_of_map finished
      exact ⟨.unit, read.finishNumber (.fraction lexeme) ended, by decide⟩
  | letters lexeme =>
      obtain ⟨token, ended, rfl⟩ := ok_of_map finished
      exact ⟨.operator, read.finishUnit ended, by decide⟩
  | afterNumber =>
      cases finished
      rw [List.append_nil]
      exact ⟨.unit, read.progress, by decide⟩
  | afterUnit =>
      cases finished
      rw [List.append_nil]
      exact ⟨.operator, read.progress, by decide⟩

end HasRead

end State

/-- Every step of the scanner accounts for its character. -/
theorem hasRead_of_advance
    {scanner next : Scanner}
    {front : List Char}
    {character : Char}
    (read : State.HasRead front scanner.tokens.toList scanner.state)
    (advanced : scanner.advance character = .ok next) :
    State.HasRead (front ++ [character]) next.tokens.toList next.state := by
  unfold advance at advanced
  split at advanced
  · cases advanced
  · next charClass classified =>
      obtain ⟨⟨state, completed⟩, stepped, rfl⟩ := ok_of_map advanced
      simpa using read.step (CharClass.holds_of_of? classified) stepped

/-- A run reads all characters of its list. -/
theorem hasRead_of_run
    {scanner last : Scanner}
    {front characters : List Char}
    (read : State.HasRead front scanner.tokens.toList scanner.state)
    (ran : scanner.run characters = .ok last) :
    State.HasRead (front ++ characters) last.tokens.toList last.state := by
  induction characters generalizing scanner front with
  | nil =>
      cases ran
      simpa using read
  | cons character rest inductionHypothesis =>
      obtain ⟨next, advanced, later⟩ := exists_advance_of_run_cons ran
      simpa using
        inductionHypothesis (hasRead_of_advance read advanced) later

/-- A text that is scanned to its end is split into the tokens found. -/
theorem exists_splitting_of_tokensOf
    {characters : List Char}
    {tokens : List Token}
    (scanned : tokensOf characters = .ok tokens) :
    ∃ splitting : Splitting,
      splitting.characters = characters ∧ splitting.tokens = tokens := by
  cases ran : initial.run characters with
  | error fault =>
      simp only [tokensOf, ran] at scanned
      cases scanned
  | ok last =>
      simp only [tokensOf, ran] at scanned
      obtain ⟨completed, finished, rfl⟩ := ok_of_map scanned
      have begun : State.HasRead [] initial.tokens.toList initial.state :=
        ⟨.start, .start⟩
      obtain ⟨place, progress, complete⟩ :=
        (hasRead_of_run begun ran).finish finished
      exact progress.exists_splitting complete

end Scanner

end LengthCalc
