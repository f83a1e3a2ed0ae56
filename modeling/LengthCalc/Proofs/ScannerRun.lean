import LengthCalc.Proofs.Characters
import LengthCalc.Proofs.Grammar
import LengthCalc.Token.Scanner

namespace LengthCalc

/-!
# Runs of the scanner

A run over a text is a run over its beginning followed by one over its rest.
What matters between two operands is `Behind`: the tokens that a scanner has
found once the unit it may stand in is completed.
-/

/-- The character of an operator. -/
def Operator.signChar : Operator → Char
  | .plus => '+'
  | .minus => '-'

@[simp] theorem Operator.toList_sign (operator : Operator) :
    operator.sign.toList = [operator.signChar] := by
  cases operator <;> rfl

namespace Scanner

/-- A run goes on from where its first step leads. -/
theorem run_cons_of_advance
    {scanner next : Scanner}
    {character : Char}
    (read : scanner.advance character = .ok next)
    (later : List Char) :
    scanner.run (character :: later) = next.run later := by
  simp only [run, List.foldlM_cons, read]
  rfl

/-- A run over a list that has a first character reads that character. -/
theorem exists_advance_of_run_cons
    {scanner last : Scanner}
    {character : Char}
    {later : List Char}
    (read : scanner.run (character :: later) = .ok last) :
    ∃ next,
      scanner.advance character = .ok next ∧ next.run later = .ok last := by
  cases advanced : scanner.advance character with
  | error fault =>
      simp only [run, List.foldlM_cons, advanced] at read
      cases read
  | ok next =>
      rw [run_cons_of_advance advanced] at read
      exact ⟨next, rfl, read⟩

/-- A run goes on from where a first part of the text leads. -/
theorem run_append_of_run
    {scanner next : Scanner}
    {front : List Char}
    (read : scanner.run front = .ok next)
    (later : List Char) :
    scanner.run (front ++ later) = next.run later := by
  simp only [run, List.foldlM_append] at read ⊢
  rw [read]
  rfl

/-- A run that succeeds has succeeded on every first part of the text. -/
theorem exists_run_of_append
    {scanner last : Scanner}
    {front later : List Char}
    (read : scanner.run (front ++ later) = .ok last) :
    ∃ next, scanner.run front = .ok next := by
  cases outcome : scanner.run front with
  | ok next =>
      exact ⟨next, rfl⟩
  | error fault =>
      simp only [run, List.foldlM_append] at read outcome
      rw [outcome] at read
      cases read

/-- Every step moves on by one character. -/
theorem position_of_advance
    {scanner next : Scanner}
    {character : Char}
    (read : scanner.advance character = .ok next) :
    next.position = scanner.position + 1 := by
  unfold advance at read
  split at read
  · cases read
  · next charClass classified =>
      cases stepped :
          scanner.state.step scanner.position character charClass with
      | error fault =>
          rw [stepped] at read
          cases read
      | ok result =>
          rw [stepped] at read
          cases read
          rfl

/-- A run ends as many characters further as it has read. -/
theorem position_of_run
    {scanner next : Scanner}
    {characters : List Char}
    (read : scanner.run characters = .ok next) :
    next.position = scanner.position + characters.length := by
  induction characters generalizing scanner with
  | nil =>
      cases read
      rfl
  | cons character rest inductionHypothesis =>
      obtain ⟨middle, first, ran⟩ := exists_advance_of_run_cons read
      have later := inductionHypothesis ran
      rw [later, position_of_advance first, List.length_cons]
      omega

/-- A character that is refused ends the reading, whatever follows it. -/
theorem tokensOf_of_advance
    {front : List Char}
    {character : Char}
    {next : Scanner}
    {fault : Fault}
    (read : initial.run front = .ok next)
    (refused : next.advance character = .error fault)
    (later : List Char) :
    tokensOf (front ++ character :: later) = .error fault := by
  simp only [tokensOf, run_append_of_run read]
  simp only [run, List.foldlM_cons, refused]
  rfl

/-- The first character without a place in expressions ends the reading. -/
theorem tokensOf_foreign
    {front : List Char}
    {character : Char}
    {next : Scanner}
    (read : initial.run front = .ok next)
    (foreign : CharClass.of? character = none)
    (later : List Char) :
    tokensOf (front ++ character :: later) =
      .error ⟨front.length, .foreignCharacter⟩ := by
  have place : next.position = front.length := by
    rw [position_of_run read]
    exact Nat.zero_add front.length
  refine tokensOf_of_advance read ?_ later
  simp only [advance, foreign, place]

/-- A step of the state is a step of the scanner. -/
theorem advance_of_step
    {scanner : Scanner}
    {character : Char}
    {charClass : CharClass}
    {next : State}
    {completed : List Token}
    (classified : CharClass.of? character = some charClass)
    (stepped :
      scanner.state.step scanner.position character charClass =
        .ok (next, completed)) :
    scanner.advance character =
      .ok ⟨scanner.position + 1, next, scanner.tokens ++ completed⟩ := by
  simp only [advance, classified, stepped]
  rfl

/-- A step of the state that completes nothing adds no token. -/
theorem advance_of_silent_step
    {scanner : Scanner}
    {character : Char}
    {charClass : CharClass}
    {next : State}
    (classified : CharClass.of? character = some charClass)
    (stepped :
      scanner.state.step scanner.position character charClass =
        .ok (next, [])) :
    scanner.advance character =
      .ok ⟨scanner.position + 1, next, scanner.tokens⟩ := by
  rw [advance_of_step classified stepped, Array.appendList_nil]

/-- The lexeme with more characters. -/
def Lexeme.pushAll (lexeme : Lexeme) (characters : List Char) : Lexeme :=
  characters.foldl Lexeme.push lexeme

@[simp] theorem Lexeme.toList_pushAll
    (lexeme : Lexeme)
    (characters : List Char) :
    (lexeme.pushAll characters).text.toList =
      lexeme.text.toList ++ characters := by
  induction characters generalizing lexeme with
  | nil =>
      simp [pushAll]
  | cons character rest inductionHypothesis =>
      have pushed := inductionHypothesis (lexeme.push character)
      simpa [pushAll, push] using pushed

/-- Characters that a state only collects are collected one after the other. -/
theorem run_collect
    (state : Lexeme → State)
    {charClass : CharClass}
    (collects :
      ∀ lexeme position character,
        (state lexeme).step position character charClass =
          .ok (state (lexeme.push character), []))
    {characters : List Char}
    (classified :
      ∀ character ∈ characters,
        CharClass.of? character = some charClass)
    (position : Nat)
    (lexeme : Lexeme)
    (tokens : Array Token) :
    run ⟨position, state lexeme, tokens⟩ characters =
      .ok ⟨position + characters.length,
        state (lexeme.pushAll characters), tokens⟩ := by
  induction characters generalizing position lexeme with
  | nil =>
      rfl
  | cons character rest inductionHypothesis =>
      have read :
          Scanner.advance ⟨position, state lexeme, tokens⟩ character =
            .ok ⟨position + 1, state (lexeme.push character), tokens⟩ :=
        advance_of_silent_step (classified character (by simp))
          (collects lexeme position character)
      rw [run_cons_of_advance read, inductionHypothesis
        (fun later member => classified later (by simp [member]))]
      simp [Lexeme.pushAll, Nat.add_assoc, Nat.add_comm 1]

/-- The tokens that a state behind the letters of a unit still completes. -/
inductive State.Completes : State → List Token → Prop where
  | letters
      {lexeme : Lexeme}
      {token : Token} :
      lexeme.unit = .ok token →
      Completes (.letters lexeme) [token]
  | afterUnit :
      Completes .afterUnit []

/-- The scanner stands behind an operand that ends a list of tokens. -/
def Behind (scanner : Scanner) (tokens : List Token) : Prop :=
  ∃ pending,
    scanner.state.Completes pending ∧
      tokens = scanner.tokens.toList ++ pending

namespace Behind

/--
A character that ends a unit completes it and does to the scanner what it does
behind a completed unit.
-/
theorem advance
    {scanner : Scanner}
    {tokens : List Token}
    (behind : scanner.Behind tokens)
    {character : Char}
    {charClass : CharClass}
    (classified : CharClass.of? character = some charClass)
    {next : State}
    {further : List Token}
    (ofLetters :
      ∀ lexeme position,
        (State.letters lexeme).step position character charClass =
          lexeme.unit.map fun token => (next, token :: further))
    (ofAfterUnit :
      ∀ position,
        State.afterUnit.step position character charClass =
          .ok (next, further)) :
    ∃ position found,
      found.toList = tokens ++ further ∧
        scanner.advance character = .ok ⟨position, next, found⟩ := by
  rcases scanner with ⟨position, state, found⟩
  obtain ⟨pending, completes, shape⟩ := behind
  cases completes with
  | @letters lexeme token named =>
      have stepped := ofLetters lexeme position
      rw [named] at stepped
      exact ⟨_, found ++ (token :: further), by simp [shape],
        advance_of_step classified stepped⟩
  | afterUnit =>
      exact ⟨_, found ++ further, by simp [shape],
        advance_of_step classified (ofAfterUnit position)⟩

/-- A blank may follow an operand and adds nothing to it. -/
theorem space
    {scanner : Scanner}
    {tokens : List Token}
    (behind : scanner.Behind tokens)
    {character : Char}
    (blank : CharClass.of? character = some .space) :
    ∃ next,
      scanner.advance character = .ok next ∧ next.Behind tokens := by
  obtain ⟨position, found, shape, read⟩ :=
    behind.advance blank (fun _ _ => rfl) (fun _ => rfl)
  exact ⟨_, read, [], .afterUnit, by simp [shape]⟩

/-- A closing bracket behind an operand is the next token. -/
theorem closeBracket
    {scanner : Scanner}
    {tokens : List Token}
    (behind : scanner.Behind tokens) :
    ∃ next,
      scanner.advance ')' = .ok next ∧
        next.Behind (tokens ++ [.closeBracket]) := by
  obtain ⟨position, found, shape, read⟩ :=
    behind.advance CharClass.of?_closeBracket (fun _ _ => rfl) (fun _ => rfl)
  exact ⟨_, read, [], .afterUnit, by simp [shape]⟩

/--
An operator behind an operand is the next token, and an operand is expected
again.
-/
theorem operator
    {scanner : Scanner}
    {tokens : List Token}
    (behind : scanner.Behind tokens)
    (operator : Operator) :
    ∃ position found,
      found.toList = tokens ++ [operator.token] ∧
        scanner.advance operator.signChar =
          .ok ⟨position, .start, found⟩ := by
  cases operator with
  | plus =>
      exact behind.advance CharClass.of?_plus
        (fun _ _ => rfl) (fun _ => rfl)
  | minus =>
      exact behind.advance CharClass.of?_minus
        (fun _ _ => rfl) (fun _ => rfl)

/-- Behind an operand the text may end. -/
theorem finish
    {scanner : Scanner}
    {tokens : List Token}
    (behind : scanner.Behind tokens) :
    scanner.finish = .ok tokens := by
  rcases scanner with ⟨position, state, found⟩
  obtain ⟨pending, completes, shape⟩ := behind
  cases completes with
  | letters named =>
      simp [Scanner.finish, State.finish, named, Except.map, shape]
  | afterUnit =>
      simp [Scanner.finish, State.finish, Except.map, shape]

end Behind

/--
Characters that take the scanner from the start of an operand to its end and
complete the given tokens.
-/
def ReadsOperand (characters : List Char) (tokens : List Token) : Prop :=
  ∀ position (found : Array Token),
    ∃ next,
      run ⟨position, .start, found⟩ characters = .ok next ∧
        next.Behind (found.toList ++ tokens)

namespace ReadsOperand

/-- Brackets around an operand are read as an operand. -/
theorem brackets
    {characters : List Char}
    {tokens : List Token}
    (reads : ReadsOperand characters tokens) :
    ReadsOperand
      ('(' :: (characters ++ [')']))
      (.openBracket :: (tokens ++ [.closeBracket])) := by
  intro position found
  have opened :
      Scanner.advance ⟨position, .start, found⟩ '(' =
        .ok ⟨position + 1, .start, found ++ [Token.openBracket]⟩ :=
    advance_of_step CharClass.of?_openBracket rfl
  obtain ⟨inside, readInside, behindInside⟩ :=
    reads (position + 1) (found ++ [Token.openBracket])
  obtain ⟨next, closed, behind⟩ := behindInside.closeBracket
  refine ⟨next, ?_, by simpa using behind⟩
  rw [run_cons_of_advance opened, run_append_of_run readInside,
    run_cons_of_advance closed]
  rfl

/-- Two operands with an operator between them are read as an operand. -/
theorem operation
    {front back : List Char}
    {left right : List Token}
    (readsLeft : ReadsOperand front left)
    (operator : Operator)
    (readsRight : ReadsOperand back right) :
    ReadsOperand
      (front ++ ' ' :: operator.signChar :: ' ' :: back)
      (left ++ operator.token :: right) := by
  intro position found
  obtain ⟨ended, readLeft, behindLeft⟩ := readsLeft position found
  obtain ⟨separated, readBlank, behindBlank⟩ :=
    behindLeft.space CharClass.of?_space
  obtain ⟨place, completed, shape, readOperator⟩ :=
    behindBlank.operator operator
  have readSecondBlank :
      Scanner.advance ⟨place, .start, completed⟩ ' ' =
        .ok ⟨place + 1, .start, completed⟩ :=
    advance_of_silent_step CharClass.of?_space rfl
  obtain ⟨next, readRight, behindRight⟩ :=
    readsRight (place + 1) completed
  refine ⟨next, ?_, by simpa [shape] using behindRight⟩
  rw [run_append_of_run readLeft, run_cons_of_advance readBlank,
    run_cons_of_advance readOperator, run_cons_of_advance readSecondBlank,
    readRight]

/-- A text that is read as an operand has the tokens of the operand. -/
theorem tokensOf_eq
    {characters : List Char}
    {tokens : List Token}
    (reads : ReadsOperand characters tokens) :
    tokensOf characters = .ok tokens := by
  obtain ⟨next, read, behind⟩ := reads 0 #[]
  have finished : next.finish = .ok tokens := by
    simpa using behind.finish
  simp only [tokensOf, initial, read]
  exact finished

end ReadsOperand

end Scanner

end LengthCalc
