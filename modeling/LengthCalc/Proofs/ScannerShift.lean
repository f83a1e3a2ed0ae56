import LengthCalc.Proofs.ComposedText

namespace LengthCalc

/-!
# Texts behind an operator

Behind an operator the scanner is the one that begins a text, except that it
has read some characters and found some tokens before.  This difference stays
the same to the end: positions are shifted, and so are the beginnings of the
lexemes that a later fault is reported at.
-/

namespace Scanner

/-- The lexeme that begins some characters later. -/
def Lexeme.shift (distance : Nat) (lexeme : Lexeme) : Lexeme :=
  { lexeme with start := distance + lexeme.start }

/-- The fault that is found some characters later. -/
def Fault.shift (distance : Nat) (fault : Fault) : Fault :=
  { fault with position := distance + fault.position }

/-- The state whose lexeme begins some characters later. -/
def State.shift (distance : Nat) : State → State
  | .start => .start
  | .sign lexeme => .sign (lexeme.shift distance)
  | .integer lexeme => .integer (lexeme.shift distance)
  | .point lexeme => .point (lexeme.shift distance)
  | .fraction lexeme => .fraction (lexeme.shift distance)
  | .afterNumber => .afterNumber
  | .letters lexeme => .letters (lexeme.shift distance)
  | .afterUnit => .afterUnit

/-- The scanner with characters and tokens in front of those it has read. -/
def shift
    (distance : Nat)
    (before : List Token)
    (scanner : Scanner) :
    Scanner :=
  ⟨distance + scanner.position, scanner.state.shift distance,
    (before ++ scanner.tokens.toList).toArray⟩

/-- The outcome of a reading that begins some characters later. -/
def shiftOutcome
    {α β : Type}
    (distance : Nat)
    (extend : α → β) :
    Except Fault α → Except Fault β
  | .ok result => .ok (extend result)
  | .error fault => .error (fault.shift distance)

variable {distance : Nat}

/-- Two steps that shift their outcomes do so one after the other. -/
theorem bind_shiftOutcome
    {α β γ δ : Type}
    {extend : α → β}
    {extend' : γ → δ}
    {next : α → Except Fault γ}
    {next' : β → Except Fault δ}
    (same :
      ∀ result,
        next' (extend result) = shiftOutcome distance extend' (next result))
    (outcome : Except Fault α) :
    (shiftOutcome distance extend outcome >>= next') =
      shiftOutcome distance extend' (outcome >>= next) := by
  cases outcome with
  | ok result => exact same result
  | error fault => rfl

/-- A shifted outcome may be converted before it is shifted. -/
theorem map_shiftOutcome
    {α β γ δ : Type}
    {extend : α → β}
    {extend' : γ → δ}
    {convert : α → γ}
    {convert' : β → δ}
    (same : ∀ result, convert' (extend result) = extend' (convert result))
    (outcome : Except Fault α) :
    (shiftOutcome distance extend outcome).map convert' =
      shiftOutcome distance extend' (outcome.map convert) := by
  cases outcome with
  | ok result => exact congrArg Except.ok (same result)
  | error fault => rfl

namespace Lexeme

variable {α : Type}
variable {extend : α → α}
variable {convert convert' : Token → α}

/-- A shifted lexeme is the same number, or the same fault further on. -/
theorem map_number_shift
    (same : ∀ token, convert' token = extend (convert token))
    (lexeme : Lexeme) :
    (lexeme.shift distance).number.map convert' =
      shiftOutcome distance extend (lexeme.number.map convert) := by
  have literal : (lexeme.shift distance).literal = lexeme.literal :=
    rfl
  simp only [number, literal]
  cases Decimal.ofChars lexeme.literal with
  | ok value => exact congrArg Except.ok (same _)
  | error reason => rfl

/-- A shifted lexeme is the same unit, or the same fault further on. -/
theorem map_unit_shift
    (same : ∀ token, convert' token = extend (convert token))
    (lexeme : Lexeme) :
    (lexeme.shift distance).unit.map convert' =
      shiftOutcome distance extend (lexeme.unit.map convert) := by
  have text : (lexeme.shift distance).text = lexeme.text :=
    rfl
  simp only [unit, text]
  cases LengthUnit.ofCode? lexeme.text with
  | some lengthUnit => exact congrArg Except.ok (same _)
  | none => rfl

end Lexeme

namespace State

/-- What a step gives, some characters later. -/
def shiftStep
    (distance : Nat)
    (result : State × List Token) :
    State × List Token :=
  (result.1.shift distance, result.2)

/-- A step does the same some characters later. -/
theorem step_shift
    (distance position : Nat)
    (character : Char)
    (charClass : CharClass)
    (state : State) :
    (state.shift distance).step (distance + position) character charClass =
      shiftOutcome distance (shiftStep distance)
        (state.step position character charClass) := by
  -- Only a step that completes a lexeme depends on what the lexeme holds.
  cases state with
  | start => cases charClass <;> rfl
  | sign lexeme => cases charClass <;> rfl
  | integer lexeme =>
      cases charClass with
      | space => exact lexeme.map_number_shift fun _ => by rfl
      | letter => exact lexeme.map_number_shift fun _ => by rfl
      | _ => rfl
  | point lexeme => cases charClass <;> rfl
  | fraction lexeme =>
      cases charClass with
      | space => exact lexeme.map_number_shift fun _ => by rfl
      | letter => exact lexeme.map_number_shift fun _ => by rfl
      | _ => rfl
  | afterNumber => cases charClass <;> rfl
  | letters lexeme =>
      cases charClass with
      | space => exact lexeme.map_unit_shift fun _ => by rfl
      | plus => exact lexeme.map_unit_shift fun _ => by rfl
      | minus => exact lexeme.map_unit_shift fun _ => by rfl
      | closeBracket => exact lexeme.map_unit_shift fun _ => by rfl
      | _ => rfl
  | afterUnit => cases charClass <;> rfl

/-- A shifted state ends as the state does, further on. -/
theorem finish_shift (distance length : Nat) (state : State) :
    (state.shift distance).finish (distance + length) =
      shiftOutcome distance id (state.finish length) := by
  cases state with
  | integer lexeme => exact lexeme.map_number_shift fun _ => by rfl
  | fraction lexeme => exact lexeme.map_number_shift fun _ => by rfl
  | letters lexeme => exact lexeme.map_unit_shift fun _ => by rfl
  | _ => rfl

end State

variable {before : List Token}

/-- A shifted scanner reads a character as the scanner does, further on. -/
theorem advance_shift (scanner : Scanner) (character : Char) :
    (scanner.shift distance before).advance character =
      shiftOutcome distance (shift distance before)
        (scanner.advance character) := by
  cases classified : CharClass.of? character with
  | none =>
      simp only [advance, classified]
      rfl
  | some charClass =>
      have stepped :=
        State.step_shift distance scanner.position character charClass
          scanner.state
      simp only [advance, classified, shift, stepped]
      refine map_shiftOutcome ?_ _
      rintro ⟨next, completed⟩
      simp [State.shiftStep, shift, Nat.add_assoc]

/-- A run does the same behind other characters and tokens. -/
theorem run_shift (scanner : Scanner) (characters : List Char) :
    (scanner.shift distance before).run characters =
      shiftOutcome distance (shift distance before)
        (scanner.run characters) := by
  induction characters generalizing scanner with
  | nil => rfl
  | cons character rest inductionHypothesis =>
      simp only [run, List.foldlM_cons, advance_shift] at inductionHypothesis ⊢
      exact bind_shiftOutcome inductionHypothesis (scanner.advance character)

/-- A shifted scanner finishes as the scanner does, with the tokens in front. -/
theorem finish_shift (scanner : Scanner) :
    (scanner.shift distance before).finish =
      shiftOutcome distance (before ++ ·) scanner.finish := by
  have finished :=
    State.finish_shift distance scanner.position scanner.state
  simp only [finish, shift, finished]
  refine map_shiftOutcome (fun completed => ?_) _
  simp

/-- Reading from the start of an operand is reading from the start of a text. -/
theorem run_finish_of_start
    (position : Nat)
    (found : Array Token)
    (characters : List Char) :
    (run ⟨position, .start, found⟩ characters >>= finish) =
      shiftOutcome position (found.toList ++ ·) (tokensOf characters) := by
  have begun : initial.shift position found.toList = ⟨position, .start, found⟩ := by
    simp [initial, shift, State.shift]
  rw [← begun, run_shift]
  exact bind_shiftOutcome finish_shift (initial.run characters)

/-- Behind an operand and an operator a text is read as on its own. -/
theorem ReadsOperand.tokensOf_operator
    {front : List Char}
    {tokens : List Token}
    (reads : ReadsOperand front tokens)
    (operator : Operator)
    (back : List Char) :
    tokensOf (front ++ operator.signChar :: back) =
      shiftOutcome (front.length + 1) (tokens ++ operator.token :: ·)
        (tokensOf back) := by
  obtain ⟨ended, readFront, behind⟩ := reads 0 #[]
  obtain ⟨position, found, shape, readOperator⟩ := behind.operator operator
  have place : position = front.length + 1 := by
    have advanced := position_of_advance readOperator
    rw [position_of_run readFront] at advanced
    simpa using advanced
  have extended :
      (fun later => found.toList ++ later) =
        (fun later => tokens ++ operator.token :: later) := by
    simp [shape]
  have readSeam :
      initial.run (front ++ operator.signChar :: back) =
        run ⟨position, .start, found⟩ back :=
    (run_append_of_run readFront _).trans (run_cons_of_advance readOperator _)
  rw [tokensOf, readSeam, run_finish_of_start, extended, place]

end Scanner

/-- A text whose last token is a unit or a closing bracket ends an operand. -/
theorem readsOperand_of_tokenize
    {text : String}
    {tokens : List Token}
    (scanned : tokenize text = .ok tokens)
    {last : Token}
    (ends : tokens.getLast? = some last)
    (complete : last = .closeBracket ∨ ∃ unit, last = .unit unit) :
    Scanner.ReadsOperand text.toList tokens := by
  rw [tokenize_eq_ok_iff] at scanned
  obtain ⟨splitting, shape, rfl⟩ :=
    Scanner.exists_splitting_of_tokensOf scanned
  obtain ⟨place, reached, -⟩ := (operandsForm_iff _).mp splitting.operands
  have behind : TokenPlace.operand.run? splitting.tokens = some place :=
    reached
  obtain ⟨front, shapeTokens⟩ := List.getLast?_eq_some_iff.mp ends
  rw [shapeTokens] at behind
  obtain ⟨middle, -, expected⟩ := TokenPlace.exists_of_run?_concat behind
  have isOperator : place = .operator := by
    rcases complete with rfl | ⟨unit, rfl⟩ <;>
      cases middle <;> cases expected <;> rfl
  rw [← shape]
  refine splitting.readsOperand ?_
  rw [← isOperator]
  exact reached

/--
Scanning composes across an operator.  Behind a text that ends an operand, an
operator and any text have the tokens of that text behind the others, and if
the text has none, the fault that it has on its own, further on by what is in
front of it.
-/
theorem tokenize_joined
    {first : String}
    {front : List Token}
    (scanned : tokenize first = .ok front)
    {last : Token}
    (ends : front.getLast? = some last)
    (complete : last = .closeBracket ∨ ∃ unit, last = .unit unit)
    (operator : Operator)
    (second : String) :
    (∀ back,
        tokenize second = .ok back →
        tokenize (first ++ operator.sign ++ second) =
          .ok (front ++ operator.token :: back)) ∧
      (∀ failure,
        tokenize second = .error failure →
        ∃ position cause,
          failure = .lexical second position cause ∧
            tokenize (first ++ operator.sign ++ second) =
              .error
                (.lexical (first ++ operator.sign ++ second)
                  (first.length + 1 + position) cause)) := by
  have reads := readsOperand_of_tokenize scanned ends complete
  have joined := reads.tokensOf_operator operator second.toList
  have characters :
      (first ++ operator.sign ++ second).toList =
        first.toList ++ operator.signChar :: second.toList := by
    simp
  simp only [tokenize, characters, joined, String.length_toList]
  cases Scanner.tokensOf second.toList with
  | ok back =>
      simp [Scanner.shiftOutcome]
  | error fault =>
      simp [Scanner.shiftOutcome, Scanner.Fault.shift]

/-- The letters that are no unit are found behind the blanks and both signs. -/
theorem tokenize_joined_unknownUnit :
    tokenize " (1in)\t" =
        .ok [.openBracket, .number .one, .unit .inch, .closeBracket] ∧
      tokenize "-.5 km" =
        .error (.lexical "-.5 km" 4 (.unknownUnit "km")) ∧
      tokenize " (1in)\t--.5 km" =
        .error (.lexical " (1in)\t--.5 km" 12 (.unknownUnit "km")) := by
  have scanned :
      tokenize " (1in)\t" =
        .ok [.openBracket, .number .one, .unit .inch, .closeBracket] :=
    rfl
  have refused :
      tokenize "-.5 km" =
        .error (.lexical "-.5 km" 4 (.unknownUnit "km")) :=
    rfl
  obtain ⟨position, cause, same, joined⟩ :=
    (tokenize_joined scanned rfl (.inl rfl) .minus "-.5 km").2 _ refused
  cases same
  exact ⟨scanned, refused, joined⟩

end LengthCalc
