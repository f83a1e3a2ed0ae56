import LengthCalc.Proofs.LexemeShapes
import LengthCalc.Proofs.ScannerSound

namespace LengthCalc

/-!
# Where faults are found

A text that is not scanned to its end has one of four faults: a character that
cannot follow what was read, a number or a unit that is none once it is
complete, or an end that comes too early.  `Origin` tells them with the scanner
that finds them.  A fault of a lexeme is found behind it and reported where the
lexeme begins; `MarksStart` is the invariant that this place is right.
-/

/-- In front of an unfinished lexeme stand complete pieces and blanks. -/
theorem Progress.exists_before
    {front unfinished : List Char}
    {tokens : List Token}
    {place : TokenPlace}
    (progress : Progress front tokens place unfinished) :
    ∃ before,
      front = before ++ unfinished ∧ Progress before tokens place [] := by
  cases progress with
  | intro pieces blanks unfinished blanksBlank reached =>
      refine ⟨Piece.join pieces ++ (blanks ++ []), by simp, ?_⟩
      exact .intro pieces blanks [] blanksBlank reached

/-- A value that is missing is not there before it was mapped either. -/
theorem error_of_map
    {α β ε : Type}
    {f : α → β}
    {outcome : Except ε α}
    {fault : ε}
    (mapped : outcome.map f = .error fault) :
    outcome = .error fault := by
  cases outcome with
  | error other => exact congrArg Except.error (Except.error.inj mapped)
  | ok value => cases mapped

namespace Scanner

namespace State

/-- The unfinished lexeme of a state. -/
def lexeme? : State → Option Lexeme
  | .start => none
  | .sign lexeme => some lexeme
  | .integer lexeme => some lexeme
  | .point lexeme => some lexeme
  | .fraction lexeme => some lexeme
  | .afterNumber => none
  | .letters lexeme => some lexeme
  | .afterUnit => none

/-- The states in which a text may not end. -/
inductive Unfinished : State → Prop where
  | start : Unfinished .start
  | sign (lexeme : Lexeme) : Unfinished (.sign lexeme)
  | point (lexeme : Lexeme) : Unfinished (.point lexeme)

/-- The number that is held is the lexeme of the state. -/
theorem HoldsNumber.lexeme?_eq
    {state : State}
    {lexeme : Lexeme}
    (holds : HoldsNumber state lexeme) :
    state.lexeme? = some lexeme := by
  cases holds <;> rfl

/-- The letters read so far are the lexeme of the state. -/
theorem lexeme?_of_letters
    {state : State}
    {lexeme : Lexeme}
    (holds : state = .letters lexeme) :
    state.lexeme? = some lexeme := by
  rw [holds]
  rfl

/-- What is unfinished is the text of the lexeme. -/
theorem unfinished_of_lexeme?
    {state : State}
    {lexeme : Lexeme}
    (holds : state.lexeme? = some lexeme) :
    state.unfinished = lexeme.text.toList := by
  cases state <;> cases holds <;> rfl

/-- A lexeme that has been begun has characters. -/
theorem WellFormed.lexeme_ne_nil
    {state : State}
    (wellFormed : state.WellFormed)
    {lexeme : Lexeme}
    (holds : state.lexeme? = some lexeme) :
    lexeme.text.toList ≠ [] := by
  cases wellFormed with
  | start => cases holds
  | sign shape =>
      cases holds
      simp [shape]
  | integer isNegative run shape =>
      cases holds
      simp [shape, run.nonempty]
  | point isNegative wholeDigits shape =>
      cases holds
      simp [shape]
  | fraction isNegative wholeDigits run shape =>
      cases holds
      simp [shape]
  | afterNumber => cases holds
  | letters nonempty _ =>
      cases holds
      exact nonempty
  | afterUnit => cases holds

variable {position : Nat}
variable {character : Char}
variable {charClass : CharClass}
variable {state next : State}
variable {completed : List Token}
variable {fault : Fault}

/-- A step begins a lexeme, goes on with the one at hand, or holds none. -/
theorem lexeme?_of_step
    (stepped :
      state.step position character charClass = .ok (next, completed)) :
    next.lexeme? = none ∨
      next.lexeme? = some (.begin position character) ∨
      ∃ lexeme,
        state.lexeme? = some lexeme ∧
          next.lexeme? = some (lexeme.push character) := by
  cases state with
  | start =>
      cases charClass <;> cases stepped <;> simp [lexeme?]
  | sign lexeme =>
      cases charClass <;> cases stepped <;> simp [lexeme?]
  | point lexeme =>
      cases charClass <;> cases stepped
      simp [lexeme?]
  | afterNumber =>
      cases charClass <;> cases stepped <;> simp [lexeme?]
  | afterUnit =>
      cases charClass <;> cases stepped <;> simp [lexeme?]
  | integer lexeme =>
      cases charClass <;>
        simp only [step, Except.ok.injEq, Prod.mk.injEq,
          reduceCtorEq] at stepped
      case space | letter =>
        obtain ⟨token, -, same⟩ := ok_of_map stepped
        cases same
        simp [lexeme?]
      case digit | point =>
        obtain ⟨rfl, -⟩ := stepped
        simp [lexeme?]
  | fraction lexeme =>
      cases charClass <;>
        simp only [step, Except.ok.injEq, Prod.mk.injEq,
          reduceCtorEq] at stepped
      case space | letter =>
        obtain ⟨token, -, same⟩ := ok_of_map stepped
        cases same
        simp [lexeme?]
      case digit =>
        obtain ⟨rfl, -⟩ := stepped
        simp [lexeme?]
  | letters lexeme =>
      cases charClass <;>
        simp only [step, Except.ok.injEq, Prod.mk.injEq,
          reduceCtorEq] at stepped
      case letter =>
        obtain ⟨rfl, -⟩ := stepped
        simp [lexeme?]
      case space | plus | minus | closeBracket =>
        obtain ⟨token, -, same⟩ := ok_of_map stepped
        cases same
        simp [lexeme?]

end State

/-- The unfinished lexeme goes from where it begins to the last character. -/
def MarksStart (scanner : Scanner) : Prop :=
  ∀ lexeme,
    scanner.state.lexeme? = some lexeme →
    lexeme.start + lexeme.text.toList.length = scanner.position

variable {scanner next last : Scanner}
variable {front later characters : List Char}
variable {character : Char}
variable {lexeme : Lexeme}
variable {fault : Fault}

/-- A step keeps the mark where the unfinished lexeme starts. -/
theorem MarksStart.advance
    (marks : scanner.MarksStart)
    (advanced : scanner.advance character = .ok next) :
    next.MarksStart := by
  unfold Scanner.advance at advanced
  split at advanced
  · cases advanced
  · next charClass _ =>
      obtain ⟨⟨state, completed⟩, stepped, rfl⟩ := ok_of_map advanced
      intro lexeme holds
      rcases State.lexeme?_of_step stepped with
          none | begun | ⟨earlier, held, pushed⟩
      · rw [none] at holds
        cases holds
      · rw [begun] at holds
        cases holds
        simp [Lexeme.begin]
      · rw [pushed] at holds
        cases holds
        have place := marks earlier held
        simp only [Lexeme.toList_push, List.length_append,
          List.length_singleton, ← place]
        exact (Nat.add_assoc _ _ _).symm

/-- A run keeps the mark where the unfinished lexeme starts. -/
theorem MarksStart.run
    (marks : scanner.MarksStart)
    (ran : scanner.run characters = .ok last) :
    last.MarksStart := by
  induction characters generalizing scanner with
  | nil =>
      cases ran
      exact marks
  | cons character rest inductionHypothesis =>
      obtain ⟨next, advanced, later⟩ := exists_advance_of_run_cons ran
      exact inductionHypothesis (marks.advance advanced) later

/-- The tokens and the unfinished lexeme account for all that has been read. -/
theorem hasRead_of_initial (read : initial.run front = .ok scanner) :
    State.HasRead front scanner.tokens.toList scanner.state := by
  have begun : State.HasRead [] initial.tokens.toList initial.state :=
    ⟨.start, .start⟩
  exact hasRead_of_run begun read

/-- The position is the number of characters that have been read. -/
theorem position_of_initial (read : initial.run front = .ok scanner) :
    scanner.position = front.length := by
  rw [position_of_run read]
  exact Nat.zero_add front.length

/-- An unfinished lexeme is what stands behind its beginning. -/
theorem exists_before_of_lexeme?
    (read : initial.run front = .ok scanner)
    (holds : scanner.state.lexeme? = some lexeme) :
    ∃ before,
      front = before ++ lexeme.text.toList ∧
        before.length = lexeme.start ∧
        lexeme.text.toList ≠ [] ∧
        Progress before scanner.tokens.toList scanner.state.tokenPlace [] := by
  have hasRead := hasRead_of_initial read
  have begun : initial.MarksStart := by
    intro other held
    cases held
  have marks := begun.run read
  obtain ⟨before, shape, progress⟩ := hasRead.progress.exists_before
  rw [State.unfinished_of_lexeme? holds] at shape
  have place := marks lexeme holds
  rw [position_of_initial read, shape, List.length_append] at place
  exact ⟨before, shape, by omega,
    hasRead.wellFormed.lexeme_ne_nil holds, progress⟩

namespace State

variable {position : Nat}
variable {charClass : CharClass}
variable {state : State}

/-- What a step is refused for: its character or the lexeme in front of it. -/
theorem step_error_cases
    (refused : state.step position character charClass = .error fault) :
    fault = ⟨position, .misplaced state.place⟩ ∨
      (∃ lexeme,
        state.HoldsNumber lexeme ∧ lexeme.number = .error fault ∧
          (charClass = .space ∨ charClass = .letter)) ∨
      ∃ lexeme,
        state = .letters lexeme ∧ lexeme.unit = .error fault ∧
          (charClass = .space ∨
            TokenPlace.operator.begins charClass = true) := by
  cases state with
  | start => cases charClass <;> cases refused <;> exact .inl rfl
  | sign lexeme => cases charClass <;> cases refused <;> exact .inl rfl
  | point lexeme => cases charClass <;> cases refused <;> exact .inl rfl
  | afterNumber => cases charClass <;> cases refused <;> exact .inl rfl
  | afterUnit => cases charClass <;> cases refused <;> exact .inl rfl
  | integer lexeme =>
      cases charClass
      case space =>
        exact .inr (.inl ⟨lexeme, .integer lexeme,
          error_of_map refused, .inl rfl⟩)
      case letter =>
        exact .inr (.inl ⟨lexeme, .integer lexeme,
          error_of_map refused, .inr rfl⟩)
      all_goals cases refused <;> exact .inl rfl
  | fraction lexeme =>
      cases charClass
      case space =>
        exact .inr (.inl ⟨lexeme, .fraction lexeme,
          error_of_map refused, .inl rfl⟩)
      case letter =>
        exact .inr (.inl ⟨lexeme, .fraction lexeme,
          error_of_map refused, .inr rfl⟩)
      all_goals cases refused <;> exact .inl rfl
  | letters lexeme =>
      cases charClass
      case space =>
        exact .inr (.inr ⟨lexeme, rfl, error_of_map refused, .inl rfl⟩)
      case plus | minus | closeBracket =>
        exact .inr (.inr ⟨lexeme, rfl, error_of_map refused, .inr rfl⟩)
      all_goals cases refused <;> exact .inl rfl

/-- A text is refused at its end for one of three reasons. -/
theorem finish_error_cases
    {length : Nat}
    (refused : state.finish length = .error fault) :
    (state.Unfinished ∧ fault = ⟨length, .unexpectedEnd⟩) ∨
      (∃ lexeme,
        state.HoldsNumber lexeme ∧ lexeme.number = .error fault) ∨
      ∃ lexeme, state = .letters lexeme ∧ lexeme.unit = .error fault := by
  cases state with
  | start =>
      cases refused
      exact .inl ⟨.start, rfl⟩
  | sign lexeme =>
      cases refused
      exact .inl ⟨.sign lexeme, rfl⟩
  | point lexeme =>
      cases refused
      exact .inl ⟨.point lexeme, rfl⟩
  | integer lexeme =>
      exact .inr (.inl ⟨lexeme, .integer lexeme, error_of_map refused⟩)
  | fraction lexeme =>
      exact .inr (.inl ⟨lexeme, .fraction lexeme, error_of_map refused⟩)
  | letters lexeme =>
      exact .inr (.inr ⟨lexeme, rfl, error_of_map refused⟩)
  | afterNumber => cases refused
  | afterUnit => cases refused

end State

namespace Lexeme

/-- A number is refused at its start, for the reason of its reader. -/
theorem exists_reason_of_number (refused : lexeme.number = .error fault) :
    ∃ reason,
      Decimal.ofChars lexeme.literal = .error reason ∧
        fault = ⟨lexeme.start, .numberRejected reason⟩ := by
  unfold number at refused
  split at refused
  · cases refused
  · next reason rejected =>
      cases refused
      exact ⟨reason, rejected, rfl⟩

/-- A unit is refused at its start, because there is none of its name. -/
theorem unknown_of_unit (refused : lexeme.unit = .error fault) :
    LengthUnit.ofCode? lexeme.text = none ∧
      fault = ⟨lexeme.start, .unknownUnit lexeme.text⟩ := by
  unfold unit at refused
  split at refused
  · cases refused
  · next unknown =>
      cases refused
      exact ⟨unknown, rfl⟩

end Lexeme

/-- The fault of a text with the scanner that finds it. -/
inductive Origin : List Char → Fault → Prop where
  /-- A character that no expression contains, or not behind what was read. -/
  | character
      {front later : List Char}
      {character : Char}
      {scanner : Scanner}
      {cause : LexicalFault} :
      initial.run front = .ok scanner →
      scanner.advance character = .error ⟨front.length, cause⟩ →
      (cause = .foreignCharacter ∨ ∃ place, cause = .misplaced place) →
      Origin (front ++ character :: later) ⟨front.length, cause⟩
  /-- A number that ends before a blank, before a letter, or with the text. -/
  | number
      {front later : List Char}
      {scanner : Scanner}
      {lexeme : Lexeme}
      {reason : Decimal.ReadFault} :
      initial.run front = .ok scanner →
      scanner.state.HoldsNumber lexeme →
      (∀ character ∈ later.head?, TokenPlace.unit.Admits character) →
      Decimal.ofChars lexeme.literal = .error reason →
      Origin (front ++ later) ⟨lexeme.start, .numberRejected reason⟩
  /-- A unit that ends before a blank or a sign, or with the text. -/
  | unit
      {front later : List Char}
      {scanner : Scanner}
      {lexeme : Lexeme} :
      initial.run front = .ok scanner →
      scanner.state = .letters lexeme →
      (∀ character ∈ later.head?, TokenPlace.operator.Admits character) →
      LengthUnit.ofCode? lexeme.text = none →
      Origin (front ++ later) ⟨lexeme.start, .unknownUnit lexeme.text⟩
  /-- The end of the text where an operand begins or a digit has to follow. -/
  | ending
      {characters : List Char}
      {scanner : Scanner} :
      initial.run characters = .ok scanner →
      scanner.state.Unfinished →
      Origin characters ⟨characters.length, .unexpectedEnd⟩

/-- A run is refused at one of its characters. -/
theorem exists_stop_of_run
    (refused : scanner.run characters = .error fault) :
    ∃ front character later stopped,
      characters = front ++ character :: later ∧
        scanner.run front = .ok stopped ∧
        stopped.advance character = .error fault := by
  induction characters generalizing scanner with
  | nil => cases refused
  | cons character rest inductionHypothesis =>
      cases advanced : scanner.advance character with
      | error earlier =>
          simp only [run, List.foldlM_cons, advanced] at refused
          cases refused
          exact ⟨[], character, rest, scanner, rfl, rfl, advanced⟩
      | ok next =>
          rw [run_cons_of_advance advanced] at refused
          obtain ⟨front, stop, later, stopped, rfl, ran, atStop⟩ :=
            inductionHypothesis refused
          refine ⟨character :: front, stop, later, stopped, rfl, ?_, atStop⟩
          rw [run_cons_of_advance advanced, ran]

/-- A fault of a step has its origin in the text. -/
theorem Origin.of_advance
    (read : initial.run front = .ok scanner)
    (refused : scanner.advance character = .error fault) :
    Origin (front ++ character :: later) fault := by
  have place := position_of_initial read
  have advanced := refused
  unfold advance at advanced
  split at advanced
  · cases advanced
    rw [place] at refused ⊢
    exact .character read refused (.inl rfl)
  · next charClass classified =>
      have admits
          {next : TokenPlace}
          (expected :
            charClass = .space ∨ next.begins charClass = true) :
          ∀ other ∈ (character :: later).head?, next.Admits other := by
        intro other member
        cases member
        exact ⟨charClass, classified, expected⟩
      rcases State.step_error_cases (error_of_map advanced) with
          rfl | ⟨lexeme, holds, rejected, ends⟩ |
            ⟨lexeme, holds, rejected, ends⟩
      · rw [place] at refused ⊢
        exact .character read refused (.inr ⟨_, rfl⟩)
      · obtain ⟨reason, unread, rfl⟩ :=
          lexeme.exists_reason_of_number rejected
        refine .number read holds (admits ?_) unread
        rcases ends with rfl | rfl
        · exact .inl rfl
        · exact .inr rfl
      · obtain ⟨unknown, rfl⟩ := lexeme.unknown_of_unit rejected
        exact .unit read holds (admits ends) unknown

/-- Every fault of a text has one of the four origins. -/
theorem origin_of_tokensOf
    (refused : tokensOf characters = .error fault) :
    Origin characters fault := by
  cases ran : initial.run characters with
  | error earlier =>
      simp only [tokensOf, ran] at refused
      cases refused
      obtain ⟨front, character, later, stopped, rfl, read, atStop⟩ :=
        exists_stop_of_run ran
      exact .of_advance read atStop
  | ok last =>
      simp only [tokensOf, ran] at refused
      have noMore : ∀ place : TokenPlace,
          ∀ character ∈ ([] : List Char).head?, place.Admits character := by
        intro place character member
        cases member
      rcases State.finish_error_cases (error_of_map refused) with
          ⟨unfinished, rfl⟩ | ⟨lexeme, holds, rejected⟩ |
            ⟨lexeme, holds, rejected⟩
      · rw [position_of_initial ran]
        exact .ending ran unfinished
      · obtain ⟨reason, unread, rfl⟩ :=
          lexeme.exists_reason_of_number rejected
        simpa using Origin.number ran holds (noMore .unit) unread
      · obtain ⟨unknown, rfl⟩ := lexeme.unknown_of_unit rejected
        simpa using Origin.unit ran holds (noMore .operator) unknown

end Scanner

end LengthCalc
