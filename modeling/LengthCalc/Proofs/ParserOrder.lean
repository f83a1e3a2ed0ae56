import LengthCalc.Proofs.ParserReuse

namespace LengthCalc.Parser

/-!
# What the parser never meets

The functions of the parser are only called where they have something to do: a
term is read in front of a number or a bracket, a group is closed in front of a
closing bracket or at the end, and a chain has an expression at hand everywhere
but at its start.  So the branches for all other cases are never taken, however
often the parser is used.
-/

/-- The faults of the branches that guard against calls out of order. -/
inductive GuardFault : SyntaxFault → Prop where
  | termMissing : GuardFault .termMissing
  | notTerm (token : Token) : GuardFault (.notTerm token)
  | notClosing (token : Token) : GuardFault (.notClosing token)
  | leftover
      {token : Token} :
      token ≠ .closeBracket →
      GuardFault (.leftover token)

namespace Call

/-- What calls of the parser find: an expression behind the start of a chain. -/
def InOrder : Call → Prop
  | .chain place parsed _ => parsed = none ↔ place = .start
  | .term parser => OpensTerm parser.rest
  | .close _ parser => EndsChain parser.rest
  | .measurement _ _ => True
  | .group _ => True

/-- What is left behind a chain, if the call reads one. -/
def LeavesEnd : Call → Prop
  | .chain place parsed parser =>
      ∀ expression next,
        Parser.chain place parsed parser = ⟨.ok expression, next⟩ →
        EndsChain next.rest
  | _ => True

/-- A chain that is read leaves the end of the tokens or a closing bracket. -/
theorem leavesEnd (call : Call) : call.LeavesEnd := by
  induction call using calls_induction with
  | step call inductionHypothesis =>
      cases call with
      | chain place parsed parser =>
          intro expression next read
          have does := does_chain place parsed parser
          generalize calls _ = made at does inductionHypothesis
          rw [read] at does
          generalize shape : Reply.mk (.ok expression) next = given at does
          cases does with
          | chainEnds _ _ ends =>
              obtain ⟨-, rfl⟩ := Reply.mk.inj shape
              exact ends
          | misplaced | termRefused => cases shape
          | operator operator parsed later depth =>
              have ofRest :
                  LeavesEnd (.chain operator.place parsed ⟨later, depth⟩) :=
                inductionHypothesis _ (by simp)
              exact ofRest _ _ shape.symm
          | @termJoined _ _ _ behind result =>
              have ofRest :
                  LeavesEnd (.chain .afterTerm
                    (some (combine place parsed result)) behind) :=
                inductionHypothesis _ (by simp)
              exact ofRest _ _ shape.symm
      | _ => trivial

/-- A chain that is read ends in front of a bracket or at the end. -/
theorem endsChain_of_read
    {place : ChainPlace}
    {parsed : Option Expression}
    {parser next : Parser}
    {expression : Expression}
    (read : Parser.chain place parsed parser = ⟨.ok expression, next⟩) :
    EndsChain next.rest :=
  leavesEnd (.chain place parsed parser) expression next read

/-- Calls in order make calls in order. -/
theorem InOrder.handed_down
    (call : Call)
    (inOrder : call.InOrder) :
    ∀ inner ∈ call.calls, inner.InOrder := by
  have does := call.does
  generalize call.calls = made at does
  generalize call.reply = given at does
  cases does with
  | chainEnds | misplaced | termMissing | notTerm | measurement | tooDeep
  | close =>
      simp
  | operator operator parsed later depth =>
      have parsedSome : parsed ≠ none := by
        intro isNone
        cases inOrder.mp isNone
      cases operator <;> simpa [InOrder, Operator.place] using parsedSome
  | termRefused parsed expected opens read => simpa [InOrder] using opens
  | termJoined parsed expected opens read => simpa [InOrder] using opens
  | number | openBracket => simp [InOrder]
  | contentRefused read => simp [InOrder]
  | contentRead read =>
      have ends := endsChain_of_read read
      simpa [InOrder] using ends

/-- The end of the tokens is never refused by a guard. -/
theorem not_guardFault_of_chainEnd
    {place : ChainPlace}
    {parsed : Option Expression}
    {fault : SyntaxFault}
    (refused : chainEnd place parsed = .error fault) :
    ¬ GuardFault fault := by
  unfold chainEnd at refused
  split at refused <;> cases refused
  exact nofun

/-- A measurement is never refused by a guard. -/
theorem not_guardFault_of_measurement
    {amount : Decimal}
    {parser : Parser}
    {fault : SyntaxFault}
    (refused :
      (Parser.measurement amount parser).outcome = .error fault) :
    ¬ GuardFault fault := by
  unfold Parser.measurement at refused
  split at refused <;> cases refused <;> exact nofun

/-- Behind a chain that has ended, closing is never refused by a guard. -/
theorem not_guardFault_of_close
    {inner : Expression}
    {parser : Parser}
    (ends : EndsChain parser.rest)
    {fault : SyntaxFault}
    (refused : (Parser.close inner parser).outcome = .error fault) :
    ¬ GuardFault fault := by
  rcases parser with ⟨rest, depth⟩
  cases ends with
  | nil =>
      cases refused
      exact nofun
  | closeBracket later => cases refused

/-- A call in order does not fail with the fault of a guard. -/
theorem InOrder.not_guardFault
    {call : Call}
    (inOrder : call.InOrder)
    {fault : SyntaxFault}
    (refused : call.reply.outcome = .error fault) :
    ¬ GuardFault fault := by
  induction call using calls_induction with
  | step call inductionHypothesis =>
      have ofInner (inner : Call) (member : inner ∈ call.calls) :
          inner.reply.outcome = .error fault → ¬ GuardFault fault :=
        inductionHypothesis inner member (handed_down call inOrder inner member)
      have does := call.does
      generalize call.calls = made at does ofInner
      generalize call.reply = given at does refused
      cases does with
      | chainEnds => exact not_guardFault_of_chainEnd refused
      | measurement => exact not_guardFault_of_measurement refused
      | close => exact not_guardFault_of_close inOrder refused
      | misplaced | tooDeep =>
          cases refused
          exact nofun
      | operator | number | openBracket =>
          exact ofInner _ (.head _) refused
      | termJoined | contentRead =>
          exact ofInner _ (.tail _ (.head _)) refused
      | termRefused _ _ _ read | contentRefused read =>
          exact ofInner _ (.head _)
            ((congrArg Reply.outcome read).trans refused)
      | termMissing => cases inOrder
      | notTerm _ opensNone => exact (opensNone inOrder).elim

end Call

/-- A reading begins in order. -/
theorem inOrder_readingCall (parser : Parser) : parser.readingCall.InOrder :=
  ⟨fun _ => rfl, fun _ => rfl⟩

/-- The calls from outside are the beginnings of readings. -/
theorem exists_parser_of_mem_readingCalls
    {parser : Parser}
    {readings : Nat}
    {call : Call}
    (member : call ∈ parser.readingCalls readings) :
    ∃ beginning, call = readingCall beginning := by
  induction readings generalizing parser with
  | zero => cases member
  | succ readings inductionHypothesis =>
      rcases List.mem_cons.mp member with rfl | behind
      · exact ⟨parser, rfl⟩
      · exact inductionHypothesis behind

/-- All calls during the readings of a parser are in order. -/
theorem inOrder_of_mem_eventsOfReadings
    {parser : Parser}
    {readings : Nat}
    {event : Event}
    (member : event ∈ parser.eventsOfReadings readings) :
    event.call.InOrder := by
  obtain ⟨call, isReading, within⟩ := List.mem_flatMap.mp member
  obtain ⟨beginning, rfl⟩ := exists_parser_of_mem_readingCalls isReading
  exact Call.forall_events Call.InOrder.handed_down
    beginning.inOrder_readingCall event within

/-- A complete reading does not fail with the fault of a guard. -/
theorem not_guardFault_of_parse
    {parser : Parser}
    {fault : SyntaxFault}
    (refused : parser.parse.outcome = .error fault) :
    ¬ GuardFault fault := by
  unfold parse at refused
  rcases read : chain .start none parser with ⟨earlier | result, rest, depth⟩
  · refine parser.inOrder_readingCall.not_guardFault ?_
    simpa [read, readingCall, Call.reply] using refused
  · have ends : EndsChain rest := Call.endsChain_of_read read
    cases ends with
    | nil => simp [read] at refused
    | closeBracket later =>
        simp only [read, Except.error.injEq] at refused
        subst refused
        rintro (_ | _ | _ | other)
        exact other rfl

/-- What a term is joined to, where a chain has an expression but at its start. -/
theorem combine_cases
    {place : ChainPlace}
    {parsed : Option Expression}
    (atStart : parsed = none ↔ place = .start)
    (expected : place ≠ .afterTerm)
    (term : Expression) :
    (place = .start ∧ combine place parsed term = term) ∨
      ∃ operator left,
        place = Operator.place operator ∧
          parsed = some left ∧
          combine place parsed term = operator.join left term := by
  cases parsed with
  | none =>
      obtain rfl := atStart.mp rfl
      exact .inl ⟨rfl, rfl⟩
  | some left =>
      cases place with
      | start => cases atStart.mpr rfl
      | afterTerm => exact (expected rfl).elim
      | afterPlus => exact .inr ⟨.plus, left, rfl, rfl, rfl⟩
      | afterMinus => exact .inr ⟨.minus, left, rfl, rfl, rfl⟩

/--
However often a parser is asked for an expression, and whatever its readings
come to:

* a chain has an expression at hand if and only if it is not at its start; so a
  term is joined to all that was read before it, and behind a term a chain can
  end well;
* a chain that is read leaves the end of the tokens or a closing bracket;
* a term is read in front of a number or an opening bracket, and a group is
  closed at the end of the tokens or in front of a closing bracket;
* neither a call nor a reading fails with the fault of a guard.
-/
theorem readings_in_order (tokens : List Token) (times : Nat) :
    (∀ place parsed parser,
      .enter (.chain place parsed parser) ∈
          (ofTokens tokens).eventsOfReadings times →
        (parsed = none ↔ place = .start) ∧
          (place ≠ .afterTerm →
            ∀ term,
              (place = .start ∧ combine place parsed term = term) ∨
                ∃ operator left,
                  place = Operator.place operator ∧
                    parsed = some left ∧
                    combine place parsed term = operator.join left term) ∧
          (place = .afterTerm →
            ∃ expression, chainEnd place parsed = .ok expression) ∧
          ∀ expression next,
            chain place parsed parser = ⟨.ok expression, next⟩ →
            EndsChain next.rest) ∧
      (∀ parser,
        .enter (.term parser) ∈ (ofTokens tokens).eventsOfReadings times →
        OpensTerm parser.rest) ∧
      (∀ inner parser,
        .enter (.close inner parser) ∈
            (ofTokens tokens).eventsOfReadings times →
        EndsChain parser.rest) ∧
      (∀ event ∈ (ofTokens tokens).eventsOfReadings times,
        ∀ fault,
          event.call.reply.outcome = .error fault → ¬ GuardFault fault) ∧
      ∀ fault,
        .error fault ∈ (ofTokens tokens).parseRepeatedly times →
        ¬ GuardFault fault := by
  refine ⟨?_, ?_, ?_, ?_, ?_⟩
  · intro place parsed parser member
    have atStart : parsed = none ↔ place = .start :=
      inOrder_of_mem_eventsOfReadings member
    refine ⟨atStart, combine_cases atStart, ?_, ?_⟩
    · rintro rfl
      cases parsed with
      | none => cases atStart.mp rfl
      | some expression => exact ⟨expression, rfl⟩
    · exact fun expression next read => Call.endsChain_of_read read
  · exact fun parser member => inOrder_of_mem_eventsOfReadings member
  · exact fun inner parser member => inOrder_of_mem_eventsOfReadings member
  · intro event member fault refused
    exact (inOrder_of_mem_eventsOfReadings member).not_guardFault refused
  · intro fault member
    obtain ⟨earlier, found⟩ := List.mem_iff_getElem?.mp member
    exact not_guardFault_of_parse (parse_of_parseRepeatedly found).1

end LengthCalc.Parser
