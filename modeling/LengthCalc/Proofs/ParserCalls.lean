import LengthCalc.Proofs.ParserSound

namespace LengthCalc.Parser

/-!
# The calls of the parser

Reading is done by functions that call each other.  A call is one of them with
its arguments; `Call.calls` lists the calls that it makes itself, in order, and
`Call.events` is everything that happens during a call: it is entered, the calls
that it makes take place, and it is left.  A round of the loop over a chain
counts as a call of its own, so that every state which the parser goes through
is the state at one of the events.
-/

/-- The tokens that a term can be read from. -/
inductive OpensTerm : List Token → Prop where
  | number (amount : Decimal) (later : List Token) :
      OpensTerm (.number amount :: later)
  | openBracket (later : List Token) :
      OpensTerm (.openBracket :: later)

/-- A term needs a token. -/
theorem OpensTerm.length_pos
    {rest : List Token}
    (opens : OpensTerm rest) :
    0 < rest.length := by
  cases opens <;> simp

/-- A term is read only where its token opens one. -/
theorem opensTerm_of_move
    {place : ChainPlace}
    {token : Token}
    (moves : move place token = .term)
    (later : List Token) :
    OpensTerm (token :: later) := by
  cases place <;> cases token <;> simp only [move, reduceCtorEq] at moves <;>
    constructor

/-- A function of the parser with its arguments. -/
inductive Call where
  /-- A round of the loop over a chain. -/
  | chain (place : ChainPlace) (parsed : Option Expression) (parser : Parser)
  | term (parser : Parser)
  | measurement (amount : Decimal) (parser : Parser)
  | group (parser : Parser)
  | close (inner : Expression) (parser : Parser)

namespace Call

/-- The parser that a call is given. -/
def parser : Call → Parser
  | .chain _ _ parser => parser
  | .term parser => parser
  | .measurement _ parser => parser
  | .group parser => parser
  | .close _ parser => parser

section Parsers

variable (parser : Parser)

@[simp] theorem parser_chain
    (place : ChainPlace)
    (parsed : Option Expression) :
    (chain place parsed parser).parser = parser :=
  rfl

@[simp] theorem parser_term : (term parser).parser = parser :=
  rfl

@[simp] theorem parser_measurement (amount : Decimal) :
    (measurement amount parser).parser = parser :=
  rfl

@[simp] theorem parser_group : (group parser).parser = parser :=
  rfl

@[simp] theorem parser_close (inner : Expression) :
    (close inner parser).parser = parser :=
  rfl

end Parsers

/-- What a call gives. -/
def reply : Call → Reply
  | .chain place parsed parser => Parser.chain place parsed parser
  | .term parser => Parser.term parser
  | .measurement amount parser => Parser.measurement amount parser
  | .group parser => Parser.group parser
  | .close inner parser => Parser.close inner parser

/-- The call that goes on behind a term, if one was read. -/
def behindTerm
    (place : ChainPlace)
    (parsed : Option Expression) :
    Reply → List Call
  | ⟨.ok expression, next⟩ =>
      [.chain .afterTerm (some (combine place parsed expression)) next]
  | ⟨.error _, _⟩ => []

/-- The call that closes a group, if its content was read. -/
def behindContent : Reply → List Call
  | ⟨.ok inner, next⟩ =>
      [.close inner { next with depth := next.depth - 1 }]
  | ⟨.error _, _⟩ => []

/-- The calls that a round of the loop makes for its first token. -/
def chainCalls
    (place : ChainPlace)
    (parsed : Option Expression)
    (parser : Parser)
    (later : List Token) :
    Move → List Call
  | .operator next => [.chain next parsed { parser with rest := later }]
  | .term =>
      .term parser :: behindTerm place parsed (Parser.term parser)
  | .stop => []
  | .refuse => []

/-- The calls that a call makes itself, in order. -/
def calls : Call → List Call
  | .chain place parsed parser =>
      match parser.rest with
      | [] => []
      | token :: later =>
          chainCalls place parsed parser later (move place token)
  | .term parser =>
      match parser.rest with
      | .number amount :: later =>
          [.measurement amount { parser with rest := later }]
      | .openBracket :: later => [.group { parser with rest := later }]
      | _ => []
  | .group parser =>
      let opened := { parser with depth := parser.depth + 1 }
      if nestingLimit < opened.depth then
        []
      else
        .chain .start none opened ::
          behindContent (Parser.chain .start none opened)
  | .measurement _ _ => []
  | .close _ _ => []

/-- What a call does, with the answers of the calls that it makes given. -/
def body (answer : Call → Reply) : Call → Reply
  | .chain place parsed parser =>
      match parser.rest with
      | [] => ⟨chainEnd place parsed, parser⟩
      | token :: later =>
          match move place token with
          | .stop => ⟨chainEnd place parsed, parser⟩
          | .operator next =>
              answer (.chain next parsed { parser with rest := later })
          | .term =>
              match answer (.term parser) with
              | ⟨.error fault, next⟩ => ⟨.error fault, next⟩
              | ⟨.ok expression, next⟩ =>
                  answer
                    (.chain .afterTerm
                      (some (combine place parsed expression)) next)
          | .refuse => ⟨.error (.misplaced token place), parser⟩
  | .term parser =>
      match parser.rest with
      | [] => ⟨.error .termMissing, parser⟩
      | .number amount :: later =>
          answer (.measurement amount { parser with rest := later })
      | .openBracket :: later => answer (.group { parser with rest := later })
      | token :: later =>
          ⟨.error (.notTerm token), { parser with rest := later }⟩
  | .group parser =>
      let opened := { parser with depth := parser.depth + 1 }
      if nestingLimit < opened.depth then
        ⟨.error .tooDeep, opened⟩
      else
        match answer (.chain .start none opened) with
        | ⟨.error fault, next⟩ => ⟨.error fault, next⟩
        | ⟨.ok inner, next⟩ =>
            answer (.close inner { next with depth := next.depth - 1 })
  | .measurement amount parser => Parser.measurement amount parser
  | .close inner parser => Parser.close inner parser

/--
What a call gives depends on nothing but its arguments and what the calls give
that it makes.  So no call is missing from `calls`.
-/
theorem body_eq_reply
    {answer : Call → Reply}
    (call : Call)
    (known : ∀ inner ∈ call.calls, answer inner = inner.reply) :
    call.body answer = call.reply := by
  cases call with
  | measurement amount parser => rfl
  | close inner parser => rfl
  | chain place parsed parser =>
      rcases parser with ⟨rest, depth⟩
      rw [reply, chain_eq]
      cases rest with
      | nil => rfl
      | cons token later =>
          simp only [calls, body] at known ⊢
          cases moves : move place token with
          | stop => rfl
          | refuse => rfl
          | operator next =>
              exact known _ (by simp [moves, chainCalls])
          | term =>
              simp only [moves, chainCalls] at known
              have first := known _ List.mem_cons_self
              rcases read : Parser.term ⟨token :: later, depth⟩ with
                ⟨fault | expression, next⟩
              · simp only [first, reply, read]
              · simp only [first, reply, read]
                exact known _ (by simp [read, behindTerm])
  | term parser =>
      rcases parser with ⟨rest, depth⟩
      rw [reply, term_eq]
      cases rest with
      | nil => rfl
      | cons token later =>
          cases token with
          | number amount => exact known _ (by simp [calls])
          | openBracket => exact known _ (by simp [calls])
          | _ => rfl
  | group parser =>
      rw [reply, group_eq]
      simp only [calls, body] at known ⊢
      by_cases beyond : nestingLimit < parser.depth + 1
      · simp only [if_pos beyond]
      · simp only [if_neg beyond] at known ⊢
        have first := known _ List.mem_cons_self
        rcases read :
            Parser.chain .start none ⟨parser.rest, parser.depth + 1⟩ with
          ⟨fault | inner, next⟩
        · simp only [first, reply, read]
        · simp only [first, reply, read]
          exact known _ (by simp [read, behindContent])

/--
What a call can do: the calls that it makes, and its reply.  A call that makes
others leaves the parser as the last one of them does.
-/
inductive Does : Call → List Call → Reply → Prop where
  | chainEnds
      (place : ChainPlace)
      (parsed : Option Expression)
      {parser : Parser} :
      EndsChain parser.rest →
      Does (.chain place parsed parser) [] ⟨chainEnd place parsed, parser⟩
  | misplaced
      (place : ChainPlace)
      (parsed : Option Expression)
      (parser : Parser)
      (token : Token) :
      Does (.chain place parsed parser) []
        ⟨.error (.misplaced token place), parser⟩
  | operator
      (operator : Operator)
      (parsed : Option Expression)
      (later : List Token)
      (depth : Nat) :
      Does (.chain .afterTerm parsed ⟨operator.token :: later, depth⟩)
        [.chain operator.place parsed ⟨later, depth⟩]
        (Parser.chain operator.place parsed ⟨later, depth⟩)
  | termRefused
      {place : ChainPlace}
      (parsed : Option Expression)
      {parser next : Parser}
      {fault : SyntaxFault} :
      place ≠ .afterTerm →
      OpensTerm parser.rest →
      Parser.term parser = ⟨.error fault, next⟩ →
      Does (.chain place parsed parser) [.term parser] ⟨.error fault, next⟩
  | termJoined
      {place : ChainPlace}
      (parsed : Option Expression)
      {parser next : Parser}
      {expression : Expression} :
      place ≠ .afterTerm →
      OpensTerm parser.rest →
      Parser.term parser = ⟨.ok expression, next⟩ →
      Does (.chain place parsed parser)
        [.term parser,
          .chain .afterTerm (some (combine place parsed expression)) next]
        (Parser.chain .afterTerm (some (combine place parsed expression)) next)
  | termMissing
      (depth : Nat) :
      Does (.term ⟨[], depth⟩) [] ⟨.error .termMissing, ⟨[], depth⟩⟩
  | notTerm
      {token : Token}
      {later : List Token}
      (depth : Nat) :
      ¬ OpensTerm (token :: later) →
      Does (.term ⟨token :: later, depth⟩) []
        ⟨.error (.notTerm token), ⟨later, depth⟩⟩
  | number
      (amount : Decimal)
      (later : List Token)
      (depth : Nat) :
      Does (.term ⟨.number amount :: later, depth⟩)
        [.measurement amount ⟨later, depth⟩]
        (Parser.measurement amount ⟨later, depth⟩)
  | openBracket
      (later : List Token)
      (depth : Nat) :
      Does (.term ⟨.openBracket :: later, depth⟩)
        [.group ⟨later, depth⟩]
        (Parser.group ⟨later, depth⟩)
  | measurement
      (amount : Decimal)
      (parser : Parser) :
      Does (.measurement amount parser) [] (Parser.measurement amount parser)
  | tooDeep
      (rest : List Token)
      (depth : Nat) :
      Does (.group ⟨rest, depth⟩) [] ⟨.error .tooDeep, ⟨rest, depth + 1⟩⟩
  | contentRefused
      {rest : List Token}
      {depth : Nat}
      {next : Parser}
      {fault : SyntaxFault} :
      Parser.chain .start none ⟨rest, depth + 1⟩ = ⟨.error fault, next⟩ →
      Does (.group ⟨rest, depth⟩) [.chain .start none ⟨rest, depth + 1⟩]
        ⟨.error fault, next⟩
  | contentRead
      {rest : List Token}
      {depth : Nat}
      {next : Parser}
      {inner : Expression} :
      Parser.chain .start none ⟨rest, depth + 1⟩ = ⟨.ok inner, next⟩ →
      Does (.group ⟨rest, depth⟩)
        [.chain .start none ⟨rest, depth + 1⟩,
          .close inner ⟨next.rest, next.depth - 1⟩]
        (Parser.close inner ⟨next.rest, next.depth - 1⟩)
  | close
      (inner : Expression)
      (parser : Parser) :
      Does (.close inner parser) [] (Parser.close inner parser)

/-- Reading a chain follows the rules of calls. -/
theorem does_chain
    (place : ChainPlace)
    (parsed : Option Expression)
    (parser : Parser) :
    Does (.chain place parsed parser) (calls (.chain place parsed parser))
      (Parser.chain place parsed parser) := by
  rcases parser with ⟨rest, depth⟩
  rw [chain_eq]
  cases rest with
  | nil => exact .chainEnds place parsed .nil
  | cons token later =>
      simp only [calls]
      cases moves : move place token with
      | stop =>
          obtain ⟨rfl, rfl⟩ := move_stop moves
          exact .chainEnds .afterTerm parsed (.closeBracket later)
      | refuse => exact .misplaced place parsed _ token
      | operator after =>
          obtain ⟨rfl, operator, rfl, rfl⟩ := move_operator moves
          exact .operator operator parsed later depth
      | term =>
          have expected := move_term moves
          have opens := opensTerm_of_move moves later
          rcases read : Parser.term ⟨token :: later, depth⟩ with
            ⟨fault | expression, next⟩
          · simpa [chainCalls, behindTerm, read] using
              Does.termRefused parsed expected opens read
          · simpa [chainCalls, behindTerm, read] using
              Does.termJoined parsed expected opens read

/-- Reading a term follows the rules of calls. -/
theorem does_term (parser : Parser) :
    Does (.term parser) (calls (.term parser)) (Parser.term parser) := by
  rcases parser with ⟨rest, depth⟩
  rw [term_eq]
  rcases rest with _ | ⟨token, later⟩
  · exact .termMissing depth
  · cases token with
    | number amount => exact .number amount later depth
    | openBracket => exact .openBracket later depth
    | _ => exact .notTerm depth nofun

/-- Reading a group follows the rules of calls. -/
theorem does_group (parser : Parser) :
    Does (.group parser) (calls (.group parser)) (Parser.group parser) := by
  rcases parser with ⟨rest, depth⟩
  rw [group_eq]
  by_cases beyond : nestingLimit < depth + 1
  · simpa [calls, beyond] using Does.tooDeep rest depth
  · rcases read : Parser.chain .start none ⟨rest, depth + 1⟩ with
      ⟨fault | inner, next⟩
    · simpa [calls, beyond, behindContent, read] using
        Does.contentRefused read
    · simpa [calls, beyond, behindContent, read] using Does.contentRead read

/-- What a call does is one of the things that it can do. -/
theorem does (call : Call) : Does call call.calls call.reply := by
  cases call with
  | chain place parsed parser => exact does_chain place parsed parser
  | term parser => exact does_term parser
  | measurement amount parser => exact .measurement amount parser
  | group parser => exact does_group parser
  | close inner parser => exact .close inner parser

/-- A measure of the work that is left to a call. -/
def size : Call → Nat
  | .chain _ _ parser => 3 * parser.rest.length + 1
  | .term parser => 3 * parser.rest.length
  | .group parser => 3 * parser.rest.length + 2
  | .measurement _ _ => 0
  | .close _ _ => 0

/-- A call leaves less work to the calls that it makes. -/
theorem size_lt_of_mem_calls
    {call inner : Call}
    (member : inner ∈ call.calls) :
    inner.size < call.size := by
  have does := call.does
  generalize call.calls = made at does member
  generalize call.reply = reply at does
  cases does with
  | chainEnds | misplaced | termMissing | notTerm | measurement | tooDeep
  | close =>
      cases member
  | operator | number | openBracket | contentRefused | termRefused =>
      rw [List.mem_singleton.mp member]
      simp only [size, List.length_cons]
      omega
  | @termJoined place parsed parser next expression expected opens read =>
      have positive := opens.length_pos
      have bound := term_rest_length_le parser
      simp only [read] at bound
      simp only [List.mem_cons, List.not_mem_nil, or_false] at member
      rcases member with rfl | rfl <;> simp only [size] <;> omega
  | contentRead =>
      simp only [List.mem_cons, List.not_mem_nil, or_false] at member
      rcases member with rfl | rfl <;> simp only [size] <;> omega

/-- What holds of a call if it holds of the calls that it makes, always holds. -/
theorem calls_induction
    {holds : Call → Prop}
    (step :
      ∀ call : Call, (∀ inner ∈ call.calls, holds inner) → holds call)
    (call : Call) :
    holds call := by
  induction size : call.size using Nat.strongRecOn generalizing call with
  | ind work inductionHypothesis =>
      subst size
      exact step call fun inner member =>
        inductionHypothesis inner.size (size_lt_of_mem_calls member) inner rfl

end Call

/-- A call is entered, or it is left. -/
inductive Event where
  | enter (call : Call)
  | leave (call : Call)

namespace Event

/-- The call of an event. -/
def call : Event → Call
  | .enter call => call
  | .leave call => call

/-- The parser as it is at an event. -/
def parser : Event → Parser
  | .enter call => call.parser
  | .leave call => call.reply.parser

@[simp] theorem parser_enter (call : Call) :
    (enter call).parser = call.parser :=
  rfl

@[simp] theorem parser_leave (call : Call) :
    (leave call).parser = call.reply.parser :=
  rfl

end Event

namespace Call

/-- Everything that happens during a call, in order. -/
def events (call : Call) : List Event :=
  .enter call ::
    (call.calls.attach.flatMap fun inner => inner.val.events) ++
    [.leave call]
termination_by call.size
decreasing_by
  exact size_lt_of_mem_calls inner.property

/-- During a call, the calls take place that it makes. -/
theorem events_eq (call : Call) :
    call.events = .enter call :: (call.calls.flatMap events ++ [.leave call]) := by
  rw [events, List.cons_append, List.flatMap_subtype]
  · rw [List.unattach_attach]
  · exact fun _ _ => rfl

/-- A property that calls hand down to the calls that they make. -/
theorem forall_events
    {holds : Call → Prop}
    (inherits :
      ∀ call, holds call → ∀ inner ∈ call.calls, holds inner)
    {call : Call}
    (atCall : holds call) :
    ∀ event ∈ call.events, holds event.call := by
  induction call using calls_induction with
  | step call inductionHypothesis =>
      intro event member
      rw [events_eq, List.mem_cons, List.mem_append, List.mem_singleton,
        List.mem_flatMap] at member
      rcases member with rfl | ⟨inner, isCalled, within⟩ | rfl
      · exact atCall
      · exact inductionHypothesis inner isCalled
          (inherits call atCall inner isCalled) event within
      · exact atCall

end Call

/-- The call that a complete reading begins with. -/
def readingCall (parser : Parser) : Call :=
  .chain .start none parser

/-- The parser after some complete readings. -/
def after (parser : Parser) : (readings : Nat) → Parser
  | 0 => parser
  | readings + 1 => parser.parse.parser.after readings

/-- The calls of some complete readings, one behind the other. -/
def readingCalls (parser : Parser) : (readings : Nat) → List Call
  | 0 => []
  | readings + 1 =>
      parser.readingCall :: parser.parse.parser.readingCalls readings

/-- Everything that happens during some complete readings, in order. -/
def eventsOfReadings (parser : Parser) (readings : Nat) : List Event :=
  (parser.readingCalls readings).flatMap Call.events

/-- Looking for a token that is left over takes none. -/
theorem parse_leaves (parser : Parser) :
    parser.parse.parser = parser.readingCall.reply.parser := by
  simp only [parse]
  split <;> rfl

end LengthCalc.Parser
