import LengthCalc.Expression.Text
import LengthCalc.Proofs.BracketScan
import LengthCalc.Proofs.ParserComplete
import LengthCalc.Proofs.ScannerSound

namespace LengthCalc

/-!
# What becomes of a text

The tokens of a text are always in order, so all that the parser can find wrong
with them are brackets and a missing last unit.  Its recursion is shown to agree
with the flat scan: at the depth of the parser, a chain fails where the scan
stops, and ends where the scan goes on with the same balance.
-/

namespace Parser

/--
A reply of a chain agrees with the scan of its tokens, which lead to the last
place.
-/
inductive Agrees
    (last : TokenPlace)
    (depth : Nat)
    (tokens : List Token) : Reply → Prop where
  | tooDeep
      {parser : Parser} :
      Token.course depth tokens = .tooDeep →
      Agrees last depth tokens ⟨.error .tooDeep, parser⟩
  | unitMissing
      {amount : Decimal}
      {balance : Nat}
      {parser : Parser} :
      tokens.getLast? = some (.number amount) →
      Token.course depth tokens = .ends balance →
      Agrees last depth tokens ⟨.error (.unitMissing amount), parser⟩
  | closingMissing
      {balance : Nat}
      {parser : Parser} :
      last = .operator →
      Token.course depth tokens = .ends balance →
      depth < balance →
      Agrees last depth tokens ⟨.error .closingMissing, parser⟩
  | complete
      {expression : Expression} :
      last = .operator →
      Token.course depth tokens = .ends depth →
      Agrees last depth tokens ⟨.ok expression, ⟨[], depth⟩⟩
  | closed
      {expression : Expression}
      (taken : List Token)
      {later : List Token} :
      tokens = taken ++ .closeBracket :: later →
      TokenPlace.operator.run? later = some last →
      Token.course depth tokens =
        Token.course depth (.closeBracket :: later) →
      Agrees last depth tokens
        ⟨.ok expression, ⟨.closeBracket :: later, depth⟩⟩

namespace Agrees

variable {last : TokenPlace}
variable {depth : Nat}
variable {later : List Token}

/-- The last token stays the last one behind other tokens. -/
theorem getLast?_append
    {token : Token}
    (isLast : later.getLast? = some token)
    (taken : List Token) :
    (taken ++ later).getLast? = some token := by
  simp [List.getLast?_append, isLast]

/-- Tokens that the scan passes over can be put in front. -/
theorem behind
    {reply : Reply}
    (agrees : Agrees last depth later reply)
    (taken : List Token)
    (passed :
      Token.course depth (taken ++ later) = Token.course depth later) :
    Agrees last depth (taken ++ later) reply := by
  cases agrees with
  | tooDeep course =>
      exact .tooDeep (passed.trans course)
  | unitMissing isLast course =>
      exact .unitMissing (getLast?_append isLast taken) (passed.trans course)
  | closingMissing behindOperand course deeper =>
      exact .closingMissing behindOperand (passed.trans course) deeper
  | complete behindOperand course =>
      exact .complete behindOperand (passed.trans course)
  | @closed _ front rest shape reached course =>
      refine .closed (taken ++ front) ?_ reached (passed.trans course)
      rw [shape, List.append_assoc]

/-- A fault inside a group is a fault of the group. -/
theorem inside_group
    {fault : SyntaxFault}
    {parser : Parser}
    (agrees : Agrees last (depth + 1) later ⟨.error fault, parser⟩)
    (within : depth + 1 ≤ nestingLimit) :
    Agrees last depth (.openBracket :: later) ⟨.error fault, parser⟩ := by
  have opened := Token.course_openBracket within later
  cases agrees with
  | tooDeep course =>
      exact .tooDeep (opened.trans course)
  | unitMissing isLast course =>
      exact .unitMissing (getLast?_append isLast [.openBracket])
        (opened.trans course)
  | closingMissing behindOperand course deeper =>
      exact .closingMissing behindOperand (opened.trans course) (by omega)

end Agrees

/-- What tokens a chain is followed by at one of its places. -/
inductive Expects :
    ChainPlace → Option Expression → TokenPlace → Prop where
  | operand
      {place : ChainPlace}
      (parsed : Option Expression) :
      place ≠ .afterTerm →
      Expects place parsed .operand
  | operator
      (left : Expression) :
      Expects .afterTerm (some left) .operator

/-- Every reading of a chain from these tokens agrees with the scan. -/
def ChainAgrees (last : TokenPlace) (tokens : List Token) : Prop :=
  ∀ {place : ChainPlace} {parsed : Option Expression}
    {expected : TokenPlace} {depth : Nat},
    Expects place parsed expected →
    expected.run? tokens = some last →
    depth ≤ nestingLimit →
    Agrees last depth tokens (chain place parsed ⟨tokens, depth⟩)

section Steps

variable {last : TokenPlace}
variable {later : List Token}
variable {depth : Nat}
variable {place : ChainPlace}

/-- A chain that begins with a number agrees with the scan if shorter chains do.
-/
theorem chain_number_agrees
    (expected : place ≠ .afterTerm)
    (parsed : Option Expression)
    (amount : Decimal)
    (reached : TokenPlace.unit.run? later = some last)
    (within : depth ≤ nestingLimit)
    (shorter :
      ∀ fewer : List Token,
        fewer.length < later.length →
        ChainAgrees last fewer) :
    Agrees last depth (.number amount :: later)
      (chain place parsed ⟨.number amount :: later, depth⟩) := by
  have moves : move place (.number amount) = .term := by
    cases place <;> simp_all [move]
  cases later with
  | nil =>
      have read :
          term ⟨[.number amount], depth⟩ =
            ⟨.error (.unitMissing amount), ⟨[], depth⟩⟩ := by
        rw [term_eq]
        rfl
      rw [chain_of_refused moves parsed read]
      exact .unitMissing rfl (Token.course_number depth amount)
  | cons token rest =>
      cases token <;> try cases reached
      next lengthUnit =>
        have read :
            term ⟨.number amount :: .unit lengthUnit :: rest, depth⟩ =
              ⟨.ok (.ofAmount amount lengthUnit), ⟨rest, depth⟩⟩ := by
          rw [term_eq]
          rfl
        rw [chain_of_read moves parsed read]
        have agrees :=
          shorter rest (by simp)
            (.operator (combine place parsed (.ofAmount amount lengthUnit)))
            reached within
        exact agrees.behind [.number amount, .unit lengthUnit]
          (Token.course_measurement depth amount lengthUnit rest)

/-- What a term does that begins with an opening bracket. -/
theorem term_openBracket
    (within : depth + 1 ≤ nestingLimit)
    (later : List Token) :
    term ⟨.openBracket :: later, depth⟩ =
      match chain .start none ⟨later, depth + 1⟩ with
      | ⟨.error fault, next⟩ => ⟨.error fault, next⟩
      | ⟨.ok inner, next⟩ =>
          close inner { next with depth := next.depth - 1 } := by
  have notBeyond : ¬ nestingLimit < depth + 1 := Nat.not_lt.mpr within
  rw [term_eq]
  exact (group_eq ⟨later, depth⟩).trans (if_neg notBeyond)

/-- A bracket is opened wherever a term is expected. -/
theorem move_openBracket (expected : place ≠ .afterTerm) :
    move place .openBracket = .term := by
  cases place <;> simp_all [move]

/-- A bracket beyond the limit is refused by the chain and by the scan. -/
theorem chain_tooDeep_agrees
    (expected : place ≠ .afterTerm)
    (parsed : Option Expression)
    (beyond : nestingLimit < depth + 1) :
    Agrees last depth (.openBracket :: later)
      (chain place parsed ⟨.openBracket :: later, depth⟩) := by
  have read :
      term ⟨.openBracket :: later, depth⟩ =
        ⟨.error .tooDeep, ⟨later, depth + 1⟩⟩ := by
    rw [term_eq]
    exact (group_eq ⟨later, depth⟩).trans (if_pos beyond)
  rw [chain_of_refused (move_openBracket expected) parsed read]
  exact .tooDeep (Token.course_openBracket_beyond beyond later)

/-- A group that is closed is a term, and the chain goes on behind it. -/
theorem chain_closed_agrees
    (expected : place ≠ .afterTerm)
    (parsed : Option Expression)
    (within : depth + 1 ≤ nestingLimit)
    {taken rest : List Token}
    {inner : Expression}
    (shape : later = taken ++ .closeBracket :: rest)
    (content :
      chain .start none ⟨later, depth + 1⟩ =
        ⟨.ok inner, ⟨.closeBracket :: rest, depth + 1⟩⟩)
    (course :
      Token.course (depth + 1) later =
        Token.course (depth + 1) (.closeBracket :: rest))
    (reached : TokenPlace.operator.run? rest = some last)
    (restAgrees : ChainAgrees last rest) :
    Agrees last depth (.openBracket :: later)
      (chain place parsed ⟨.openBracket :: later, depth⟩) := by
  have read :
      term ⟨.openBracket :: later, depth⟩ =
        ⟨.ok inner.group, ⟨rest, depth⟩⟩ := by
    rw [term_openBracket within, content]
    rfl
  rw [chain_of_read (move_openBracket expected) parsed read]
  have agrees :=
    restAgrees (.operator (combine place parsed inner.group))
      reached (Nat.le_of_succ_le within)
  have passed :
      Token.course depth
          ((.openBracket :: taken ++ [.closeBracket]) ++ rest) =
        Token.course depth rest := by
    simpa [shape] using (Token.course_openBracket within later).trans course
  simpa [shape] using agrees.behind _ passed

/--
A chain that begins with a bracket agrees with the scan if shorter chains do.
-/
theorem chain_group_agrees
    (expected : place ≠ .afterTerm)
    (parsed : Option Expression)
    (reached : TokenPlace.operand.run? later = some last)
    (shorter :
      ∀ fewer : List Token,
        fewer.length ≤ later.length →
        ChainAgrees last fewer) :
    Agrees last depth (.openBracket :: later)
      (chain place parsed ⟨.openBracket :: later, depth⟩) := by
  by_cases beyond : nestingLimit < depth + 1
  · exact chain_tooDeep_agrees expected parsed beyond
  · have within : depth + 1 ≤ nestingLimit := Nat.le_of_not_lt beyond
    have moves := move_openBracket expected
    have read := term_openBracket within later
    have agrees :
        Agrees last (depth + 1) later
          (chain .start none ⟨later, depth + 1⟩) :=
      shorter later (Nat.le_refl _) (.operand none (by decide))
        reached within
    cases content : chain .start none ⟨later, depth + 1⟩ with
    | mk outcome next =>
        rw [content] at agrees read
        cases outcome with
        | error fault =>
            rw [chain_of_refused moves parsed read]
            exact agrees.inside_group within
        | ok inner =>
            cases agrees with
            | complete behindOperand course =>
                rw [chain_of_refused moves parsed read]
                exact .closingMissing behindOperand
                  ((Token.course_openBracket within later).trans course)
                  (Nat.lt_succ_self depth)
            | closed taken shape reachedRest course =>
                refine chain_closed_agrees expected parsed within shape
                  content course reachedRest (shorter _ ?_)
                rw [shape, List.length_append, List.length_cons]
                omega

/-- A chain that goes on with an operator agrees with the scan if the rest does.
-/
theorem chain_operator_agrees
    (left : Expression)
    (operator : Operator)
    (reached : TokenPlace.operand.run? later = some last)
    (within : depth ≤ nestingLimit)
    (laterAgrees : ChainAgrees last later) :
    Agrees last depth (operator.token :: later)
      (chain .afterTerm (some left) ⟨operator.token :: later, depth⟩) := by
  rw [chain_operator]
  have agrees :=
    laterAgrees (.operand (some left) operator.place_ne_afterTerm)
      reached within
  exact agrees.behind [operator.token]
    (Token.course_operator depth operator later)

end Steps

/-- A chain fails and ends where the scan of its tokens does. -/
theorem chain_agrees
    {last : TokenPlace}
    (complete : last ≠ .operand)
    (tokens : List Token) :
    ChainAgrees last tokens := by
  -- A term, an operator and a group all leave fewer tokens for the rest.
  induction size : tokens.length using Nat.strongRecOn
    generalizing tokens with
  | ind length inductionHypothesis =>
      subst size
      have shorter (fewer : List Token)
          (less : fewer.length < tokens.length) :
          ChainAgrees last fewer :=
        inductionHypothesis _ less fewer rfl
      intro place parsed expected depth expects reached within
      cases expects with
      | operand _ noOperator =>
          cases tokens with
          | nil =>
              cases reached
              exact (complete rfl).elim
          | cons token later =>
              cases token <;> try cases reached
              · exact chain_group_agrees noOperator parsed reached
                  fun fewer less => shorter fewer (Nat.lt_succ_of_le less)
              · exact chain_number_agrees noOperator parsed _ reached within
                  fun fewer less => shorter fewer (Nat.lt_succ_of_lt less)
      | operator left =>
          cases tokens with
          | nil =>
              cases reached
              rw [chain_nil]
              exact .complete rfl rfl
          | cons token later =>
              have laterAgrees : ChainAgrees last later :=
                shorter later (by simp)
              cases token <;> try cases reached
              · rw [chain_closeBracket]
                exact .closed [] rfl reached rfl
              · exact chain_operator_agrees left .plus reached within
                  laterAgrees
              · exact chain_operator_agrees left .minus reached within
                  laterAgrees

end Parser

namespace Expression

/-- What tokens that are in order and complete are read as. -/
theorem ofTokens_of_operandsForm
    {tokens : List Token}
    (form : OperandsForm tokens) :
    match Token.fault? tokens with
    | some fault => ofTokens tokens = .error (.syntactic fault)
    | none => ∃ expression, ofTokens tokens = .ok expression := by
  obtain ⟨last, reached, complete⟩ := (operandsForm_iff tokens).mp form
  have agrees :
      Parser.Agrees last 0 tokens (Parser.chain .start none ⟨tokens, 0⟩) :=
    Parser.chain_agrees complete tokens
      (.operand none (by decide)) reached (Nat.zero_le nestingLimit)
  unfold ofTokens Parser.parse Parser.ofTokens
  generalize Parser.chain .start none ⟨tokens, 0⟩ = reply at agrees
  cases agrees with
  | tooDeep course =>
      simp [Token.fault?, course]
  | unitMissing isLast course =>
      simp [Token.fault?, course, isLast]
  | closingMissing behindOperand course deeper =>
      subst behindOperand
      have noNumber := TokenPlace.getLast?_ne_number reached
      simp [Token.fault?_of_last_operand course noNumber, deeper]
  | complete behindOperand course =>
      subst behindOperand
      have noNumber := TokenPlace.getLast?_ne_number reached
      simp [Token.fault?_of_last_operand course noNumber]
  | closed taken shape reachedRest course =>
      simp [Token.fault?, course]

/-- The tokens of a text are operands with operators between them. -/
theorem operandsForm_of_tokenize
    {text : String}
    {tokens : List Token}
    (scanned : tokenize text = .ok tokens) :
    OperandsForm tokens := by
  rw [tokenize_eq_ok_iff] at scanned
  obtain ⟨splitting, -, rfl⟩ := Scanner.exists_splitting_of_tokensOf scanned
  exact splitting.operands

/--
A text with tokens is refused exactly for what the scan of its brackets and its
last token finds.  So no text is refused for a token in a wrong place, for
something else than a unit behind a number, or for something else than a
closing bracket behind the content of a group.
-/
theorem ofText_verdict (text : String) :
    (∀ tokens,
        tokenize text = .ok tokens →
        match Token.fault? tokens with
        | some fault => ofText text = .error (.syntactic fault)
        | none => ∃ expression, ofText text = .ok expression) ∧
      (∀ fault,
        ofText text = .error (.syntactic fault) →
        fault = .leftover .closeBracket ∨
          fault = .tooDeep ∨
          (∃ amount, fault = .unitMissing amount) ∨
          fault = .closingMissing) := by
  constructor
  · intro tokens scanned
    rw [ofText_of_tokenize scanned]
    exact ofTokens_of_operandsForm (operandsForm_of_tokenize scanned)
  · intro fault refused
    cases scanned : tokenize text with
    | error failure =>
        obtain ⟨position, cause, lexical⟩ := exists_lexical_of_tokenize scanned
        rw [ofText, scanned, lexical] at refused
        cases refused
    | ok tokens =>
        have verdict :=
          ofTokens_of_operandsForm (operandsForm_of_tokenize scanned)
        rw [← ofText_of_tokenize scanned, refused] at verdict
        cases found : Token.fault? tokens with
        | none =>
            simp [found] at verdict
        | some scanFault =>
            simp only [found, Except.error.injEq,
              Failure.syntactic.injEq] at verdict
            subst verdict
            exact Token.fault?_cases found

end Expression

end LengthCalc
