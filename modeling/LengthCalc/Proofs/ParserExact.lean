import LengthCalc.Expression.Text
import LengthCalc.Proofs.ParserSound

namespace LengthCalc

/-!
# What a list of tokens is read as

The parser accepts exactly the chains of the grammar whose brackets stay within
the nesting limit, gives the one tree that such a chain stands for, and reports
every other list of tokens as a syntax fault.
-/

namespace Parser

/-- Reading from the start accepts exactly the chains within the limit. -/
theorem parse_ok_iff (tokens : List Token) (expression : Expression) :
    (ofTokens tokens).parse.outcome = .ok expression ↔
      ChainForm tokens expression ∧
        Token.nesting tokens ≤ nestingLimit := by
  constructor
  · intro accepted
    unfold parse ofTokens at accepted
    cases read : chain .start none ⟨tokens, 0⟩ with
    | mk outcome next =>
        rcases outcome with fault | result
        · simp [read] at accepted
        · obtain ⟨taken, took, form, -⟩ := chain_sound _ .start read
          have shape := took.rest
          have within := took.within
          rcases next with ⟨rest, depth⟩
          cases rest with
          | nil =>
              simp only [read, Except.ok.injEq] at accepted
              simp only [List.append_nil] at shape
              subst accepted shape
              exact ⟨form, by simpa using within⟩
          | cons token later =>
              simp [read] at accepted
  · rintro ⟨form, within⟩
    have read := chain_of_form form [] 0 (by omega)
    rw [List.append_nil] at read
    simp [parse, ofTokens, read, chain_nil]

/--
Tokens of a chain with brackets beyond the limit are refused for their depth.
-/
theorem parse_tooDeep
    {tokens : List Token}
    {expression : Expression}
    (form : ChainForm tokens expression)
    (beyond : nestingLimit < Token.nesting tokens) :
    (ofTokens tokens).parse.outcome = .error .tooDeep := by
  have refused := chain_tooDeep_of_form form [] 0 (by omega)
  rw [List.append_nil] at refused
  unfold parse ofTokens
  simp [refused]

end Parser

namespace Expression

/-- Reading tokens gives what the parser gives from the start. -/
theorem ofTokens_eq_ok_iff (tokens : List Token) (expression : Expression) :
    ofTokens tokens = .ok expression ↔
      ChainForm tokens expression ∧
        Token.nesting tokens ≤ nestingLimit := by
  rw [← Parser.parse_ok_iff]
  unfold ofTokens
  split
  · next result accepted => simp [accepted]
  · next fault refused => simp [refused]

/-- Reading a text gives the tree that its tokens stand for. -/
theorem ofText_eq_ok_iff (text : String) (expression : Expression) :
    ofText text = .ok expression ↔
      ∃ tokens,
        tokenize text = .ok tokens ∧
          ChainForm tokens expression ∧
          Token.nesting tokens ≤ nestingLimit := by
  unfold ofText
  split
  · next tokens scanned =>
      rw [ofTokens_eq_ok_iff]
      simp [scanned]
  · next failure scanned =>
      simp [scanned]

/-- Chains beyond the limit are refused for their nesting. -/
theorem ofTokens_tooDeep
    {tokens : List Token}
    {expression : Expression}
    (form : ChainForm tokens expression)
    (beyond : nestingLimit < Token.nesting tokens) :
    ofTokens tokens = .error (.syntactic .tooDeep) := by
  unfold ofTokens
  rw [Parser.parse_tooDeep form beyond]

/-- Tokens are refused for their syntax only. -/
theorem ofTokens_error
    {tokens : List Token}
    {failure : Failure}
    (refused : ofTokens tokens = .error failure) :
    ∃ cause, failure = .syntactic cause := by
  unfold ofTokens at refused
  split at refused
  · simp at refused
  · next cause _ =>
      exact ⟨cause, (Except.error.inj refused).symm⟩

/--
A list of tokens is read exactly when it is a chain of the grammar with at most
`nestingLimit` brackets open at every point.  The tree that is read is the only
one that the chain stands for and has its measurements in their order.  All
other lists of tokens are syntax faults.
-/
theorem ofTokens_exact (tokens : List Token) :
    (∀ expression,
      ofTokens tokens = .ok expression ↔
        ChainForm tokens expression ∧
          ∀ front,
            front <+: tokens →
            front.count .openBracket ≤
              front.count .closeBracket + nestingLimit) ∧
    (∀ expression,
      ofTokens tokens = .ok expression →
        (∀ other, ChainForm tokens other → other = expression) ∧
          expression.leaves = Token.measurements tokens) ∧
    ((∀ expression, ofTokens tokens ≠ .ok expression) →
      ∃ cause, ofTokens tokens = .error (.syntactic cause)) := by
  refine ⟨?_, ?_, ?_⟩
  · intro expression
    rw [ofTokens_eq_ok_iff, Token.nesting, nestingOf_le_iff]
    decide
  · intro expression read
    have accepted := (ofTokens_eq_ok_iff tokens expression).mp read
    constructor
    · intro other form
      have same := (ofTokens_eq_ok_iff tokens other).mpr ⟨form, accepted.2⟩
      exact Except.ok.inj (same.symm.trans read)
    · have measured := accepted.1.measurements_append []
      simpa using measured.symm
  · intro unread
    cases outcome : ofTokens tokens with
    | ok expression =>
        exact (unread expression outcome).elim
    | error failure =>
        obtain ⟨cause, shape⟩ := ofTokens_error outcome
        exact ⟨cause, congrArg Except.error shape⟩

end Expression

end LengthCalc
