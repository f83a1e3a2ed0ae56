import LengthCalc.Proofs.ParserComplete

namespace LengthCalc.Parser

/-!
# What the parser accepts

Every tree that the parser gives stands for exactly the tokens that were taken
for it.  The invariant of a chain is `Reached`: the tokens taken so far form a
chain, possibly followed by one operator, and what was parsed is its tree.
-/

/-- What has been parsed at a place of a chain whose tokens so far are given. -/
inductive Reached :
    ChainPlace → Option Expression → List Token → Prop where
  | start :
      Reached .start none []
  | afterTerm
      {tokens : List Token}
      {left : Expression} :
      ChainForm tokens left →
      Reached .afterTerm (some left) tokens
  | afterOperator
      (operator : Operator)
      {tokens : List Token}
      {left : Expression} :
      ChainForm tokens left →
      Reached operator.place (some left) (tokens ++ [operator.token])

/--
A reading that took some tokens from the front, gave back its depth and stayed
within the nesting limit.
-/
structure Took
    (parser : Parser)
    (taken : List Token)
    (next : Parser) : Prop where
  rest : parser.rest = taken ++ next.rest
  depth : next.depth = parser.depth
  within : Token.nesting taken ≤ nestingLimit - parser.depth

/-- The tokens in front of which a chain may end. -/
inductive EndsChain : List Token → Prop where
  | nil : EndsChain []
  | closeBracket (later : List Token) : EndsChain (.closeBracket :: later)

/-- Every accepting reading from this parser takes the tokens of a chain. -/
def ChainSound (parser : Parser) : Prop :=
  ∀ {place : ChainPlace} {parsed : Option Expression}
    {front : List Token} {expression : Expression} {next : Parser},
    Reached place parsed front →
    chain place parsed parser = ⟨.ok expression, next⟩ →
    ∃ taken,
      Took parser taken next ∧
        ChainForm (front ++ taken) expression ∧
        EndsChain next.rest

namespace Reached

/-- A term completes a chain at every place where one is expected. -/
theorem join
    {place : ChainPlace}
    {parsed : Option Expression}
    {front tokens : List Token}
    {expression : Expression}
    (reached : Reached place parsed front)
    (expected : place ≠ .afterTerm)
    (form : TermForm tokens expression) :
    ChainForm (front ++ tokens) (combine place parsed expression) := by
  cases reached with
  | start =>
      exact .term form
  | afterTerm _ =>
      exact (expected rfl).elim
  | afterOperator operator left =>
      rw [combine_place, List.append_assoc]
      exact .operation operator left form

/-- Behind a term, what was parsed is the tree of the tokens so far. -/
theorem behind_term
    {place : ChainPlace}
    {parsed : Option Expression}
    {front : List Token}
    (reached : Reached place parsed front)
    (behind : place = .afterTerm) :
    ∃ left, parsed = some left ∧ ChainForm front left := by
  cases reached with
  | start =>
      simp at behind
  | afterTerm form =>
      exact ⟨_, rfl, form⟩
  | afterOperator operator left =>
      exact (operator.place_ne_afterTerm behind).elim

/-- A chain ends well only behind a term, with the tree of its tokens. -/
theorem chainEnd_ok
    {place : ChainPlace}
    {parsed : Option Expression}
    {front : List Token}
    {expression : Expression}
    (reached : Reached place parsed front)
    (ended : chainEnd place parsed = .ok expression) :
    ChainForm front expression := by
  cases reached with
  | start =>
      simp [chainEnd] at ended
  | afterTerm form =>
      simp only [chainEnd, Except.ok.injEq] at ended
      subst ended
      exact form
  | afterOperator operator left =>
      cases operator <;> simp [Operator.place, chainEnd] at ended

end Reached

namespace Took

/-- A parser that has taken nothing has not moved. -/
theorem nothing (parser : Parser) : Took parser [] parser where
  rest :=
    rfl
  depth :=
    rfl
  within :=
    Nat.zero_le _

/-- Terms that are taken one behind the other are taken together. -/
theorem trans
    {parser middle next : Parser}
    {tokens later : List Token}
    {expression : Expression}
    (first : Took parser tokens middle)
    (form : TermForm tokens expression)
    (second : Took middle later next) :
    Took parser (tokens ++ later) next where
  rest := by
    rw [first.rest, second.rest, List.append_assoc]
  depth :=
    second.depth.trans first.depth
  within := by
    have firstWithin := first.within
    have secondWithin := second.within
    rw [first.depth] at secondWithin
    rw [form.nesting_append]
    omega

/-- An operator in front of what is taken may be taken with it. -/
theorem operator
    (operator : Operator)
    {later taken : List Token}
    {depth : Nat}
    {next : Parser}
    (took : Took ⟨later, depth⟩ taken next) :
    Took ⟨operator.token :: later, depth⟩ (operator.token :: taken) next where
  rest := by
    rw [List.cons_append]
    exact congrArg _ took.rest
  depth :=
    took.depth
  within := by
    rw [Token.nesting_operator]
    exact took.within

/-- Brackets around a chain within the limit are taken with the chain. -/
theorem group
    {later rest tokens : List Token}
    {depth : Nat}
    {inner : Expression}
    {next : Parser}
    (took : Took ⟨later, depth + 1⟩ tokens next)
    (within : depth + 1 ≤ nestingLimit)
    (form : ChainForm tokens inner)
    (closes : next.rest = .closeBracket :: rest) :
    Took ⟨.openBracket :: later, depth⟩
      (.openBracket :: (tokens ++ [.closeBracket]))
      ⟨rest, next.depth - 1⟩ where
  rest := by
    have taken := took.rest
    simp only [closes] at taken
    simp [taken]
  depth := by
    have kept := took.depth
    simp only at kept ⊢
    omega
  within := by
    have contentWithin := took.within
    rw [Token.nesting_openBracket, form.nesting_append]
    simp only [Token.nesting_closeBracket, Token.nesting_nil] at contentWithin ⊢
    omega

end Took

/-- A measurement that is accepted has taken the tokens of a term. -/
theorem measurement_sound
    {amount : Decimal}
    {later : List Token}
    {depth : Nat}
    {expression : Expression}
    {next : Parser}
    (accepted : measurement amount ⟨later, depth⟩ = ⟨.ok expression, next⟩) :
    ∃ taken,
      Took ⟨.number amount :: later, depth⟩ taken next ∧
        TermForm taken expression := by
  unfold measurement at accepted
  split at accepted
  · simp at accepted
  · next unit rest shape =>
      simp only [Reply.mk.injEq, Except.ok.injEq] at accepted
      obtain ⟨tree, stop⟩ := accepted
      subst tree stop
      simp only at shape
      subst shape
      refine ⟨[.number amount, .unit unit], ?_, .measurement amount unit⟩
      exact {
        rest := rfl
        depth := rfl
        within := Nat.zero_le _ }
  · simp at accepted

/-- A group is closed by the next token only, at the same depth. -/
theorem close_sound
    {inner expression : Expression}
    {parser next : Parser}
    (accepted : close inner parser = ⟨.ok expression, next⟩) :
    ∃ later,
      parser.rest = .closeBracket :: later ∧
        expression = inner.group ∧
        next = ⟨later, parser.depth⟩ := by
  unfold close at accepted
  split at accepted
  · simp at accepted
  · next later shape =>
      simp only [Reply.mk.injEq, Except.ok.injEq] at accepted
      exact ⟨later, shape, accepted.1.symm, accepted.2.symm⟩
  · simp at accepted

/-- What an accepted group takes, given that its content is read soundly. -/
theorem group_sound
    {later : List Token}
    {depth : Nat}
    {expression : Expression}
    {next : Parser}
    (contentSound : ChainSound ⟨later, depth + 1⟩)
    (accepted : group ⟨later, depth⟩ = ⟨.ok expression, next⟩) :
    ∃ taken,
      Took ⟨.openBracket :: later, depth⟩ taken next ∧
        TermForm taken expression := by
  rw [group_eq] at accepted
  by_cases beyond : nestingLimit < depth + 1
  · rw [if_pos beyond] at accepted
    simp at accepted
  · rw [if_neg beyond] at accepted
    cases shape : chain .start none ⟨later, depth + 1⟩ with
    | mk outcome stop =>
        cases outcome with
        | error fault =>
            simp [shape] at accepted
        | ok inner =>
            obtain ⟨taken, took, form, -⟩ := contentSound .start shape
            simp only [shape] at accepted
            obtain ⟨rest, closes, tree, final⟩ := close_sound accepted
            subst tree final
            exact ⟨_, took.group (Nat.le_of_not_lt beyond) form closes,
              .group form⟩

/-- What an accepted term takes, given that shorter chains are read soundly. -/
theorem term_sound
    {parser : Parser}
    (shorterSound :
      ∀ shorter : Parser,
        shorter.rest.length < parser.rest.length →
        ChainSound shorter)
    {expression : Expression}
    {next : Parser}
    (accepted : term parser = ⟨.ok expression, next⟩) :
    ∃ taken,
      Took parser taken next ∧ TermForm taken expression := by
  rcases parser with ⟨rest, depth⟩
  rw [term_eq] at accepted
  cases rest with
  | nil =>
      simp at accepted
  | cons token later =>
      cases token with
      | number amount =>
          exact measurement_sound accepted
      | openBracket =>
          exact group_sound (shorterSound _ (by simp)) accepted
      | closeBracket =>
          simp at accepted
      | plus =>
          simp at accepted
      | minus =>
          simp at accepted
      | unit lengthUnit =>
          simp at accepted

/-- A chain stops in front of a closing bracket behind a term only. -/
theorem move_stop
    {place : ChainPlace}
    {token : Token}
    (stops : move place token = .stop) :
    place = .afterTerm ∧ token = .closeBracket := by
  cases place <;> cases token <;> simp_all [move]

/-- An operator is taken up behind a term only. -/
theorem move_operator
    {place next : ChainPlace}
    {token : Token}
    (moves : move place token = .operator next) :
    place = .afterTerm ∧
      ∃ operator : Operator,
        token = operator.token ∧ next = operator.place := by
  cases place <;> cases token <;> simp only [move, reduceCtorEq] at moves
  · exact ⟨rfl, .plus, rfl, (Move.operator.inj moves).symm⟩
  · exact ⟨rfl, .minus, rfl, (Move.operator.inj moves).symm⟩

/-- A term is read only where one is expected. -/
theorem move_term
    {place : ChainPlace}
    {token : Token}
    (moves : move place token = .term) :
    place ≠ .afterTerm := by
  rintro rfl
  cases token <;> simp [move] at moves

/-- An operator behind a term is taken, and then the rest of the chain. -/
theorem operator_step_sound
    {operator : Operator}
    {later front : List Token}
    {depth : Nat}
    {left expression : Expression}
    {next : Parser}
    (restSound : ChainSound ⟨later, depth⟩)
    (leftForm : ChainForm front left)
    (accepted :
      chain operator.place (some left) ⟨later, depth⟩ =
        ⟨.ok expression, next⟩) :
    ∃ taken,
      Took ⟨operator.token :: later, depth⟩ taken next ∧
        ChainForm (front ++ taken) expression ∧
        EndsChain next.rest := by
  obtain ⟨taken, took, form, ends⟩ :=
    restSound (.afterOperator operator leftForm) accepted
  refine ⟨operator.token :: taken, took.operator operator, ?_, ends⟩
  simpa using form

/-- A term is taken where one is expected, and then the rest of the chain. -/
theorem term_step_sound
    {parser stop next : Parser}
    {place : ChainPlace}
    {parsed : Option Expression}
    {front : List Token}
    {result expression : Expression}
    (shorterSound :
      ∀ shorter : Parser,
        shorter.rest.length < parser.rest.length →
        ChainSound shorter)
    (reached : Reached place parsed front)
    (expected : place ≠ .afterTerm)
    (occupied : parser.rest ≠ [])
    (read : term parser = ⟨.ok result, stop⟩)
    (accepted :
      chain .afterTerm (some (combine place parsed result)) stop =
        ⟨.ok expression, next⟩) :
    ∃ taken,
      Took parser taken next ∧
        ChainForm (front ++ taken) expression ∧
        EndsChain next.rest := by
  obtain ⟨tokens, tookTerm, term⟩ := term_sound shorterSound read
  have fewer : stop.rest.length < parser.rest.length := by
    have bound := term_rest_length_le parser
    have positive := List.length_pos_iff.mpr occupied
    rw [read] at bound
    simp only at bound
    omega
  obtain ⟨taken, took, form, ends⟩ :=
    shorterSound stop fewer (.afterTerm (reached.join expected term)) accepted
  refine ⟨tokens ++ taken, tookTerm.trans term took, ?_, ends⟩
  simpa using form

/-- Every accepting reading of a chain takes the tokens of a chain. -/
theorem chain_sound (parser : Parser) : ChainSound parser := by
  -- A term and an operator both leave fewer tokens for the rest of the chain.
  induction size : parser.rest.length using Nat.strongRecOn
    generalizing parser with
  | ind length inductionHypothesis =>
      subst size
      have shorterSound (shorter : Parser)
          (less : shorter.rest.length < parser.rest.length) :
          ChainSound shorter :=
        inductionHypothesis _ less shorter rfl
      intro place parsed front expression next reached accepted
      rcases parser with ⟨rest, depth⟩
      rw [chain_eq] at accepted
      cases rest with
      | nil =>
          simp only [Reply.mk.injEq] at accepted
          obtain ⟨ended, stop⟩ := accepted
          subst stop
          refine ⟨[], .nothing _, ?_, .nil⟩
          simpa using reached.chainEnd_ok ended
      | cons token later =>
          cases moves : move place token with
          | stop =>
              simp only [moves, Reply.mk.injEq] at accepted
              obtain ⟨ended, stop⟩ := accepted
              obtain ⟨-, closes⟩ := move_stop moves
              subst stop closes
              refine ⟨[], .nothing _, ?_, .closeBracket later⟩
              simpa using reached.chainEnd_ok ended
          | refuse =>
              simp [moves] at accepted
          | operator after =>
              obtain ⟨behind, operator, tokenShape, afterShape⟩ :=
                move_operator moves
              subst behind tokenShape afterShape
              obtain ⟨left, parsedShape, leftForm⟩ := reached.behind_term rfl
              subst parsedShape
              simp only [moves] at accepted
              exact operator_step_sound
                (shorterSound ⟨later, depth⟩ (by simp)) leftForm accepted
          | term =>
              cases read : term ⟨token :: later, depth⟩ with
              | mk outcome stop =>
                  cases outcome with
                  | error fault =>
                      simp [moves, read] at accepted
                  | ok result =>
                      simp only [moves, read] at accepted
                      exact term_step_sound shorterSound reached
                        (move_term moves) (by simp) read accepted

end LengthCalc.Parser
