import LengthCalc.Expression.Parser
import LengthCalc.Proofs.Grammar

namespace LengthCalc

/-!
# The parser reads the grammar

In front of the tokens of a chain, the parser reads exactly these tokens and
goes on behind the tree that they stand for, as long as their brackets stay
within the nesting limit.  Beyond the limit it reports that and nothing else.
-/

/-- The place behind an operator. -/
def Operator.place : Operator → ChainPlace
  | .plus => .afterPlus
  | .minus => .afterMinus

@[simp] theorem Operator.place_ne_afterTerm (operator : Operator) :
    operator.place ≠ .afterTerm := by
  cases operator <;> simp [place]

namespace Parser

@[simp] theorem combine_place
    (operator : Operator)
    (left term : Expression) :
    combine operator.place (some left) term = operator.join left term := by
  cases operator <;> rfl

/-- Behind a term an operator tells how the next one is taken up. -/
theorem chain_operator
    (operator : Operator)
    (left : Expression)
    (later : List Token)
    (depth : Nat) :
    chain .afterTerm (some left) ⟨operator.token :: later, depth⟩ =
      chain operator.place (some left) ⟨later, depth⟩ := by
  rw [chain_eq]
  cases operator <;> rfl

/-- Behind a term a closing bracket ends the chain and is left to be read. -/
theorem chain_closeBracket
    (left : Expression)
    (later : List Token)
    (depth : Nat) :
    chain .afterTerm (some left) ⟨.closeBracket :: later, depth⟩ =
      ⟨.ok left, ⟨.closeBracket :: later, depth⟩⟩ := by
  rw [chain_eq]
  rfl

/-- Behind a term the tokens may end the chain. -/
theorem chain_nil (left : Expression) (depth : Nat) :
    chain .afterTerm (some left) ⟨[], depth⟩ = ⟨.ok left, ⟨[], depth⟩⟩ := by
  rw [chain_eq]
  rfl

/-- The first token of a term is taken for one wherever a term is expected. -/
theorem move_of_termForm
    {tokens : List Token}
    {expression : Expression}
    (form : TermForm tokens expression)
    {place : ChainPlace}
    (expected : place ≠ .afterTerm) :
    ∃ token later,
      tokens = token :: later ∧ move place token = .term := by
  cases form with
  | measurement amount unit =>
      refine ⟨_, _, rfl, ?_⟩
      cases place <;> simp_all [move]
  | group chain =>
      refine ⟨_, _, rfl, ?_⟩
      cases place <;> simp_all [move]

/-- A term that is read where one is expected is joined to its chain. -/
theorem chain_of_read
    {place : ChainPlace}
    {token : Token}
    (moves : move place token = .term)
    (parsed : Option Expression)
    {later : List Token}
    {depth : Nat}
    {result : Expression}
    {next : Parser}
    (read : term ⟨token :: later, depth⟩ = ⟨.ok result, next⟩) :
    chain place parsed ⟨token :: later, depth⟩ =
      chain .afterTerm (some (combine place parsed result)) next := by
  rw [chain_eq]
  simp only [moves, read]

/-- A term that is refused ends its chain with the same fault. -/
theorem chain_of_refused
    {place : ChainPlace}
    {token : Token}
    (moves : move place token = .term)
    (parsed : Option Expression)
    {later : List Token}
    {depth : Nat}
    {fault : SyntaxFault}
    {next : Parser}
    (refused : term ⟨token :: later, depth⟩ = ⟨.error fault, next⟩) :
    chain place parsed ⟨token :: later, depth⟩ = ⟨.error fault, next⟩ := by
  rw [chain_eq]
  simp only [moves, refused]

/-- Where a term is expected, the chain takes it up and stands behind it. -/
theorem chain_of_term_ok
    {tokens later : List Token}
    {expression result : Expression}
    (form : TermForm tokens expression)
    {place : ChainPlace}
    (expected : place ≠ .afterTerm)
    (parsed : Option Expression)
    {depth : Nat}
    {next : Parser}
    (read : term ⟨tokens ++ later, depth⟩ = ⟨.ok result, next⟩) :
    chain place parsed ⟨tokens ++ later, depth⟩ =
      chain .afterTerm (some (combine place parsed result)) next := by
  obtain ⟨token, rest, rfl, moves⟩ := move_of_termForm form expected
  exact chain_of_read moves parsed read

/-- Where a term is expected, its fault is the fault of the chain. -/
theorem chain_of_term_error
    {tokens later : List Token}
    {expression : Expression}
    (form : TermForm tokens expression)
    {place : ChainPlace}
    (expected : place ≠ .afterTerm)
    (parsed : Option Expression)
    {depth : Nat}
    {fault : SyntaxFault}
    (refused : (term ⟨tokens ++ later, depth⟩).outcome = .error fault) :
    (chain place parsed ⟨tokens ++ later, depth⟩).outcome = .error fault := by
  obtain ⟨token, rest, rfl, moves⟩ := move_of_termForm form expected
  obtain ⟨next, read⟩ :
      ∃ next,
        term ⟨token :: (rest ++ later), depth⟩ = ⟨.error fault, next⟩ :=
    ⟨_, by rw [← refused]; rfl⟩
  exact congrArg Reply.outcome (chain_of_refused moves parsed read)

/-- The fault of a chain in brackets is the fault of the brackets. -/
theorem group_of_chain_error
    {tokens : List Token}
    {depth : Nat}
    {fault : SyntaxFault}
    (within : depth + 1 ≤ nestingLimit)
    (refused :
      (chain .start none ⟨tokens, depth + 1⟩).outcome = .error fault) :
    (group ⟨tokens, depth⟩).outcome = .error fault := by
  rw [group_eq, if_neg (by simp only; omega)]
  split
  · simp_all
  · simp_all

mutual

/--
The tokens of a term are read as the term if their brackets are not too deep.
-/
theorem term_of_form
    {tokens : List Token}
    {expression : Expression}
    (form : TermForm tokens expression)
    (later : List Token)
    (depth : Nat)
    (within : Token.nesting tokens ≤ nestingLimit - depth) :
    term ⟨tokens ++ later, depth⟩ = ⟨.ok expression, ⟨later, depth⟩⟩ := by
  match form with
  | .measurement amount unit =>
      rw [term_eq]
      rfl
  | @TermForm.group tokens inner content =>
      have alone := content.nesting_append [.closeBracket]
      simp only [Token.nesting_openBracket, alone] at within
      have read :=
        chain_of_form content (.closeBracket :: later) (depth + 1) (by omega)
      rw [term_eq]
      simp only [List.cons_append, List.append_assoc, List.nil_append]
      rw [group_eq, if_neg (by simp only; omega), read, chain_closeBracket]
      rfl

/-- A chain within the nesting limit is read as its tree. -/
theorem chain_of_form
    {tokens : List Token}
    {expression : Expression}
    (form : ChainForm tokens expression)
    (later : List Token)
    (depth : Nat)
    (within : Token.nesting tokens ≤ nestingLimit - depth) :
    chain .start none ⟨tokens ++ later, depth⟩ =
      chain .afterTerm (some expression) ⟨later, depth⟩ := by
  match form with
  | .term first =>
      exact chain_of_term_ok first (by decide) none
        (term_of_form first later depth within)
  | @ChainForm.operation operator front back left right content last =>
      rw [content.nesting_append, Token.nesting_operator] at within
      have readLeft :=
        chain_of_form content (operator.token :: (back ++ later)) depth
          (by omega)
      have readRight := term_of_form last later depth (by omega)
      rw [List.append_assoc, List.cons_append, readLeft, chain_operator,
        chain_of_term_ok last operator.place_ne_afterTerm _ readRight,
        combine_place]

end

mutual

/-- The tokens of a term are refused if their brackets are too deep. -/
theorem term_tooDeep_of_form
    {tokens : List Token}
    {expression : Expression}
    (form : TermForm tokens expression)
    (later : List Token)
    (depth : Nat)
    (beyond : nestingLimit - depth < Token.nesting tokens) :
    (term ⟨tokens ++ later, depth⟩).outcome = .error .tooDeep := by
  match form with
  | .measurement amount unit =>
      simp only [Token.nesting_number, Token.nesting_unit,
        Token.nesting_nil] at beyond
      omega
  | @TermForm.group tokens inner content =>
      have alone := content.nesting_append [.closeBracket]
      simp only [Token.nesting_openBracket, alone,
        Token.nesting_closeBracket, Token.nesting_nil] at beyond
      rw [term_eq]
      simp only [List.cons_append, List.append_assoc, List.nil_append]
      by_cases atLimit : nestingLimit < depth + 1
      · rw [group_eq, if_pos atLimit]
      · exact group_of_chain_error (by omega)
          (chain_tooDeep_of_form content (.closeBracket :: later) (depth + 1)
            (by omega))

/-- A chain beyond the nesting limit is refused for its nesting. -/
theorem chain_tooDeep_of_form
    {tokens : List Token}
    {expression : Expression}
    (form : ChainForm tokens expression)
    (later : List Token)
    (depth : Nat)
    (beyond : nestingLimit - depth < Token.nesting tokens) :
    (chain .start none ⟨tokens ++ later, depth⟩).outcome =
      .error .tooDeep := by
  match form with
  | .term first =>
      exact chain_of_term_error first (by decide) none
        (term_tooDeep_of_form first later depth beyond)
  | @ChainForm.operation operator front back left right content last =>
      rw [content.nesting_append, Token.nesting_operator] at beyond
      rw [List.append_assoc, List.cons_append]
      by_cases leftBeyond : nestingLimit - depth < Token.nesting front
      · exact chain_tooDeep_of_form content _ depth leftBeyond
      · rw [chain_of_form content _ depth (by omega), chain_operator]
        exact chain_of_term_error last operator.place_ne_afterTerm _
          (term_tooDeep_of_form last later depth (by omega))

end

end Parser

end LengthCalc
