import LengthCalc.Proofs.LexicalExact
import LengthCalc.Proofs.ParserExact
import LengthCalc.Proofs.RunningTotals
import LengthCalc.Proofs.WrittenNesting

namespace LengthCalc

/-!
# Composed texts

Texts of expressions can be put together: a text behind an operator and in
brackets becomes the right operand of what stands in front of it, whatever
blanks, brackets and signs the two contain.  The scanner stands behind an
operand at the end of such a text, and so it goes on as from the start behind
the operator; the parser reads the brackets independently of what is around
them, as long as they leave room for one more level.
-/

mutual

/-- Behind a term an operator is expected. -/
theorem TermForm.run?_eq
    {tokens : List Token}
    {expression : Expression}
    (form : TermForm tokens expression) :
    TokenPlace.operand.run? tokens = some .operator := by
  match form with
  | .measurement amount unit =>
      rfl
  | @TermForm.group tokens inner chain =>
      have opened :
          TokenPlace.operand.run? (.openBracket :: tokens) =
            some .operator :=
        chain.run?_eq
      exact TokenPlace.run?_concat opened rfl

/-- Behind a chain an operator is expected. -/
theorem ChainForm.run?_eq
    {tokens : List Token}
    {expression : Expression}
    (form : ChainForm tokens expression) :
    TokenPlace.operand.run? tokens = some .operator := by
  match form with
  | .term term =>
      exact term.run?_eq
  | .operation operator chain term =>
      simp [TokenPlace.run?_append, TokenPlace.run?_cons, chain.run?_eq,
        term.run?_eq]

end

/-- The brackets of a spelled token are those of the token. -/
theorem Token.Spelled.nestingBefore_eq
    {token : Token}
    {lexeme : List Char}
    (spelled : token.Spelled lexeme)
    (nesting : Nat) :
    nestingBefore '(' ')' lexeme nesting =
      nestingStep .openBracket .closeBracket token nesting := by
  cases token with
  | openBracket =>
      cases spelled
      rfl
  | closeBracket =>
      cases spelled
      rfl
  | plus =>
      cases spelled
      rfl
  | minus =>
      cases spelled
      rfl
  | number value =>
      obtain ⟨number⟩ := spelled.numberShape
      refine nestingBefore_of_not_mem _ _ ?_ ?_ nesting
      · intro member
        simpa [InNumber] using number.inNumber '(' member
      · intro member
        simpa [InNumber] using number.inNumber ')' member
  | unit unit =>
      refine nestingBefore_of_not_mem _ _ ?_ ?_ nesting
      · intro member
        simpa using spelled.letters.2 '(' member
      · intro member
        simpa using spelled.letters.2 ')' member

/-- Blanks are not nested. -/
theorem nestingBefore_of_isBlank
    {characters : List Char}
    (blank : ∀ character ∈ characters, isBlank character = true)
    (nesting : Nat) :
    nestingBefore '(' ')' characters nesting = nesting := by
  refine nestingBefore_of_not_mem _ _ ?_ ?_ nesting
  · intro member
    have impossible := blank '(' member
    revert impossible
    decide
  · intro member
    have impossible := blank ')' member
    revert impossible
    decide

namespace Splitting

/-- A text nests its brackets as its tokens. -/
theorem nestingBefore_join
    (pieces : List Piece)
    (nesting : Nat) :
    nestingBefore '(' ')' (Piece.join pieces) nesting =
      nestingBefore .openBracket .closeBracket (pieces.map Piece.token)
        nesting := by
  induction pieces with
  | nil =>
      rfl
  | cons piece later inductionHypothesis =>
      rw [Piece.join_cons, nestingBefore_append, nestingBefore_append,
        nestingBefore_of_isBlank piece.blanks_blank,
        piece.spelled.nestingBefore_eq, inductionHypothesis]
      rfl

/-- The brackets of a text are nested as those of its tokens. -/
theorem nestingOf_characters (splitting : Splitting) :
    nestingOf '(' ')' splitting.characters =
      Token.nesting splitting.tokens := by
  rw [nestingOf, characters, nestingBefore_append,
    nestingBefore_of_isBlank splitting.ending_blank, nestingBefore_join]
  rfl

/-- A text that ends behind an operand is read so from wherever one begins. -/
theorem readsOperand
    (splitting : Splitting)
    (ends : TokenPlace.operand.run? splitting.tokens = some .operator) :
    Scanner.ReadsOperand splitting.characters splitting.tokens := by
  intro position found
  have stands :
      Scanner.StandsAt ⟨position, .start, found⟩ .operand found.toList :=
    ⟨[], .start, by simp⟩
  obtain ⟨behind, readPieces, standsBehind⟩ := stands.pieces ends
  obtain ⟨last, readEnding, standsLast⟩ :=
    standsBehind.blanks splitting.ending_blank
  refine ⟨last, ?_, standsLast.behind⟩
  rw [characters, Scanner.run_append_of_run readPieces, readEnding]

end Splitting

/-- Operands follow an operator without blanks, too. -/
theorem Scanner.ReadsOperand.joined
    {front back : List Char}
    {left right : List Token}
    (readsLeft : ReadsOperand front left)
    (operator : Operator)
    (readsRight : ReadsOperand back right) :
    ReadsOperand
      (front ++ operator.signChar :: back)
      (left ++ operator.token :: right) := by
  intro position found
  obtain ⟨ended, readLeft, behindLeft⟩ := readsLeft position found
  obtain ⟨place, completed, shape, readOperator⟩ :=
    behindLeft.operator operator
  obtain ⟨next, readRight, behindRight⟩ := readsRight place completed
  refine ⟨next, ?_, by simpa [shape] using behindRight⟩
  rw [run_append_of_run readLeft, run_cons_of_advance readOperator, readRight]

/-- What is known of a text that is read: its tokens and their structure. -/
structure Composable
    (text : String)
    (tokens : List Token)
    (expression : Expression) : Prop where
  reads : Scanner.ReadsOperand text.toList tokens
  form : ChainForm tokens expression
  nesting : bracketNesting text = Token.nesting tokens
  within : Token.nesting tokens ≤ nestingLimit

namespace Expression

/-- A text that is read may be composed. -/
theorem exists_composable
    {text : String}
    {expression : Expression}
    (read : ofText text = .ok expression) :
    ∃ tokens, Composable text tokens expression := by
  obtain ⟨tokens, scanned, form, within⟩ :=
    (ofText_eq_ok_iff text expression).mp read
  rw [tokenize_eq_ok_iff] at scanned
  obtain ⟨splitting, shape, rfl⟩ :=
    Scanner.exists_splitting_of_tokensOf scanned
  refine ⟨splitting.tokens, ?_, form, ?_, within⟩
  · rw [← shape]
    exact splitting.readsOperand form.run?_eq
  · rw [bracketNesting, ← shape, splitting.nestingOf_characters]

/-- Characters that are read as a chain are the text of its tree. -/
theorem ofText_of_reads
    {text : String}
    {tokens : List Token}
    {expression : Expression}
    (reads : Scanner.ReadsOperand text.toList tokens)
    (form : ChainForm tokens expression)
    (within : Token.nesting tokens ≤ nestingLimit) :
    ofText text = .ok expression := by
  have scanned := (tokenize_eq_ok_iff text tokens).mpr reads.tokensOf_eq
  exact (ofText_eq_ok_iff text expression).mpr
    ⟨tokens, scanned, form, within⟩

variable {first second : String}
variable {left right : Expression}

/-- A text in brackets is read as the group of its tree. -/
theorem ofText_bracketed
    (read : ofText second = .ok right)
    (within : bracketNesting second < nestingLimit) :
    ofText ("(" ++ second ++ ")") = .ok right.group := by
  obtain ⟨tokens, composable⟩ := exists_composable read
  rw [composable.nesting] at within
  have form : ChainForm _ right.group := .term (.group composable.form)
  refine ofText_of_reads ?_ form ?_
  · simpa using composable.reads.brackets
  · simp only [composable.form.nesting_append, Token.nesting_openBracket,
      Token.nesting_closeBracket, Token.nesting_nil]
    omega

/-- A text in brackets behind an operator becomes a right operand. -/
theorem ofText_joined
    (readFirst : ofText first = .ok left)
    (operator : Operator)
    (readSecond : ofText second = .ok right)
    (within : bracketNesting second < nestingLimit) :
    ofText (first ++ operator.sign ++ "(" ++ second ++ ")") =
      .ok (operator.join left right.group) := by
  obtain ⟨front, ofFirst⟩ := exists_composable readFirst
  obtain ⟨back, ofSecond⟩ := exists_composable readSecond
  rw [ofSecond.nesting] at within
  have form :=
    ChainForm.operation operator ofFirst.form (.group ofSecond.form)
  refine ofText_of_reads ?_ form ?_
  · have whole := ofFirst.reads.joined operator ofSecond.reads.brackets
    simpa [Operator.toList_sign] using whole
  · have frontWithin := ofFirst.within
    simp only [ofFirst.form.nesting_append, ofSecond.form.nesting_append,
      Token.nesting_operator, Token.nesting_openBracket,
      Token.nesting_closeBracket, Token.nesting_nil]
    omega

/--
Texts that are read can be put together: the second one, in brackets that still
fit into the nesting limit, is the right operand of the first one.  Brackets
around a text do not change its totals, and the composed text continues those
of the first one with the terms of the second one, a minus turning their signs.
-/
theorem ofText_composed
    (readFirst : ofText first = .ok left)
    (readSecond : ofText second = .ok right)
    (within : bracketNesting second < nestingLimit) :
    ofText (first ++ "+" ++ "(" ++ second ++ ")") =
        .ok (.addition left right.group) ∧
      ofText (first ++ "-" ++ "(" ++ second ++ ")") =
        .ok (.subtraction left right.group) ∧
      ofText ("(" ++ second ++ ")") = .ok right.group ∧
      right.group.totals = right.totals ∧
      (addition left right.group).totals =
        (left.totals.bind fun reached =>
          reached.continued right.signedTerms) ∧
      (subtraction left right.group).totals =
        (left.totals.bind fun reached =>
          reached.continued (turnSigns right.signedTerms)) := by
  refine ⟨ofText_joined readFirst .plus readSecond within,
    ofText_joined readFirst .minus readSecond within,
    ofText_bracketed readSecond within, totals_group right, ?_, ?_⟩
  · rw [totals_addition, signedTerms_group]
  · rw [totals_subtraction, signedTerms_group]

/-- An inch less a centimeter. -/
def inchDifference : Expression :=
  .subtraction
    (.ofAmount .one .inch)
    (.ofAmount .one .centimeter)

/-- A pixel less a negative half of a point. -/
def pixelDifference : Expression :=
  .subtraction
    (.ofAmount .one .pixel)
    (.ofAmount ⟨-5, 1, by decide, Decimal.one_scale_le⟩ .point)

/-- The text with double brackets is read as a difference in brackets. -/
theorem ofText_inchDifference :
    ofText " ((1in ))\t-1 CM " = .ok inchDifference := by
  have scanned :
      tokenize " ((1in ))\t-1 CM " =
        .ok [.openBracket, .openBracket, .number .one, .unit .inch,
          .closeBracket, .closeBracket, .minus, .number .one,
          .unit .centimeter] :=
    rfl
  have inch : ChainForm _ (.ofAmount .one .inch) :=
    .term (.group (.term (.group (.term (.measurement .one .inch)))))
  have form :=
    ChainForm.operation .minus inch (.measurement .one .centimeter)
  exact (ofText_eq_ok_iff _ _).mpr ⟨_, scanned, form, by decide⟩

/-- The text with two minuses is read as a difference in brackets. -/
theorem ofText_pixelDifference :
    ofText "(1px--.5pt)" = .ok pixelDifference.group := by
  have scanned :
      tokenize "(1px--.5pt)" =
        .ok [.openBracket, .number .one, .unit .pixel, .minus,
          .number ⟨-5, 1, by decide, Decimal.one_scale_le⟩, .unit .point,
          .closeBracket] :=
    rfl
  have content :=
    ChainForm.operation .minus (.term (.measurement .one .pixel))
      (.measurement ⟨-5, 1, by decide, Decimal.one_scale_le⟩ .point)
  exact (ofText_eq_ok_iff _ _).mpr
    ⟨_, scanned, .term (.group content), by decide⟩

/-- The brackets of the second text are redundant once it is composed. -/
theorem ofText_composed_differences :
    bracketNesting "(1px--.5pt)" < nestingLimit ∧
      ofText " ((1in ))\t-1 CM -((1px--.5pt))" =
        .ok (.subtraction inchDifference (.brackets pixelDifference)) ∧
      (subtraction inchDifference (.brackets pixelDifference)).totals =
        (inchDifference.totals.bind fun reached =>
          reached.continued (turnSigns pixelDifference.signedTerms)) := by
  have within : bracketNesting "(1px--.5pt)" < nestingLimit := by
    decide
  obtain ⟨-, difference, -, -, -, totals⟩ :=
    ofText_composed ofText_inchDifference ofText_pixelDifference within
  exact ⟨within, difference, totals⟩

end Expression

end LengthCalc
