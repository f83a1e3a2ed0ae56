import LengthCalc.Proofs.CanonicalText
import LengthCalc.Proofs.ParserExact

namespace LengthCalc

/-!
# The trees that are read

The parser gives trees in normal form within the nesting limit, and each of
them: its measurements, operators and groups written down one after the other
are read as the same tree.  In such a tree the formatter calls itself for the
contents of groups only, so the nesting limit bounds its recursion.
-/

namespace Expression

/-- The tokens of a tree, with brackets around its groups and nowhere else. -/
def linearTokens : Expression → List Token
  | .measurement leaf => [.number leaf.amount, .unit leaf.unit]
  | .brackets inner => .openBracket :: (inner.linearTokens ++ [.closeBracket])
  | .addition left right => left.linearTokens ++ .plus :: right.linearTokens
  | .subtraction left right =>
      left.linearTokens ++ .minus :: right.linearTokens

/-- The tokens of two operands stand one behind the other. -/
theorem linearTokens_join
    (operator : Operator)
    (left right : Expression) :
    (operator.join left right).linearTokens =
      left.linearTokens ++ operator.token :: right.linearTokens := by
  cases operator <;> rfl

/-- The tokens of a tree in normal form stand for the tree itself. -/
theorem IsNormal.form
    {expression : Expression}
    (normal : expression.IsNormal) :
    ChainForm expression.linearTokens expression ∧
      (expression.isFactor = true →
        TermForm expression.linearTokens expression) := by
  induction expression using join_induction with
  | measurement leaf =>
      have single : TermForm [.number leaf.amount, .unit leaf.unit]
          (.measurement leaf) :=
        .measurement leaf.amount leaf.unit
      exact ⟨.term single, fun _ => single⟩
  | brackets inner inductionHypothesis =>
      have grouped := TermForm.group (inductionHypothesis normal.1).1
      rw [group_of_not_isFactor normal.2] at grouped
      exact ⟨.term grouped, fun _ => grouped⟩
  | join operator left right leftHypothesis rightHypothesis =>
      obtain ⟨leftNormal, rightNormal, factor⟩ :=
        (isNormal_join operator left right).mp normal
      have leftForm := (leftHypothesis leftNormal).1
      have rightForm := (rightHypothesis rightNormal).2 factor
      rw [linearTokens_join, isFactor_join]
      exact ⟨.operation operator leftForm rightForm, nofun⟩

/-- The brackets among the tokens of a tree nest as its groups do. -/
theorem nesting_linearTokens_append
    (expression : Expression)
    (later : List Token) :
    Token.nesting (expression.linearTokens ++ later) =
      max expression.groupDepth (Token.nesting later) := by
  induction expression using join_induction generalizing later with
  | measurement leaf =>
      simp [linearTokens, groupDepth]
  | brackets inner inductionHypothesis =>
      simp only [linearTokens, List.cons_append, List.append_assoc,
        List.nil_append, Token.nesting_openBracket, inductionHypothesis,
        Token.nesting_closeBracket, groupDepth]
      omega
  | join operator left right leftHypothesis rightHypothesis =>
      rw [linearTokens_join, List.append_assoc, List.cons_append,
        leftHypothesis, Token.nesting_operator, rightHypothesis,
        groupDepth_join, Nat.max_assoc]

/-- The brackets of the tokens are the groups of the tree. -/
theorem nesting_linearTokens (expression : Expression) :
    Token.nesting expression.linearTokens = expression.groupDepth := by
  have alone := expression.nesting_linearTokens_append []
  simpa using alone

end Expression

namespace FormatOptions

section Levels

variable (options : FormatOptions)
variable (content : Expression → Option String)

/-- The text of a measurement or a group, whose content is written first. -/
def factorText? : Expression → Option String
  | .measurement leaf => some (options.measurementText leaf)
  | .brackets inner => (content inner).map fun text => "(" ++ text ++ ")"
  | _ => none

/-- Write operations on measurements and groups behind a text. -/
def operationsText? (written : String) :
    List (Operator × Expression) → Option String
  | [] => some written
  | (operator, right) :: later =>
      match options.factorText? content right with
      | none => none
      | some text =>
          operationsText?
            (written ++ " " ++ operator.sign ++ " " ++
              operandText right text)
            later

/-- The text of one level of a tree, which is the chain outside all groups. -/
def levelText? (expression : Expression) : Option String :=
  (options.factorText? content (expression.chainOnto []).head).bind
    fun written =>
      options.operationsText? content written
        (expression.chainOnto []).operations

/-- Operations are written one behind the other, as far as the depth allows. -/
theorem operationsText?_append
    (written : String)
    (front back : List (Operator × Expression)) :
    options.operationsText? content written (front ++ back) =
      (options.operationsText? content written front).bind
        fun reached => options.operationsText? content reached back := by
  induction front generalizing written with
  | nil =>
      rfl
  | cons operation later inductionHypothesis =>
      rcases operation with ⟨operator, right⟩
      rw [List.cons_append, operationsText?, operationsText?]
      cases options.factorText? content right with
      | none => rfl
      | some text => exact inductionHypothesis _

/-- One more operation is written behind the level of its left operand. -/
theorem levelText?_join
    (operator : Operator)
    (left right : Expression) :
    options.levelText? content (operator.join left right) =
      (options.levelText? content left).bind fun written =>
        options.operationsText? content written [(operator, right)] := by
  rw [levelText?, Expression.chainOnto_join, levelText?, Option.bind_assoc]
  simp only [operationsText?_append]

variable {options content}
variable {limit : Nat}

/-- Factors are written out where the contents of groups are. -/
theorem factorText?_of_isNormal
    (writes :
      ∀ inner : Expression,
        inner.IsNormal →
        inner.groupDepth < limit →
        content inner = some (options.expressionText inner))
    {factor : Expression}
    (normal : factor.IsNormal)
    (within : factor.groupDepth ≤ limit)
    (isFactor : factor.isFactor = true) :
    options.factorText? content factor =
      some (options.expressionText factor) := by
  cases factor with
  | measurement leaf =>
      rw [factorText?, expressionText_measurement]
  | brackets inner =>
      rw [factorText?, writes inner normal.1 within, expressionText_brackets]
      rfl
  | addition left right => cases isFactor
  | subtraction left right => cases isFactor

/-- A level is written out where the contents of its groups are. -/
theorem levelText?_of_isNormal
    (writes :
      ∀ inner : Expression,
        inner.IsNormal →
        inner.groupDepth < limit →
        content inner = some (options.expressionText inner))
    {expression : Expression}
    (normal : expression.IsNormal)
    (within : expression.groupDepth ≤ limit) :
    options.levelText? content expression =
      some (options.expressionText expression) := by
  -- The induction is along the left operands; the right ones are factors.
  induction expression using Expression.join_induction with
  | measurement leaf =>
      exact congrArg (Option.bind · some)
        (factorText?_of_isNormal writes normal within rfl)
  | brackets inner _ =>
      exact congrArg (Option.bind · some)
        (factorText?_of_isNormal writes normal within rfl)
  | join operator left right leftHypothesis _ =>
      obtain ⟨leftNormal, rightNormal, factor⟩ :=
        (Expression.isNormal_join operator left right).mp normal
      rw [Expression.groupDepth_join] at within
      have leftWritten := leftHypothesis leftNormal (by omega)
      have rightWritten :=
        factorText?_of_isNormal writes rightNormal (by omega) factor
      rw [levelText?_join, leftWritten, expressionText_join]
      simp [operationsText?, rightWritten]

end Levels

/--
The text of a tree in which only groups are entered, and at most `depth` of
them at a time.
-/
def textWithin? (options : FormatOptions) :
    (depth : Nat) → Expression → Option String
  | 0 => options.levelText? fun _ => none
  | depth + 1 => options.levelText? (options.textWithin? depth)

/-- Trees in normal form are written by entering their groups only. -/
theorem textWithin?_of_isNormal
    (options : FormatOptions)
    {depth : Nat}
    {expression : Expression}
    (normal : expression.IsNormal)
    (within : expression.groupDepth ≤ depth) :
    options.textWithin? depth expression =
      some (options.expressionText expression) := by
  induction depth generalizing expression with
  | zero =>
      refine levelText?_of_isNormal ?_ normal within
      intro inner _ impossible
      exact (Nat.not_lt_zero _ impossible).elim
  | succ depth inductionHypothesis =>
      refine levelText?_of_isNormal ?_ normal within
      intro inner innerNormal innerWithin
      exact inductionHypothesis innerNormal (Nat.le_of_lt_succ innerWithin)

end FormatOptions

namespace Expression

/--
What is read from tokens is in normal form, has its groups nested at most
`nestingLimit` deep, and is written by entering these groups only.  Every such
tree is read from its own tokens, whatever its amounts are.
-/
theorem ofTokens_normal (expression : Expression) :
    (∀ tokens,
        ofTokens tokens = .ok expression →
        expression.IsNormal ∧
          expression.groupDepth ≤ nestingLimit ∧
          ∀ options : FormatOptions,
            options.textWithin? nestingLimit expression =
              some (options.expressionText expression)) ∧
      (expression.IsNormal →
        expression.groupDepth ≤ nestingLimit →
        ofTokens expression.linearTokens = .ok expression) := by
  constructor
  · intro tokens read
    obtain ⟨form, nested⟩ := (ofTokens_eq_ok_iff tokens expression).mp read
    have normal := form.isNormal
    have within := Nat.le_trans form.groupDepth_le nested
    exact ⟨normal, within, fun options =>
      options.textWithin?_of_isNormal normal within⟩
  · intro normal within
    rw [ofTokens_eq_ok_iff, nesting_linearTokens]
    exact ⟨normal.form.1, within⟩

end Expression

end LengthCalc
