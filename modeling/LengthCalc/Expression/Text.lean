import LengthCalc.Expression.Parser
import LengthCalc.Failure
import LengthCalc.Token.Scanner

namespace LengthCalc

/-!
# Reading expressions

From a text to its tokens, from tokens to a tree, and both in one.
-/

/-- The tokens of a text. -/
def tokenize (text : String) : Except Failure (List Token) :=
  match Scanner.tokensOf text.toList with
  | .ok tokens => .ok tokens
  | .error fault => .error (.lexical text fault.position fault.cause)

/-- A text has the tokens of its characters. -/
theorem tokenize_eq_ok_iff (text : String) (tokens : List Token) :
    tokenize text = .ok tokens ↔
      Scanner.tokensOf text.toList = .ok tokens := by
  unfold tokenize
  cases Scanner.tokensOf text.toList <;> simp

/-- A text without tokens has a lexical fault. -/
theorem exists_lexical_of_tokenize
    {text : String}
    {failure : Failure}
    (refused : tokenize text = .error failure) :
    ∃ position cause, failure = .lexical text position cause := by
  unfold tokenize at refused
  split at refused
  · cases refused
  · cases refused
    exact ⟨_, _, rfl⟩

namespace Expression

/-- The tree of a complete list of tokens. -/
def ofTokens (tokens : List Token) : Except Failure Expression :=
  match (Parser.ofTokens tokens).parse.outcome with
  | .ok expression => .ok expression
  | .error fault => .error (.syntactic fault)

/-- The tree of a text. -/
def ofText (text : String) : Except Failure Expression :=
  match tokenize text with
  | .ok tokens => ofTokens tokens
  | .error failure => .error failure

/-- A text with tokens is read as its tokens are. -/
theorem ofText_of_tokenize
    {text : String}
    {tokens : List Token}
    (scanned : tokenize text = .ok tokens) :
    ofText text = ofTokens tokens := by
  rw [ofText, scanned]

end Expression

end LengthCalc
