import LengthCalc.Expression.Basic
import LengthCalc.Expression.Fault

namespace LengthCalc

/-!
# The parser

Reading a tree off a list of tokens by recursive descent:

* a chain is a term followed by any number of operators and terms, and its
  terms are combined from the left;
* a term is a number with its unit, or a group;
* a group is a chain between brackets.

A closing bracket ends a chain without being taken; the group that opened it
takes it.  The parser is left where a reading stopped, also after a failure, so
that it can be asked again.
-/

/-- The tokens that are left and the number of brackets that were opened. -/
structure Parser where
  rest : List Token
  depth : Nat
  deriving Repr, DecidableEq

namespace Parser

/-- The parser before the first token. -/
def ofTokens (tokens : List Token) : Parser :=
  ⟨tokens, 0⟩

/-- What a reading gives and where it leaves the parser. -/
structure Reply where
  outcome : Except SyntaxFault Expression
  parser : Parser

/-- What a chain does with the token before it. -/
inductive Move where
  | stop
  | operator (place : ChainPlace)
  | term
  | refuse
  deriving Repr, DecidableEq

/-- The move for a token at a place of a chain. -/
def move : ChainPlace → Token → Move
  | .afterTerm, .closeBracket => .stop
  | .afterTerm, .plus => .operator .afterPlus
  | .afterTerm, .minus => .operator .afterMinus
  | .afterTerm, _ => .refuse
  | _, .number _ => .term
  | _, .openBracket => .term
  | _, _ => .refuse

/-- Join a term to what was read of its chain. -/
def combine :
    ChainPlace → Option Expression → Expression → Expression
  | .afterPlus, some left, term => .addition left term
  | .afterMinus, some left, term => .subtraction left term
  | _, _, term => term

/-- The outcome of a chain that ends at a place. -/
def chainEnd :
    ChainPlace → Option Expression → Except SyntaxFault Expression
  | .afterTerm, some expression => .ok expression
  | place, _ => .error (.chainEnds place)

/-- Read the unit that belongs to a number. -/
def measurement (amount : Decimal) (parser : Parser) : Reply :=
  match parser.rest with
  | [] =>
      ⟨.error (.unitMissing amount), parser⟩
  | .unit lengthUnit :: later =>
      ⟨.ok (.ofAmount amount lengthUnit), { parser with rest := later }⟩
  | token :: later =>
      ⟨.error (.notUnit amount token), { parser with rest := later }⟩

/-- Read the bracket that closes a group. -/
def close (inner : Expression) (parser : Parser) : Reply :=
  match parser.rest with
  | [] =>
      ⟨.error .closingMissing, parser⟩
  | .closeBracket :: later =>
      ⟨.ok inner.group, { parser with rest := later }⟩
  | token :: later =>
      ⟨.error (.notClosing token), { parser with rest := later }⟩

/-- Reading a unit gives no token back. -/
theorem measurement_rest_length_le (amount : Decimal) (parser : Parser) :
    (measurement amount parser).parser.rest.length ≤ parser.rest.length := by
  unfold measurement
  split <;> simp_all

/-- Reading a closing bracket gives no token back. -/
theorem close_rest_length_le (inner : Expression) (parser : Parser) :
    (close inner parser).parser.rest.length ≤ parser.rest.length := by
  unfold close
  split <;> simp_all

/-- Dropping a token leaves one less. -/
theorem length_le_of_cons (token : Token) (later : List Token) :
    later.length ≤ (token :: later).length - 1 :=
  Nat.le_refl later.length

/-- A reply that leaves at most the given number of tokens. -/
abbrev ReplyWithin (length : Nat) : Type :=
  { reply : Reply // reply.parser.rest.length ≤ length }

mutual

/-- Read a chain from a place in it, with a proof that no token comes back. -/
def chainWithin
    (place : ChainPlace)
    (parsed : Option Expression)
    (parser : Parser) :
    ReplyWithin parser.rest.length :=
  match shape : parser.rest with
  | [] =>
      ⟨⟨chainEnd place parsed, parser⟩, by simp [shape]⟩
  | token :: later =>
      match move place token with
      | .stop =>
          ⟨⟨chainEnd place parsed, parser⟩, by simp [shape]⟩
      | .operator next =>
          let reply :=
            chainWithin next parsed { parser with rest := later }
          ⟨reply.val, Nat.le_succ_of_le reply.property⟩
      | .term =>
          match termWithin parser with
          | ⟨⟨.error fault, next⟩, within⟩ =>
              ⟨⟨.error fault, next⟩, by
                simp only [shape, List.length_cons] at within ⊢
                omega⟩
          | ⟨⟨.ok term, next⟩, within⟩ =>
              let reply :=
                chainWithin .afterTerm (some (combine place parsed term)) next
              ⟨reply.val, by
                have bound := reply.property
                simp only [shape, List.length_cons] at within ⊢
                omega⟩
      | .refuse =>
          ⟨⟨.error (.misplaced token place), parser⟩, by simp [shape]⟩
termination_by (parser.rest.length, 1)
decreasing_by
  · exact Prod.Lex.left _ _ (by simp [shape])
  · exact Prod.Lex.right _ (by decide)
  · exact Prod.Lex.left _ _ (Nat.lt_of_le_of_lt within (by simp [shape]))

/-- Read a term, with a proof that a token is taken if there is one. -/
def termWithin (parser : Parser) : ReplyWithin (parser.rest.length - 1) :=
  match shape : parser.rest with
  | [] =>
      ⟨⟨.error .termMissing, parser⟩, by simp [shape]⟩
  | .number amount :: later =>
      ⟨measurement amount { parser with rest := later },
        measurement_rest_length_le amount { parser with rest := later }⟩
  | .openBracket :: later =>
      groupWithin { parser with rest := later }
  | token :: later =>
      ⟨⟨.error (.notTerm token), { parser with rest := later }⟩,
        length_le_of_cons token later⟩
termination_by (parser.rest.length, 0)
decreasing_by
  exact Prod.Lex.left _ _ (by simp [shape])

/-- Read a group behind its opening bracket; no token comes back. -/
def groupWithin (parser : Parser) : ReplyWithin parser.rest.length :=
  let opened := { parser with depth := parser.depth + 1 }
  if nestingLimit < opened.depth then
    ⟨⟨.error .tooDeep, opened⟩, Nat.le_refl _⟩
  else
    match chainWithin .start none opened with
    | ⟨⟨.error fault, next⟩, within⟩ =>
        ⟨⟨.error fault, next⟩, within⟩
    | ⟨⟨.ok inner, next⟩, within⟩ =>
        ⟨close inner { next with depth := next.depth - 1 },
          Nat.le_trans (close_rest_length_le _ _) within⟩
termination_by (parser.rest.length, 2)
decreasing_by
  exact Prod.Lex.right _ (by decide)

end

/-- Read a chain from a place in it. -/
def chain
    (place : ChainPlace)
    (parsed : Option Expression)
    (parser : Parser) :
    Reply :=
  (chainWithin place parsed parser).val

/-- Read a term. -/
def term (parser : Parser) : Reply :=
  (termWithin parser).val

/-- Read a group behind its opening bracket. -/
def group (parser : Parser) : Reply :=
  (groupWithin parser).val

/-- Read one complete expression; nothing may follow it. -/
def parse (parser : Parser) : Reply :=
  let reply := chain .start none parser
  match reply.outcome, reply.parser.rest with
  | .ok _, token :: _ => ⟨.error (.leftover token), reply.parser⟩
  | _, _ => reply

/-- Read again and again, each time from where the last reading stopped. -/
def parseRepeatedly :
    (times : Nat) →
      Parser →
      List (Except SyntaxFault Expression)
  | 0, _ => []
  | times + 1, parser =>
      let reply := parser.parse
      reply.outcome :: parseRepeatedly times reply.parser

/-- How a chain reads one token and goes on. -/
theorem chain_eq
    (place : ChainPlace)
    (parsed : Option Expression)
    (parser : Parser) :
    chain place parsed parser =
      match parser.rest with
      | [] => ⟨chainEnd place parsed, parser⟩
      | token :: later =>
          match move place token with
          | .stop => ⟨chainEnd place parsed, parser⟩
          | .operator next => chain next parsed { parser with rest := later }
          | .term =>
              match term parser with
              | ⟨.error fault, next⟩ => ⟨.error fault, next⟩
              | ⟨.ok expression, next⟩ =>
                  chain .afterTerm
                    (some (combine place parsed expression)) next
          | .refuse => ⟨.error (.misplaced token place), parser⟩ := by
  rcases parser with ⟨rest, depth⟩
  rw [chain, chainWithin]
  cases rest with
  | nil =>
      rfl
  | cons token later =>
      cases moveShape : move place token with
      | stop =>
          simp [moveShape]
      | operator next =>
          simp [moveShape, chain]
      | refuse =>
          simp [moveShape]
      | term =>
          simp only [moveShape, term]
          split <;> rename_i reply <;> simp [reply, chain]

/-- How a term is read. -/
theorem term_eq (parser : Parser) :
    term parser =
      match parser.rest with
      | [] => ⟨.error .termMissing, parser⟩
      | .number amount :: later =>
          measurement amount { parser with rest := later }
      | .openBracket :: later => group { parser with rest := later }
      | token :: later =>
          ⟨.error (.notTerm token), { parser with rest := later }⟩ := by
  rcases parser with ⟨rest, depth⟩
  rw [term, termWithin]
  cases rest with
  | nil =>
      rfl
  | cons token later =>
      cases token <;> rfl

/-- How a group is read. -/
theorem group_eq (parser : Parser) :
    group parser =
      if nestingLimit < parser.depth + 1 then
        ⟨.error .tooDeep, { parser with depth := parser.depth + 1 }⟩
      else
        match chain .start none { parser with depth := parser.depth + 1 } with
        | ⟨.error fault, next⟩ => ⟨.error fault, next⟩
        | ⟨.ok inner, next⟩ =>
            close inner { next with depth := next.depth - 1 } := by
  rw [group, groupWithin]
  split
  · rfl
  · rw [chain]
    split <;> rename_i reply <;> simp [reply]

/-- Reading a term takes a token if there is one. -/
theorem term_rest_length_le (parser : Parser) :
    (term parser).parser.rest.length ≤ parser.rest.length - 1 :=
  (termWithin parser).property

end Parser

end LengthCalc
