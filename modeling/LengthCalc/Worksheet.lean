import LengthCalc.Calculator

namespace LengthCalc

/-!
# Worksheets

Expressions are built up on a stack: they are read or written down as
measurements, joined, put into groups, and calculated in place.  A step that
fails leaves the worksheet as it is.
-/

/-- A stack of expressions, the top one first, and the calculator in use. -/
structure Worksheet where
  calculator : Calculator := {}
  stack : List Expression := []
  deriving Repr, DecidableEq, Inhabited

namespace Worksheet

/-- What can be done on a worksheet. -/
inductive Step where
  /-- Read an expression and put it on top. -/
  | read (text : String)
  /-- Put a measurement on top. -/
  | measure (measurement : Measurement)
  /-- Take another number format. -/
  | setOptions (options : FormatOptions)
  /-- Add the top expression up. -/
  | totals
  /-- Write the top expression. -/
  | pretty
  /-- Replace the top expression by its value in a unit. -/
  | calculate (target : String)
  /-- Put the top expression on top once more. -/
  | duplicate
  /-- Take the top expression away. -/
  | drop
  /-- Put the top expression into a group, unless it is a factor. -/
  | group
  /-- Put the top expression into brackets, whatever it is. -/
  | bracket
  /-- Replace the top expression by what is read back from its text. -/
  | reread
  /-- Add the two top expressions, the lower one being the left operand. -/
  | add
  /-- Subtract the two top expressions, the lower one being the left operand. -/
  | subtract
  /-- Exchange the two top expressions. -/
  | swap
  deriving Repr, DecidableEq

/-- What a step answers. -/
inductive Answer where
  /-- The stack has changed. -/
  | stacked
  /-- The number format has changed. -/
  | settled
  | totals (totals : Totals)
  | text (text : String)
  | result (amount : Decimal) (text : String)
  deriving Repr, DecidableEq

/-- Why a step is refused. -/
inductive Refusal where
  /-- There are too few expressions on the stack. -/
  | tooFew
  | failed (failure : Failure)
  deriving Repr, DecidableEq

/-- The worksheet with another stack. -/
def withStack
    (worksheet : Worksheet)
    (stack : List Expression) :
    Worksheet × Answer :=
  ({ worksheet with stack := stack }, .stacked)

/-- The outcome of a step that may fail in the calculator. -/
def attempt
    {α : Type}
    (outcome : Except Failure α)
    (use : α → Worksheet × Answer) :
    Except Refusal (Worksheet × Answer) :=
  match outcome with
  | .ok value => .ok (use value)
  | .error failure => .error (.failed failure)

/-- Do one step. -/
def step?
    (worksheet : Worksheet) :
    Step → Except Refusal (Worksheet × Answer)
  | .read text =>
      attempt (worksheet.calculator.analyze text) fun expression =>
        worksheet.withStack (expression :: worksheet.stack)
  | .measure measurement =>
      .ok (worksheet.withStack (.measurement measurement :: worksheet.stack))
  | .setOptions options =>
      .ok ({ worksheet with calculator := ⟨options⟩ }, .settled)
  | .totals =>
      match worksheet.stack with
      | top :: _ =>
          attempt top.totals fun totals => (worksheet, .totals totals)
      | [] => .error .tooFew
  | .pretty =>
      match worksheet.stack with
      | top :: _ => .ok (worksheet, .text (worksheet.calculator.pretty top))
      | [] => .error .tooFew
  | .calculate target =>
      match worksheet.stack with
      | top :: rest =>
          attempt (worksheet.calculator.calculate top target) fun result =>
            ({ worksheet with stack := .measurement result :: rest },
              .result result.amount
                (worksheet.calculator.resultText result))
      | [] => .error .tooFew
  | .duplicate =>
      match worksheet.stack with
      | top :: rest => .ok (worksheet.withStack (top :: top :: rest))
      | [] => .error .tooFew
  | .drop =>
      match worksheet.stack with
      | _ :: rest => .ok (worksheet.withStack rest)
      | [] => .error .tooFew
  | .group =>
      match worksheet.stack with
      | top :: rest => .ok (worksheet.withStack (top.group :: rest))
      | [] => .error .tooFew
  | .bracket =>
      match worksheet.stack with
      | top :: rest => .ok (worksheet.withStack (.brackets top :: rest))
      | [] => .error .tooFew
  | .reread =>
      match worksheet.stack with
      | top :: rest =>
          attempt
            (worksheet.calculator.analyze (worksheet.calculator.pretty top))
            fun expression => worksheet.withStack (expression :: rest)
      | [] => .error .tooFew
  | .add =>
      match worksheet.stack with
      | right :: left :: rest =>
          .ok (worksheet.withStack (.addition left right :: rest))
      | _ => .error .tooFew
  | .subtract =>
      match worksheet.stack with
      | right :: left :: rest =>
          .ok (worksheet.withStack (.subtraction left right :: rest))
      | _ => .error .tooFew
  | .swap =>
      match worksheet.stack with
      | right :: left :: rest =>
          .ok (worksheet.withStack (left :: right :: rest))
      | _ => .error .tooFew

end Worksheet

end LengthCalc
