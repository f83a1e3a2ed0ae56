import LengthCalc.Binary64.Text

namespace LengthCalc

/-!
# Scalar settings

A setting arrives as a truth value, an integer, a binary number or a text,
whatever its field wants.  Each kind of field converts all kinds of scalars
that make sense for it.
-/

/-- The value of a setting before it is converted. -/
inductive Scalar where
  | flag (value : Bool)
  | integer (value : Int)
  | number (value : Binary64)
  | text (value : String)
  deriving Repr, DecidableEq

namespace Scalar

/-- Whether an integer is small enough to be kept as such. -/
def isWord (value : Int) : Bool :=
  -(2 ^ 63) ≤ value && value < 2 ^ 63

/--
The scalar of the text of an environment variable: a truth value in any case,
else an integer, else a binary number, else the text itself.
-/
def ofVariable (value : String) : Scalar :=
  if lowercase value = "true" then
    .flag true
  else if lowercase value = "false" then
    .flag false
  else
    match (signed? value.toList).filter isWord with
    | some word => .integer word
    | none =>
        match Binary64.ofText? value with
        | some binary => .number binary
        | none => .text value

/-- A scalar as the value of a text field. -/
def toText : Scalar → String
  | .flag true => "true"
  | .flag false => "false"
  | .integer value => value.repr
  | .number value => value.text
  | .text value => value

/-- A word for a truth value. -/
def flagOfWord? (word : String) : Option Bool :=
  if word = "true" ∨ word = "on" ∨ word = "yes" then
    some true
  else if word = "false" ∨ word = "off" ∨ word = "no" then
    some false
  else
    none

/-- A scalar as the value of a truth field. -/
def toFlag? : Scalar → Option Bool
  | .flag value => some value
  | .integer value => some (value != 0)
  | .number value => some value.isNonzero
  | .text value =>
      let word := lowercase value
      if word = "1" then
        some true
      else if word = "0" then
        some false
      else
        flagOfWord? word

/-- The largest natural number of 64 bits. -/
def largestWord : Nat :=
  2 ^ 64 - 1

/-- A scalar as a natural number of 64 bits. -/
def toWord? : Scalar → Option Nat
  | .flag value => some value.toNat
  | .integer value =>
      if 0 ≤ value ∧ value.toNat ≤ largestWord then some value.toNat else none
  | .number value => some (value.toNatural largestWord)
  | .text value =>
      match flagOfWord? (lowercase value) with
      | some truth => some truth.toNat
      | none =>
          (unsigned? value.toList).filter fun number => number ≤ largestWord

/-- A scalar as the value of a field of natural numbers up to a bound. -/
def toNatural? (bound : Nat) (scalar : Scalar) : Option Nat :=
  scalar.toWord?.filter fun number => number ≤ bound

end Scalar

end LengthCalc
