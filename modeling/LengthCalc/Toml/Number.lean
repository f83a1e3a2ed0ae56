import LengthCalc.Settings.Scalar

namespace LengthCalc

/-!
# Numbers of a setting file

Integers in four bases and binary numbers.  Underscores may stand between two
digits, and a decimal number has no superfluous zero in front.
-/

namespace Toml.Number

/-- Whether a character is an underscore or a decimal digit. -/
def isRunChar (character : Char) : Bool :=
  character.isDigit || character = '_'

/-- The digits in front of a point or an exponent. -/
def whole? (written : List Char) : Option (List Char) :=
  (digitRun? Char.isDigit written).filter fun digits =>
    digits.length = 1 || digits.head? != some '0'

/-- An integer that is small enough. -/
def word? (value : Int) : Option Scalar :=
  if Scalar.isWord value then some (.integer value) else none

/-- The integer of digits of a base. -/
def ofBase? (base : Nat) (written : List Char) : Option Scalar := do
  let digits ← digitRun? (fun digit => (digitIn? base digit).isSome) written
  let value ← digits.foldlM
    (fun value digit => (digitIn? base digit).map fun next =>
      value * base + next) 0
  word? value

/-- The exponent behind its letter. -/
def exponent? (written : List Char) : Option Int :=
  let (isNegative, unsigned) := splitSign written
  (digitRun? Char.isDigit unsigned).map fun digits =>
    if isNegative then -(digitsValue digits : Int) else digitsValue digits

/-- What is behind the letter of an exponent. -/
def afterLetter? : List Char → Option (List Char)
  | 'e' :: rest => some rest
  | 'E' :: rest => some rest
  | _ => none

/-- A binary number; it may be too small, but not too large. -/
def binary?
    (isNegative : Bool)
    (digits : List Char)
    (exponent : Int) :
    Option Scalar :=
  let value := Binary64.ofDecimal isNegative (digitsValue digits) exponent
  if value = .infinity false then none else some (.number value)

/-- The number of a whole part, a point with its digits, and an exponent. -/
def ofParts?
    (isNegative : Bool)
    (whole fraction rest : List Char) :
    Option Scalar :=
  let places : Int := fraction.length
  match rest with
  | [] => binary? isNegative (whole ++ fraction) (-places)
  | _ :: _ =>
      ((afterLetter? rest).bind exponent?).bind fun exponent =>
        binary? isNegative (whole ++ fraction) (exponent - places)

/-- The decimal number behind an optional sign. -/
def ofDecimal? (isNegative : Bool) (unsigned : List Char) : Option Scalar := do
  let whole ← whole? (unsigned.takeWhile isRunChar)
  match unsigned.dropWhile isRunChar with
  | [] =>
      let value : Int := digitsValue whole
      word? (if isNegative then -value else value)
  | '.' :: rest =>
      let fraction ← digitRun? Char.isDigit (rest.takeWhile isRunChar)
      ofParts? isNegative whole fraction (rest.dropWhile isRunChar)
  | rest => ofParts? isNegative whole [] rest

/-- The number that a word stands for. -/
def ofWord? (word : List Char) : Option Scalar :=
  match word with
  | '0' :: 'x' :: digits => ofBase? 16 digits
  | '0' :: 'o' :: digits => ofBase? 8 digits
  | '0' :: 'b' :: digits => ofBase? 2 digits
  | _ =>
      match splitSign word with
      | (isNegative, ['i', 'n', 'f']) =>
          some (.number (.infinity isNegative))
      | (_, ['n', 'a', 'n']) => some (.number .nan)
      | (isNegative, unsigned) => ofDecimal? isNegative unsigned

end Toml.Number

end LengthCalc
