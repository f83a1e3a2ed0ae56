namespace LengthCalc

/-!
# Digits

The values of digits, and runs of digits with underscores between them.
-/

/-- The number that a decimal digit stands for. -/
def digitValue (digit : Char) : Nat :=
  digit.toNat - '0'.toNat

/-- The number that a run of decimal digits stands for. -/
def digitsValue (digits : List Char) : Nat :=
  digits.foldl (fun value digit => value * 10 + digitValue digit) 0

/-- The number that a hexadecimal digit stands for, in capitals or not. -/
def hexDigit? (character : Char) : Option Nat :=
  if character.isDigit then
    some (digitValue character)
  else if 'a' ≤ character && character ≤ 'f' then
    some (character.toNat - 'a'.toNat + 10)
  else if 'A' ≤ character && character ≤ 'F' then
    some (character.toNat - 'A'.toNat + 10)
  else
    none

/-- The number that a digit of a base up to sixteen stands for. -/
def digitIn? (base : Nat) (character : Char) : Option Nat :=
  (hexDigit? character).filter fun digit => digit < base

/-- The number of a nonempty list of decimal digits and nothing else. -/
def natural? (characters : List Char) : Option Nat :=
  if !characters.isEmpty && characters.all Char.isDigit then
    some (digitsValue characters)
  else
    none

/-- The number of decimal digits behind an optional plus. -/
def unsigned? : List Char → Option Nat
  | '+' :: digits => natural? digits
  | digits => natural? digits

/-- Whether a minus is in front, and what is behind an optional sign. -/
def splitSign : List Char → Bool × List Char
  | '-' :: rest => (true, rest)
  | '+' :: rest => (false, rest)
  | rest => (false, rest)

/-- The integer of an optional sign and decimal digits. -/
def signed? (characters : List Char) : Option Int :=
  let (isNegative, digits) := splitSign characters
  (natural? digits).map fun value =>
    if isNegative then -(value : Int) else value

/-- The digits of a nonempty run; an underscore stands between two of them. -/
def digitRun? (isDigit : Char → Bool) : List Char → Option (List Char)
  | [] => none
  | [digit] => if isDigit digit then some [digit] else none
  | digit :: '_' :: rest =>
      if isDigit digit then
        (digitRun? isDigit rest).map (digit :: ·)
      else
        none
  | digit :: rest =>
      if isDigit digit then
        (digitRun? isDigit rest).map (digit :: ·)
      else
        none

/-- A text with its capital ASCII letters made small. -/
def lowercase (text : String) : String :=
  String.ofList (text.toList.map Char.toLower)

end LengthCalc
