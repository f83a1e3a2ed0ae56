import LengthCalc.Json.Basic
import LengthCalc.Text.Parts

namespace LengthCalc

/-!
# Reading JSON

The value of a JSON text.  Blanks may stand around every part, and nothing may
follow the value.
-/

namespace Json

/-- The characters behind the blanks in front. -/
def skipSpace (characters : List Char) : List Char :=
  characters.dropWhile isSpace

/-- A nonempty run of digits and what follows it. -/
def readDigits? (characters : List Char) : Option (List Char × List Char) :=
  match characters.takeWhile Char.isDigit with
  | [] => none
  | digits => some (digits, characters.dropWhile Char.isDigit)

/-- The integer part of a number: a zero, or digits that do not begin with one. -/
def readWhole? (characters : List Char) : Option (List Char × List Char) :=
  match characters with
  | '0' :: rest => some (['0'], rest)
  | _ => readDigits? characters

/-- The digits behind a point, if there is one. -/
def readFraction? : List Char → Option (List Char × List Char)
  | '.' :: rest => readDigits? rest
  | rest => some ([], rest)

/-- The digits of an exponent behind an optional sign. -/
def readSignedDigits? (characters : List Char) :
    Option ((Bool × List Char) × List Char) :=
  let (isNegative, unsigned) := splitSign characters
  (readDigits? unsigned).map fun (digits, rest) =>
    ((isNegative, digits), rest)

/-- The exponent of a number, if there is one. -/
def readExponent? : List Char → Option (Option (Bool × List Char) × List Char)
  | letter :: rest =>
      if letter = 'e' ∨ letter = 'E' then
        (readSignedDigits? rest).map fun (exponent, later) =>
          (some exponent, later)
      else
        some (none, letter :: rest)
  | [] => some (none, [])

/-- A number whose sign is known. -/
def readNumeral? (isNegative : Bool) (characters : List Char) :
    Option (Json × List Char) := do
  let (whole, rest) ← readWhole? characters
  let (fraction, rest) ← readFraction? rest
  let (exponent, rest) ← readExponent? rest
  return (.number ⟨isNegative, whole, fraction, exponent⟩, rest)

/-- A value that is neither an array nor an object. -/
def readScalar? : List Char → Option (Json × List Char)
  | 'n' :: 'u' :: 'l' :: 'l' :: rest => some (.null, rest)
  | 't' :: 'r' :: 'u' :: 'e' :: rest => some (.bool true, rest)
  | 'f' :: 'a' :: 'l' :: 's' :: 'e' :: rest => some (.bool false, rest)
  | '"' :: rest =>
      (Quoted.take? rest).map fun (written, later) => (.string written, later)
  | '-' :: rest => readNumeral? true rest
  | characters => readNumeral? false characters

/-- A name, a colon and a value. -/
def readField?
    (readPart? : List Char → Option (Json × List Char)) :
    List Char → Option ((List Char × Json) × List Char)
  | '"' :: rest =>
      match Quoted.take? rest with
      | none => none
      | some (name, afterName) =>
          match skipSpace afterName with
          | ':' :: afterColon =>
              (readPart? (skipSpace afterColon)).map fun (value, later) =>
                ((name, value), later)
          | _ => none
  | _ => none

/--
A value.  The fuel bounds the nesting of arrays and objects and the number of
their parts.
-/
def readValue? : (fuel : Nat) → List Char → Option (Json × List Char)
  | fuel + 1, '[' :: rest =>
      (readList? skipSpace (readValue? fuel) ']' fuel rest).map
        fun (items, later) => (.array items, later)
  | fuel + 1, '\x7b' :: rest =>
      (readList? skipSpace (readField? (readValue? fuel)) '\x7d' fuel rest).map
        fun (fields, later) => (.object fields, later)
  | _, characters => readScalar? characters

/-- The value of a complete text. -/
def read? (text : String) : Option Json :=
  let characters := skipSpace text.toList
  match readValue? characters.length characters with
  | none => none
  | some (value, rest) =>
      if (skipSpace rest).isEmpty then some value else none

end Json

end LengthCalc
