import LengthCalc.Json.Number
import LengthCalc.Json.Quoted

namespace LengthCalc

/-!
# JSON values

The values of the JSON data format.  Numbers, strings and the names of fields
are kept as they are written, and the fields of an object are kept in their
order, repeated names included.
-/

/-- A JSON value. -/
inductive Json where
  | null
  | bool (value : Bool)
  | number (numeral : Numeral)
  /-- What is written between the quotes of a string. -/
  | string (written : List Char)
  | array (items : List Json)
  | object (fields : List (List Char × Json))
  deriving Inhabited

namespace Json

/-- The string of a text. -/
def ofText (text : String) : Json :=
  .string (Quoted.escaped text)

/-- The object of named values. -/
def ofFields (fields : List (String × Json)) : Json :=
  .object (fields.map fun (name, value) => (Quoted.escaped name, value))

/-- The text of a string. -/
def text? : Json → Option String
  | .string written => Quoted.text? written
  | _ => none

/-- Whether a character may stand between the parts of a JSON text. -/
def isSpace (character : Char) : Bool :=
  character = ' ' || character = '\n' || character = '\t' || character = '\r'

/-- The fields of an object with the meaning of their names. -/
def namedFields? : List (List Char × Json) → Option (List (String × Json))
  | [] => some []
  | (written, value) :: rest =>
      match Quoted.text? written, namedFields? rest with
      | some name, some later => some ((name, value) :: later)
      | _, _ => none

/-- The values that an object gives to a name, in order. -/
def valuesOf (name : String) (fields : List (String × Json)) : List Json :=
  fields.filterMap fun (other, value) =>
    if other = name then some value else none

end Json

end LengthCalc
