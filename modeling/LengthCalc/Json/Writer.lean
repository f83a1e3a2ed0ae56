import LengthCalc.Json.Basic

namespace LengthCalc

/-!
# Writing JSON

The compact form of a value, without blanks, and the indented form with one
item on each line and two blanks for each level.
-/

namespace Json

/-- Join texts with a separator between them. -/
def joinWith (separator : List Char) : List (List Char) → List Char
  | [] => []
  | [text] => text
  | text :: rest => text ++ separator ++ joinWith separator rest

mutual

/-- The compact text of a value. -/
def compact : Json → List Char
  | .null => ['n', 'u', 'l', 'l']
  | .bool true => ['t', 'r', 'u', 'e']
  | .bool false => ['f', 'a', 'l', 's', 'e']
  | .number numeral => numeral.toChars
  | .string written => Quoted.enclosed written
  | .array items => '[' :: joinWith [','] (compactItems items) ++ [']']
  | .object fields =>
      '\x7b' :: joinWith [','] (compactFields fields) ++ ['\x7d']

/-- The compact texts of items. -/
def compactItems : List Json → List (List Char)
  | [] => []
  | item :: rest => item.compact :: compactItems rest

/-- The compact texts of fields. -/
def compactFields : List (List Char × Json) → List (List Char)
  | [] => []
  | (name, value) :: rest =>
      (Quoted.enclosed name ++ ':' :: value.compact) :: compactFields rest

end

/-- A line break and the blanks of an indentation level. -/
def lineBreak (level : Nat) : List Char :=
  '\n' :: List.replicate (2 * level) ' '

/-- Put texts on lines of their own between an opening and a closing sign. -/
def block
    (level : Nat)
    (opening closing : Char)
    (texts : List (List Char)) :
    List Char :=
  if texts.isEmpty then
    [opening, closing]
  else
    opening :: lineBreak (level + 1) ++
      joinWith (',' :: lineBreak (level + 1)) texts ++
      lineBreak level ++ [closing]

mutual

/-- The indented text of a value at a level. -/
def indented (level : Nat) : Json → List Char
  | .array items => block level '[' ']' (indentedItems (level + 1) items)
  | .object fields =>
      block level '\x7b' '\x7d' (indentedFields (level + 1) fields)
  | .null => compact .null
  | .bool value => compact (.bool value)
  | .number numeral => compact (.number numeral)
  | .string written => compact (.string written)

/-- The indented texts of items. -/
def indentedItems (level : Nat) : List Json → List (List Char)
  | [] => []
  | item :: rest => item.indented level :: indentedItems level rest

/-- The indented texts of fields. -/
def indentedFields (level : Nat) : List (List Char × Json) → List (List Char)
  | [] => []
  | (name, value) :: rest =>
      (Quoted.enclosed name ++ ':' :: ' ' :: value.indented level) ::
        indentedFields level rest

end

/-- The compact text of a value. -/
def text (value : Json) : String :=
  String.ofList value.compact

/-- The indented text of a value. -/
def indentedText (value : Json) : String :=
  String.ofList (value.indented 0)

end Json

end LengthCalc
