import LengthCalc.Text.Parts
import LengthCalc.Toml.DateTime
import LengthCalc.Toml.Number
import LengthCalc.Toml.Quoted
import LengthCalc.Toml.Table

namespace LengthCalc

/-!
# Keys and values of a setting file

A key is one or more parts with points between them.  A value is a quoted text,
a list between brackets, a table between braces, or a word without quotes: a
truth value, a number, a date or a time.
-/

namespace Toml

/-- The deepest nesting of values, and the largest number of parts of a key. -/
def depthLimit : Nat :=
  79

/-- Whether a character may stand in a key without quotes. -/
def isBare (character : Char) : Bool :=
  character.isAlphanum || character = '_' || character = '-'

/-- Read one part of a key. -/
def readKeyPart? : List Char → Option (String × List Char)
  | [] => none
  | first :: rest =>
      match Quote.ofSign? first with
      | some quote => Quoted.readLine? quote rest
      | none =>
          match (first :: rest).takeWhile isBare with
          | [] => none
          | part =>
              some (String.ofList part, (first :: rest).dropWhile isBare)

/-- Read the parts of a key; the fuel bounds their number. -/
def readKeyParts? :
    (fuel : Nat) → List Char → Option (List String × List Char)
  | 0, _ => none
  | fuel + 1, characters =>
      match readKeyPart? (skipBlanks characters) with
      | none => none
      | some (part, rest) =>
          match skipBlanks rest with
          | '.' :: later =>
              (readKeyParts? fuel later).map fun (parts, remaining) =>
                (part :: parts, remaining)
          | remaining => some ([part], remaining)

/-- Read a key of one or more parts, and the blanks around it. -/
def readKey? (characters : List Char) : Option (List String × List Char) :=
  readKeyParts? depthLimit characters

/-- Whether a character may stand in a comment. -/
def isCommentChar (character : Char) : Bool :=
  32 ≤ character.toNat || character = '\t'

/--
The characters behind the blanks, line breaks and comments in front.  What a
comment must not hold is left where it stands.
-/
def skipLines (inComment : Bool) : List Char → List Char
  | [] => []
  | '\r' :: '\n' :: rest => skipLines false rest
  | character :: rest =>
      if character = '\n' then
        skipLines false rest
      else if inComment then
        if isCommentChar character then
          skipLines true rest
        else
          character :: rest
      else if isBlankInLine character then
        skipLines false rest
      else if character = '#' then
        skipLines true rest
      else
        character :: rest

/-- Whether a character belongs to a word without quotes. -/
def isWordChar (character : Char) : Bool :=
  isBare character || character = '+' || character = '.' || character = ':'

/-- Whether a blank in front stands between a date and a time. -/
def joinsTime (word rest : List Char) : Bool :=
  match rest with
  | ' ' :: next :: _ => next.isDigit && (Date.read? word).isSome
  | _ => false

/--
Read a word without quotes.  The blank between a date and a time belongs to it
and is replaced by the letter that else stands there.
-/
def readWord (characters : List Char) : List Char × List Char :=
  let word := characters.takeWhile isWordChar
  let rest := characters.dropWhile isWordChar
  if joinsTime word rest then
    (word ++ 'T' :: (rest.drop 1).takeWhile isWordChar,
      (rest.drop 1).dropWhile isWordChar)
  else
    (word, rest)

/-- The scalar that a word without quotes stands for. -/
def scalarOfWord? (word : List Char) : Option Scalar :=
  if word = ['t', 'r', 'u', 'e'] then
    some (.flag true)
  else if word = ['f', 'a', 'l', 's', 'e'] then
    some (.flag false)
  else
    (Number.ofWord? word) <|>
      (DateTime.ofWord? word).map fun time => .text time.text

/-- Read a value that is neither a list nor a table. -/
def readScalar? (characters : List Char) : Option (Scalar × List Char) :=
  match characters with
  | [] => none
  | first :: rest =>
      match Quote.ofSign? first with
      | some quote =>
          (Quoted.read? quote rest).map fun (text, later) =>
            (.text text, later)
      | none =>
          let (word, later) := readWord characters
          (scalarOfWord? word).map fun value => (value, later)

/-- Read a key, an equals sign and a value. -/
def readAssignment?
    (readValue? : List Char → Option (Node × List Char))
    (characters : List Char) :
    Option ((List String × Node) × List Char) :=
  match readKey? characters with
  | some (path, '=' :: rest) =>
      (readValue? (skipBlanks rest)).map fun (node, later) =>
        ((path, node), later)
  | _ => none

/-- Read a value whose lists and tables are nested at most to a limit. -/
def readValue? : (limit : Nat) → List Char → Option (Node × List Char)
  | limit + 1, '[' :: rest =>
      (readClosedParts? (skipLines false) (readValue? limit) ']'
        (rest.length + 1) rest).map fun (items, later) => (.list items, later)
  | limit + 1, '\x7b' :: rest =>
      match readList? skipBlanks (readAssignment? (readValue? limit)) '\x7d'
          (rest.length + 1) rest with
      | none => none
      | some (assignments, later) =>
          (Table.ofAssignments? assignments).map fun table =>
            (.table .inlined table, later)
  | _, characters =>
      (readScalar? characters).map fun (value, later) =>
        (.scalar value, later)

end Toml

end LengthCalc
