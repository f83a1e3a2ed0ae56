import LengthCalc.Toml.Value

namespace LengthCalc

/-!
# Setting files

A file is a sequence of headers and assignments with comments between them.  A
header opens the table that the assignments behind it define keys in; a
repeatable header opens one more table of its name.
-/

namespace Toml

/-- What a file has defined so far, and the table that is open. -/
structure Document where
  table : Table := []
  place : List String := []

namespace Document

/-- Whether a character ends a line, or there is none. -/
def afterLine? (characters : List Char) : Option (List Char) :=
  match characters with
  | [] => some []
  | _ => afterBreak? characters

/-- What is behind the end of a line that has nothing but a comment left. -/
def endLine? (characters : List Char) : Option (List Char) :=
  match skipBlanks characters with
  | '#' :: comment => afterLine? (comment.dropWhile isCommentChar)
  | rest => afterLine? rest

/-- Open the table of a header, the brackets in front being read. -/
def readHeader?
    (document : Document)
    (change? : Option Node → Option Node)
    (closing characters : List Char) :
    Option (Document × List Char) :=
  match readKey? characters with
  | none => none
  | some (path, rest) =>
      if closing.isPrefixOf rest then
        match document.table.changeAt? change? path,
            endLine? (rest.drop closing.length) with
        | some table, some later => some (⟨table, path⟩, later)
        | _, _ => none
      else
        none

/-- Define what an assignment says. -/
def readEntry? (document : Document) (characters : List Char) :
    Option (Document × List Char) :=
  match readAssignment? (readValue? depthLimit) characters with
  | none => none
  | some ((path, node), rest) =>
      match document.table.defineIn? document.place path node,
          endLine? rest with
      | some table, some later => some (⟨table, document.place⟩, later)
      | _, _ => none

/-- Account for a header or an assignment and its line end. -/
def readItem? (document : Document) :
    List Char → Option (Document × List Char)
  | '[' :: '[' :: rest =>
      document.readHeader? Table.repeated? [']', ']'] rest
  | '[' :: rest => document.readHeader? Table.opened? [']'] rest
  | characters => document.readEntry? characters

/-- Account for all that follows; the fuel bounds the number of items. -/
def extend? (document : Document) :
    (fuel : Nat) → List Char → Option Document
  | 0, _ => none
  | fuel + 1, characters =>
      match skipLines false characters with
      | [] => some document
      | rest =>
          match document.readItem? rest with
          | none => none
          | some (next, later) => next.extend? fuel later

end Document

/-- A byte order mark. -/
def orderMark : Char :=
  '\uFEFF'

/-- The characters behind a byte order mark, if there is one in front. -/
def withoutMark : List Char → List Char
  | [] => []
  | first :: rest => if first = orderMark then rest else first :: rest

/--
The table that the characters of a file define, if they are well formed.  They
may begin with a byte order mark.
-/
def ofChars? (characters : List Char) : Option Table :=
  (Document.extend? {} (characters.length + 1) (withoutMark characters)).map
    fun document => document.table

end Toml

end LengthCalc
