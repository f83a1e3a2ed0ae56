import LengthCalc.Text.Digit

namespace LengthCalc

/-!
# Quoted text

A JSON string is written between quotes: quotes, backslashes and control
characters as escapes, every other character as itself.  Reading has two steps.
The first takes the characters up to the closing quote and only looks at the
form of the escapes; the second gives their meaning, which there is none of for
half of a character beyond the basic plane.
-/

namespace Json.Quoted

/-- The lowercase hexadecimal digits of a control character. -/
def controlEscape (character : Char) : List Char :=
  ['\\', 'u', '0', '0', Nat.digitChar (character.toNat / 16),
    Nat.digitChar (character.toNat % 16)]

/-- A character as it is written inside quotes. -/
def escape (character : Char) : List Char :=
  match character with
  | '"' => ['\\', '"']
  | '\\' => ['\\', '\\']
  | '\x08' => ['\\', 'b']
  | '\t' => ['\\', 't']
  | '\n' => ['\\', 'n']
  | '\x0c' => ['\\', 'f']
  | '\r' => ['\\', 'r']
  | other => if other.toNat < 32 then controlEscape other else [other]

/-- A text as it is written inside quotes. -/
def escaped (text : String) : List Char :=
  text.toList.flatMap escape

/-- What is written inside quotes with the quotes around it. -/
def enclosed (written : List Char) : List Char :=
  '"' :: written ++ ['"']

/-- The character that a letter behind a backslash stands for. -/
def simpleEscape? : Char → Option Char
  | '"' => some '"'
  | '\\' => some '\\'
  | '/' => some '/'
  | 'b' => some '\x08'
  | 'f' => some '\x0c'
  | 'n' => some '\n'
  | 'r' => some '\r'
  | 't' => some '\t'
  | _ => none

/-- The value of four hexadecimal digits. -/
def hexUnit? (a b c d : Char) : Option Nat := do
  let a ← hexDigit? a
  let b ← hexDigit? b
  let c ← hexDigit? c
  let d ← hexDigit? d
  return ((a * 16 + b) * 16 + c) * 16 + d

/-- Put characters in front of what was taken. -/
def prepend
    (characters : List Char)
    (taken : Option (List Char × List Char)) :
    Option (List Char × List Char) :=
  taken.map fun (written, rest) => (characters ++ written, rest)

/--
Take what is written up to the closing quote, the opening one being read, and
give the characters behind it.
-/
def take? : List Char → Option (List Char × List Char)
  | [] => none
  | '"' :: rest => some ([], rest)
  | '\\' :: 'u' :: a :: b :: c :: d :: rest =>
      match hexUnit? a b c d with
      | none => none
      | some _ => prepend ['\\', 'u', a, b, c, d] (take? rest)
  | '\\' :: letter :: rest =>
      match simpleEscape? letter with
      | none => none
      | some _ => prepend ['\\', letter] (take? rest)
  | character :: rest =>
      if character.toNat < 32 then
        none
      else
        prepend [character] (take? rest)

/-- Whether a unit is the first half of a character beyond the basic plane. -/
def isLeading (unit : Nat) : Bool :=
  0xD800 ≤ unit && unit < 0xDC00

/-- Whether a unit is the second half of a character beyond the basic plane. -/
def isTrailing (unit : Nat) : Bool :=
  0xDC00 ≤ unit && unit < 0xE000

/-- The character whose halves are given. -/
def joined (leading trailing : Nat) : Char :=
  Char.ofNat (0x10000 + (leading - 0xD800) * 0x400 + (trailing - 0xDC00))

/-- The characters that are meant by what is written inside quotes. -/
def meaning? : List Char → Option (List Char)
  | [] => some []
  | '\\' :: 'u' :: a :: b :: c :: d :: rest =>
      match hexUnit? a b c d with
      | none => none
      | some unit =>
          if isTrailing unit then
            none
          else if isLeading unit then
            match rest with
            | '\\' :: 'u' :: a :: b :: c :: d :: later =>
                match (hexUnit? a b c d).filter isTrailing with
                | none => none
                | some trailing =>
                    (meaning? later).map (joined unit trailing :: ·)
            | _ => none
          else
            (meaning? rest).map (Char.ofNat unit :: ·)
  | '\\' :: letter :: rest =>
      match simpleEscape? letter with
      | none => none
      | some character => (meaning? rest).map (character :: ·)
  | character :: rest => (meaning? rest).map (character :: ·)

/-- The text that is meant by what is written inside quotes. -/
def text? (written : List Char) : Option String :=
  (meaning? written).map String.ofList

end Json.Quoted

end LengthCalc
