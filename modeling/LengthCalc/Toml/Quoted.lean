import LengthCalc.Text.Digit

namespace LengthCalc

/-!
# Quoted texts of a setting file

A text stands between double quotes, where a backslash begins an escape, or
between single quotes, where every character stands for itself.  Three quotes
enclose a text of several lines.  A text is taken up to its closing quotes as
it is written; the escapes are replaced afterwards.
-/

namespace Toml

/-- Whether a character is a blank within a line. -/
def isBlankInLine (character : Char) : Bool :=
  character = ' ' || character = '\t'

/-- The characters behind the blanks in front. -/
def skipBlanks (characters : List Char) : List Char :=
  characters.dropWhile isBlankInLine

/-- What is behind a line break, if there is one in front. -/
def afterBreak? : List Char → Option (List Char)
  | '\n' :: rest => some rest
  | '\r' :: '\n' :: rest => some rest
  | _ => none

/-- The two kinds of quotes. -/
inductive Quote where
  | double
  | single
  deriving Repr, DecidableEq

namespace Quote

/-- The sign of a quote. -/
def sign : Quote → Char
  | .double => '"'
  | .single => '\x27'

/-- The quote that a sign begins. -/
def ofSign? (character : Char) : Option Quote :=
  if character = '"' then
    some .double
  else if character = '\x27' then
    some .single
  else
    none

/-- Whether a character may not stand in a text. -/
def isForbidden (character : Char) : Bool :=
  (character.toNat < 32 && character != '\t') || character.toNat = 127

/-- Put characters in front of a text that was taken. -/
def prepend
    (characters : List Char)
    (taken : Option (List Char × List Char)) :
    Option (List Char × List Char) :=
  taken.map fun (text, rest) => (characters ++ text, rest)

/--
Take the characters of a text up to its closing quote.  A backslash keeps the
quote behind it from closing the text.
-/
def takeLine? (quote : Quote) : List Char → Option (List Char × List Char)
  | [] => none
  | '\\' :: escaped :: rest =>
      if quote = .double then
        if isForbidden escaped then
          none
        else
          prepend ['\\', escaped] (takeLine? quote rest)
      else
        prepend ['\\'] (takeLine? quote (escaped :: rest))
  | character :: rest =>
      if character = quote.sign then
        some ([], rest)
      else if isForbidden character then
        none
      else
        prepend [character] (takeLine? quote rest)

/-- Up to two quotes in front of the closing ones, which belong to the text. -/
def closed (quote : Quote) (rest : List Char) : List Char × List Char :=
  let extra := (rest.take 2).takeWhile fun character => character = quote.sign
  (extra, rest.drop extra.length)

/-- Whether a character stands for itself in a text of several lines. -/
def isLineChar (character : Char) (rest : List Char) : Bool :=
  !isForbidden character || (afterBreak? (character :: rest)).isSome

/-- Take the characters of a text of several lines up to its closing quotes. -/
def takeLines? (quote : Quote) : List Char → Option (List Char × List Char)
  | [] => none
  | '\\' :: escaped :: rest =>
      if quote = .double then
        if isLineChar escaped rest then
          prepend ['\\', escaped] (takeLines? quote rest)
        else
          none
      else
        prepend ['\\'] (takeLines? quote (escaped :: rest))
  | character :: rest =>
      if character = quote.sign then
        if rest.take 2 = [quote.sign, quote.sign] then
          some (quote.closed (rest.drop 2))
        else
          prepend [character] (takeLines? quote rest)
      else if isLineChar character rest then
        prepend [character] (takeLines? quote rest)
      else
        none

end Quote

namespace Quoted

/-- The character that a letter behind a backslash stands for. -/
def simpleEscape? : Char → Option Char
  | 'b' => some '\x08'
  | 't' => some '\t'
  | 'n' => some '\n'
  | 'f' => some '\x0c'
  | 'r' => some '\r'
  | '"' => some '"'
  | '\\' => some '\\'
  | _ => none

/-- The number of a list of hexadecimal digits. -/
def hexNumber? (digits : List Char) : Option Nat :=
  digits.foldlM
    (fun value digit => (hexDigit? digit).map fun next => value * 16 + next) 0

/-- The character with a code point, unless it is half of a pair or too large. -/
def charOfCode? (code : Nat) : Option Char :=
  if code < 0xD800 || (0xE000 ≤ code && code < 0x110000) then
    some (Char.ofNat code)
  else
    none

/-- Whether nothing but blanks is left of a line that does end. -/
def endsLine (characters : List Char) : Bool :=
  (afterBreak? (skipBlanks characters)).isSome

/--
The text that is written with escapes.  A backslash at the end of a line stands
for nothing, like the blanks and the line breaks that follow it, which are
being skipped.
-/
def unescape? (skipping : Bool) : List Char → Option (List Char)
  | [] => some []
  | '\\' :: 'u' :: a :: b :: c :: d :: rest =>
      match (hexNumber? [a, b, c, d]).bind charOfCode? with
      | none => none
      | some character => (unescape? false rest).map (character :: ·)
  | '\\' :: 'U' :: a :: b :: c :: d :: e :: f :: g :: h :: rest =>
      match (hexNumber? [a, b, c, d, e, f, g, h]).bind charOfCode? with
      | none => none
      | some character => (unescape? false rest).map (character :: ·)
  | '\\' :: letter :: rest =>
      if endsLine (letter :: rest) then
        unescape? true (letter :: rest)
      else
        match simpleEscape? letter with
        | none => none
        | some character => (unescape? false rest).map (character :: ·)
  | '\r' :: '\n' :: rest =>
      if skipping then
        unescape? true rest
      else
        (unescape? false rest).map ('\n' :: ·)
  | character :: rest =>
      if skipping && (isBlankInLine character || character = '\n') then
        unescape? true rest
      else
        (unescape? false rest).map (character :: ·)

/-- The text between single quotes: only line breaks are made alike. -/
def withPlainBreaks : List Char → List Char
  | [] => []
  | '\r' :: '\n' :: rest => '\n' :: withPlainBreaks rest
  | character :: rest => character :: withPlainBreaks rest

/-- The text that is written between quotes of a kind. -/
def meaning? (quote : Quote) (written : List Char) : Option String :=
  match quote with
  | .double => (unescape? false written).map String.ofList
  | .single => some (String.ofList (withPlainBreaks written))

/-- The meaning of a text that was taken, and what follows it. -/
def understood?
    (quote : Quote)
    (taken : Option (List Char × List Char)) :
    Option (String × List Char) :=
  match taken with
  | none => none
  | some (written, rest) =>
      (meaning? quote written).map fun text => (text, rest)

/-- Read a text of one line, its quote being read. -/
def readLine? (quote : Quote) (characters : List Char) :
    Option (String × List Char) :=
  understood? quote (quote.takeLine? characters)

/--
Read a text, its first quote being read.  A line break that follows three
quotes at once does not count.
-/
def read? (quote : Quote) (characters : List Char) :
    Option (String × List Char) :=
  if characters.take 2 = [quote.sign, quote.sign] then
    let body := characters.drop 2
    understood? quote (quote.takeLines? ((afterBreak? body).getD body))
  else
    readLine? quote characters

end Quoted

end Toml

end LengthCalc
