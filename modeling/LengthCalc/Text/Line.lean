import LengthCalc.Text.Blank

namespace LengthCalc

/-!
# Lines

Splitting bytes into lines.  A line ends at a line feed, and the last line need
not have one.  A line whose bytes are not text is kept as such, so that a reader
can stop there.
-/

/-- The bytes of each line, without the line feeds. -/
def splitLines : List UInt8 → List (List UInt8)
  | [] => []
  | byte :: rest =>
      if byte = 10 then
        [] :: splitLines rest
      else
        match splitLines rest with
        | [] => [[byte]]
        | line :: later => (byte :: line) :: later

/-- The line without a carriage return at its end. -/
def withoutReturn (line : List Char) : List Char :=
  if line.getLast? = some '\r' then line.dropLast else line

/-- The text of the bytes of a line, if they are text. -/
def lineText? (line : List UInt8) : Option String :=
  (String.fromUTF8? (ByteArray.mk line.toArray)).map fun text =>
    String.ofList (withoutReturn text.toList)

/-- The lines of some bytes, those that are not text being left out as `none`. -/
def linesOf (bytes : ByteArray) : List (Option String) :=
  (splitLines bytes.toList).map lineText?

/-- The parts of a list of characters around its first blank. -/
def splitAtBlank (characters : List Char) : List Char × List Char :=
  (characters.takeWhile fun character => !isBlank character,
    (characters.dropWhile fun character => !isBlank character).drop 1)

end LengthCalc
