import LengthCalc.Settings.Tree

namespace LengthCalc

/-!
# Paths of settings

A key may be a path: names with points between them, and positions in lists
between square brackets, such as `format.grouping` or `format[1]`.  A key that
is not well formed as a path is the name of a setting as it stands.
-/

/-- One step from a setting to a part of it. -/
inductive PathStep where
  | name (name : String)
  /-- A position in a list; a negative one counts from the end. -/
  | position (index : Int)
  deriving Repr, DecidableEq

namespace PathStep

/-- Whether a character may stand in a name of a path. -/
def isNameChar (character : Char) : Bool :=
  character.isAlphanum || character = ' ' || character = '_' || character = '-'

/-- Whether a character may stand around a position. -/
def isFill (character : Char) : Bool :=
  character = ' ' || character = '\t'

/-- The integer of digits behind an optional minus. -/
def index? : List Char → Option Int
  | '-' :: digits => (natural? digits).map fun value => -(value : Int)
  | digits => (natural? digits).map fun value => (value : Int)

/-- Read a position, the bracket in front of it being read. -/
def readPosition? (characters : List Char) : Option (PathStep × List Char) :=
  let written := (characters.dropWhile isFill).takeWhile fun character =>
    character.isDigit || character = '-'
  match ((characters.dropWhile isFill).drop written.length).dropWhile isFill with
  | ']' :: rest =>
      ((index? written).filter Scalar.isWord).map fun index =>
        (.position index, rest)
  | _ => none

/-- Read a name, which is not empty. -/
def readName? (characters : List Char) : Option (PathStep × List Char) :=
  match characters.takeWhile isNameChar with
  | [] => none
  | letters =>
      some (.name (String.ofList letters), characters.dropWhile isNameChar)

/-- Read the steps behind the first one; the fuel bounds their number. -/
def readSteps? : (fuel : Nat) → List Char → Option (List PathStep)
  | _, [] => some []
  | 0, _ => none
  | fuel + 1, sign :: rest =>
      let step? :=
        if sign = '.' then
          readName? rest
        else if sign = '[' then
          readPosition? rest
        else
          none
      match step? with
      | none => none
      | some (step, later) => (readSteps? fuel later).map (step :: ·)

/-- The steps of a path, if a key is well formed as one. -/
def ofPath? (key : String) : Option (List PathStep) :=
  match readName? key.toList with
  | none => none
  | some (first, rest) =>
      (readSteps? rest.length rest).map (first :: ·)

/-- The steps that a key stands for. -/
def ofKey (key : String) : List PathStep :=
  (ofPath? key).getD [.name key]

end PathStep

namespace Setting

/-- A list that has an item at an index, and the position of that item. -/
def extended (items : List Setting) (index : Int) : List Setting × Nat :=
  if 0 ≤ index then
    (items ++ List.replicate (index.toNat + 1 - items.length) .nothing,
      index.toNat)
  else
    let back := index.natAbs
    (List.replicate (back - items.length) .nothing ++ items,
      items.length - back)

/-- Put a setting at a path, making the tables and lists on the way. -/
def place (present : Setting) (steps : List PathStep) (value : Setting) :
    Setting :=
  match steps with
  | [] => overlay present value
  | .name name :: rest =>
      let key := lowercase name
      .table
        (present.entries.insert key (place (present.child key) rest value))
  | .position index :: rest =>
      let (items, position) := extended present.items index
      .list (items.modify position fun item => place item rest value)

/-- Put a setting at the path that a key stands for. -/
def set (present : Setting) (key : String) (value : Setting) : Setting :=
  present.place (PathStep.ofKey key) value

end Setting

end LengthCalc
