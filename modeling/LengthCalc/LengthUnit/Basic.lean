namespace LengthCalc

/-!
# Length units

The five units of length, in their fixed order, with the codes that stand for
them in expressions.
-/

/-- A unit of length. -/
inductive LengthUnit where
  | millimeter
  | centimeter
  | inch
  | pixel
  | point
  deriving Repr, DecidableEq, Inhabited

namespace LengthUnit

/-- Every unit, in order. -/
def all : List LengthUnit :=
  [.millimeter, .centimeter, .inch, .pixel, .point]

/-- The place of a unit in the order, counted from zero. -/
def index : LengthUnit → Nat
  | .millimeter => 0
  | .centimeter => 1
  | .inch => 2
  | .pixel => 3
  | .point => 4

/-- The lowercase code of a unit. -/
def code : LengthUnit → String
  | .millimeter => "mm"
  | .centimeter => "cm"
  | .inch => "in"
  | .pixel => "px"
  | .point => "pt"

/-- The long name of a unit. -/
def name : LengthUnit → String
  | .millimeter => "millimeter"
  | .centimeter => "centimeter"
  | .inch => "inch"
  | .pixel => "pixel"
  | .point => "point"

/-- The units that come later in the order. -/
def later (unit : LengthUnit) : List LengthUnit :=
  all.filter fun other => unit.index < other.index

/-- A text with its capital ASCII letters made small. -/
def foldCase (text : String) : List Char :=
  text.toList.map Char.toLower

/-- The unit with the given code; the case of ASCII letters does not matter. -/
def ofCode? (text : String) : Option LengthUnit :=
  all.find? fun unit => foldCase unit.code = foldCase text

/-- The unit with exactly the given lowercase code. -/
def ofExactCode? (text : String) : Option LengthUnit :=
  all.find? fun unit => unit.code = text

instance : ToString LengthUnit :=
  ⟨code⟩

/-- Every unit is found by its own code. -/
@[simp] theorem ofCode?_code (unit : LengthUnit) :
    ofCode? unit.code = some unit := by
  cases unit <;> decide

end LengthUnit

end LengthCalc
