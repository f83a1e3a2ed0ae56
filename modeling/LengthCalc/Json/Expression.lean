import LengthCalc.Decimal.Scientific
import LengthCalc.Expression.Stored
import LengthCalc.Json.Reader
import LengthCalc.Json.Writer

namespace LengthCalc

/-!
# Expressions as JSON

A unit is its lowercase code.  A measurement is an object of its amount, which
is a text with the sign that is held, and its unit.  A node of an expression is
an object with one field, named for the kind of the node; the two operands of a
sum or a difference are an array.  Amounts are read by their values.

Reading is given room: each array or object that is looked into needs one more
place than what is inside it.  Fields that are not asked for need no room.
-/

namespace LengthUnit

/-- The JSON value of a unit. -/
def toJson (unit : LengthUnit) : Json :=
  .ofText unit.code

/-- The unit of a JSON value: its code, or an object of the code and null. -/
def ofJson? (room : Nat) : Json → Option LengthUnit
  | .string code => (Json.Quoted.text? code).bind ofExactCode?
  | .object [(code, .null)] =>
      if room = 0 then none else (Json.Quoted.text? code).bind ofExactCode?
  | _ => none

end LengthUnit

namespace Decimal

/-- The JSON value of a decimal. -/
def toJson (value : Decimal) : Json :=
  .ofText value.text

/-- The decimal of a JSON value: a text, which keeps its scale, or a number. -/
def ofJson? : Json → Option Decimal
  | .string written => (Json.Quoted.text? written).bind ofAnyText?
  | .number numeral => numeral.toDecimal?
  | _ => none

end Decimal

namespace SignedDecimal

/-- The JSON value of a decimal with its sign. -/
def toJson (amount : SignedDecimal) : Json :=
  .ofText amount.text

/-- The decimal of a JSON value, with the sign of what is read. -/
def ofJson? (json : Json) : Option SignedDecimal :=
  (Decimal.ofJson? json).map .ofDecimal

end SignedDecimal

namespace StoredMeasurement

/-- The JSON value of a measurement. -/
def toJson (measurement : StoredMeasurement) : Json :=
  .ofFields [
    ("amount", measurement.amount.toJson),
    ("unit", measurement.unit.toJson)]

/-- A measurement from the JSON values of its amount and its unit. -/
def ofJsonParts? (room : Nat) (amount unit : Json) :
    Option StoredMeasurement := do
  let amount ← SignedDecimal.ofJson? amount
  let unit ← LengthUnit.ofJson? room unit
  return ⟨amount, unit⟩

/-- A measurement from fields that name the amount and the unit once each. -/
def ofJsonFields? (room : Nat) (fields : List (String × Json)) :
    Option StoredMeasurement :=
  match Json.valuesOf "amount" fields, Json.valuesOf "unit" fields with
  | [amount], [unit] => ofJsonParts? room amount unit
  | _, _ => none

/--
The measurement of a JSON value: an object that names the amount and the unit,
whatever else it names, or an array of the two.
-/
def ofJson? : (room : Nat) → Json → Option StoredMeasurement
  | room + 1, .object fields =>
      (Json.namedFields? fields).bind (ofJsonFields? room)
  | room + 1, .array [amount, unit] => ofJsonParts? room amount unit
  | _, _ => none

end StoredMeasurement

/-- The measurement of a JSON value. -/
def Measurement.ofJson? (room : Nat) (json : Json) : Option Measurement :=
  (StoredMeasurement.ofJson? room json).map StoredMeasurement.value

namespace StoredExpression

/-- The kinds of nodes by their names. -/
inductive NodeKind where
  | measurement
  | addition
  | subtraction
  | brackets
  deriving Repr, DecidableEq

namespace NodeKind

/-- The name of a kind. -/
def name : NodeKind → String
  | .measurement => "Measurement"
  | .addition => "Addition"
  | .subtraction => "Subtraction"
  | .brackets => "Brackets"

/-- All kinds. -/
def all : List NodeKind :=
  [.measurement, .addition, .subtraction, .brackets]

/-- The kind with a name. -/
def ofName? (name : String) : Option NodeKind :=
  all.find? fun kind => kind.name = name

/-- The JSON value of a node: an object of its kind and its content. -/
def toJson (kind : NodeKind) (content : Json) : Json :=
  .ofFields [(kind.name, content)]

end NodeKind

/-- The JSON value of an expression. -/
def toJson : StoredExpression → Json
  | .measurement leaf => NodeKind.measurement.toJson leaf.toJson
  | .addition left right =>
      NodeKind.addition.toJson (.array [left.toJson, right.toJson])
  | .subtraction left right =>
      NodeKind.subtraction.toJson (.array [left.toJson, right.toJson])
  | .brackets inner => NodeKind.brackets.toJson inner.toJson

/-- The two operands of a JSON value, each read with one place less. -/
def operands?
    (read? : Json → Option StoredExpression) :
    Json → Option (StoredExpression × StoredExpression)
  | .array [left, right] =>
      match read? left, read? right with
      | some left, some right => some (left, right)
      | _, _ => none
  | _ => none

/-- The expression of a JSON value: an object of exactly one known kind. -/
def ofJson? : (room : Nat) → Json → Option StoredExpression
  | room + 1, .object [(name, content)] =>
      match (Json.Quoted.text? name).bind NodeKind.ofName? with
      | none => none
      | some .measurement =>
          (StoredMeasurement.ofJson? room content).map .measurement
      | some .brackets => (ofJson? room content).map .brackets
      | some .addition =>
          match room with
          | 0 => none
          | inner + 1 =>
              (operands? (ofJson? inner) content).map fun (left, right) =>
                .addition left right
      | some .subtraction =>
          match room with
          | 0 => none
          | inner + 1 =>
              (operands? (ofJson? inner) content).map fun (left, right) =>
                .subtraction left right
  | _, _ => none

end StoredExpression

namespace Expression

/-- The JSON value of an expression. -/
def toJson (expression : Expression) : Json :=
  expression.stored.toJson

/-- The expression of a JSON value. -/
def ofJson? (room : Nat) (json : Json) : Option Expression :=
  (StoredExpression.ofJson? room json).map StoredExpression.value

/-- The JSON text of an expression. -/
def jsonText (expression : Expression) : String :=
  expression.toJson.text

end Expression

namespace Json

/-- The room that is given to the reading of a text. -/
def readingRoom : Nat :=
  127

end Json

end LengthCalc
