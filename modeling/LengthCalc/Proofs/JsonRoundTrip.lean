import LengthCalc.Json.Expression
import LengthCalc.Proofs.DecimalReading
import LengthCalc.Proofs.JsonReading

namespace LengthCalc

/-!
# Expressions come back from JSON

The JSON value of an expression is made up of texts, so it is read back from its
text, and decoding it gives the same expression: the same tree with the same
units, and with amounts of the same sign and the same scale.  Only the sign of
a zero is lost: it is written, but what is read as zero has none.
-/

/-- The code of a unit is read as the unit. -/
theorem LengthUnit.ofJson?_toJson (room : Nat) (unit : LengthUnit) :
    ofJson? room unit.toJson = some unit := by
  have found : ofExactCode? unit.code = some unit := by
    cases unit <;> decide
  simp [toJson, Json.ofText, ofJson?, found]

/-- The text of a decimal keeps its sign and its scale. -/
theorem Decimal.ofJson?_toJson (value : Decimal) :
    ofJson? value.toJson = some value := by
  have read : ofText value.text = .ok value := by
    simp [ofText, text, ofChars_toChars]
  simp [toJson, Json.ofText, ofJson?, ofAnyText?, read, Except.toOption]

namespace SignedDecimal

/-- What is written of a decimal is its sign and the text of its magnitude. -/
theorem splitSign_toChars (amount : SignedDecimal) :
    splitSign amount.toChars =
      (amount.isNegative,
        amount.value.wholeDigits ++ amount.value.fractionChars) := by
  cases negative : amount.isNegative with
  | true =>
      simp [toChars, negative, splitSign]
  | false =>
      obtain ⟨digit, rest, shape⟩ :=
        List.exists_cons_of_ne_nil amount.value.wholeDigits_ne_nil
      have isDigit : digit.isDigit = true :=
        amount.value.allDigits_wholeDigits digit (by simp [shape])
      simp [toChars, negative, shape, Decimal.splitSign_of_isDigit isDigit]

/-- What is written of a decimal is read as its value. -/
theorem ofText_text (amount : SignedDecimal) :
    Decimal.ofText amount.text = .ok amount.value := by
  rw [Decimal.ofText, text, String.toList_ofList, Decimal.ofChars,
    splitSign_toChars]
  simp only [Decimal.ofUnsigned, Decimal.Reading.readWhole_unsigned]
  refine congrArg Except.ok (Decimal.ext_of_parts ?_ rfl)
  simp only [Decimal.Reading.toDecimal, value]
  split <;> simp

/-- The text of a decimal keeps its scale, and its sign unless it is zero. -/
theorem ofJson?_toJson (amount : SignedDecimal) :
    ofJson? amount.toJson = some amount.withoutZeroSign := by
  simp [toJson, Json.ofText, ofJson?, Decimal.ofJson?, Decimal.ofAnyText?,
    ofText_text, Except.toOption]

end SignedDecimal

/-- An array of two texts is made up of texts. -/
theorem Json.Textual.pair
    {left right : Json}
    (ofLeft : left.Textual)
    (ofRight : right.Textual) :
    (Json.array [left, right]).Textual := by
  refine .array fun item member => ?_
  simp only [List.mem_cons, List.not_mem_nil, or_false] at member
  rcases member with rfl | rfl
  · exact ofLeft
  · exact ofRight

namespace StoredMeasurement

/-- The JSON value of a measurement is made up of texts. -/
theorem textual_toJson (measurement : StoredMeasurement) :
    measurement.toJson.Textual := by
  refine .object fun field member => ?_
  simp only [List.mem_cons, List.not_mem_nil, or_false] at member
  rcases member with rfl | rfl
  · exact .text _
  · exact .text _

/-- The JSON value of a measurement is decoded, without a sign of zero. -/
theorem ofJson?_toJson
    (measurement : StoredMeasurement)
    (room : Nat) :
    ofJson? (room + 1) measurement.toJson =
      some measurement.withoutZeroSign := by
  simp [toJson, Json.ofFields, ofJson?, Json.namedFields?, ofJsonFields?,
    Json.valuesOf, ofJsonParts?, SignedDecimal.ofJson?_toJson,
    LengthUnit.ofJson?_toJson, withoutZeroSign]

/-- The measurement is unchanged unless its amount is a negative zero. -/
theorem withoutZeroSign_eq_self_iff (measurement : StoredMeasurement) :
    measurement.withoutZeroSign = measurement ↔
      ¬ measurement.amount.IsNegativeZero := by
  rw [← SignedDecimal.withoutZeroSign_eq_self_iff]
  cases measurement
  simp [withoutZeroSign]

end StoredMeasurement

namespace StoredExpression

/-- How many objects and arrays are inside one another in a JSON value. -/
def jsonDepth : StoredExpression → Nat
  | .measurement _ => 2
  | .addition left right => max left.jsonDepth right.jsonDepth + 2
  | .subtraction left right => max left.jsonDepth right.jsonDepth + 2
  | .brackets inner => inner.jsonDepth + 1

namespace NodeKind

/-- The JSON value of a node is made up of texts if its content is. -/
theorem textual_toJson
    (kind : NodeKind)
    {content : Json}
    (textual : content.Textual) :
    (kind.toJson content).Textual := by
  refine .object fun field member => ?_
  rw [List.mem_singleton.mp member]
  exact textual

end NodeKind

/-- The JSON value of an expression is made up of texts. -/
theorem textual_toJson (expression : StoredExpression) :
    expression.toJson.Textual := by
  induction expression with
  | measurement leaf =>
      exact NodeKind.measurement.textual_toJson leaf.textual_toJson
  | addition left right ofLeft ofRight =>
      exact NodeKind.addition.textual_toJson (.pair ofLeft ofRight)
  | subtraction left right ofLeft ofRight =>
      exact NodeKind.subtraction.textual_toJson (.pair ofLeft ofRight)
  | brackets inner ofInner =>
      exact NodeKind.brackets.textual_toJson ofInner

section Nodes

variable (room : Nat)
variable (content : Json)

/-- A measurement is decoded with one place less. -/
theorem ofJson?_measurement :
    ofJson? (room + 1) (NodeKind.measurement.toJson content) =
      (StoredMeasurement.ofJson? room content).map .measurement :=
  rfl

/-- The content of brackets is decoded with one place less. -/
theorem ofJson?_brackets :
    ofJson? (room + 1) (NodeKind.brackets.toJson content) =
      (ofJson? room content).map .brackets :=
  rfl

/-- Operands are inside an array, and decoded with two places less. -/
theorem ofJson?_addition :
    ofJson? (room + 2) (NodeKind.addition.toJson content) =
      (operands? (ofJson? room) content).map
        fun (left, right) => .addition left right :=
  rfl

/-- The operands of a difference are decoded like those of a sum. -/
theorem ofJson?_subtraction :
    ofJson? (room + 2) (NodeKind.subtraction.toJson content) =
      (operands? (ofJson? room) content).map
        fun (left, right) => .subtraction left right :=
  rfl

end Nodes

/-- An array of two values that are decoded gives both operands. -/
theorem operands?_pair
    {read? : Json → Option StoredExpression}
    {left right : StoredExpression}
    {ofLeft ofRight : Json}
    (readLeft : read? ofLeft = some left)
    (readRight : read? ofRight = some right) :
    operands? read? (.array [ofLeft, ofRight]) = some (left, right) := by
  simp only [operands?, readLeft, readRight]

/--
With room for its depth the JSON value of an expression is decoded, without the
signs of zeros.
-/
theorem ofJson?_toJson
    (expression : StoredExpression)
    {room : Nat}
    (enough : expression.jsonDepth ≤ room) :
    ofJson? room expression.toJson = some expression.withoutZeroSigns := by
  induction expression generalizing room with
  | measurement leaf =>
      obtain ⟨less, rfl⟩ : ∃ less, room = less + 2 :=
        Nat.exists_eq_add_of_le' enough
      rw [toJson, ofJson?_measurement, leaf.ofJson?_toJson, Option.map_some,
        withoutZeroSigns]
  | addition left right leftHypothesis rightHypothesis =>
      simp only [jsonDepth] at enough
      obtain ⟨less, rfl⟩ : ∃ less, room = less + 2 :=
        Nat.exists_eq_add_of_le' (by omega)
      have operands :
          operands? (ofJson? less) (.array [left.toJson, right.toJson]) =
            some (left.withoutZeroSigns, right.withoutZeroSigns) :=
        operands?_pair (leftHypothesis (by omega)) (rightHypothesis (by omega))
      rw [toJson, ofJson?_addition, operands, Option.map_some,
        withoutZeroSigns]
  | subtraction left right leftHypothesis rightHypothesis =>
      simp only [jsonDepth] at enough
      obtain ⟨less, rfl⟩ : ∃ less, room = less + 2 :=
        Nat.exists_eq_add_of_le' (by omega)
      have operands :
          operands? (ofJson? less) (.array [left.toJson, right.toJson]) =
            some (left.withoutZeroSigns, right.withoutZeroSigns) :=
        operands?_pair (leftHypothesis (by omega)) (rightHypothesis (by omega))
      rw [toJson, ofJson?_subtraction, operands, Option.map_some,
        withoutZeroSigns]
  | brackets inner inductionHypothesis =>
      simp only [jsonDepth] at enough
      obtain ⟨less, rfl⟩ : ∃ less, room = less + 1 :=
        Nat.exists_eq_add_of_le' (by omega)
      have ofInner : ofJson? less inner.toJson = some inner.withoutZeroSigns :=
        inductionHypothesis (by omega)
      rw [toJson, ofJson?_brackets, ofInner, Option.map_some,
        withoutZeroSigns]

/-- An expression is unchanged unless one of its amounts is a negative zero. -/
theorem withoutZeroSigns_eq_self_iff (expression : StoredExpression) :
    expression.withoutZeroSigns = expression ↔
      ∀ leaf ∈ expression.leaves, ¬ leaf.amount.IsNegativeZero := by
  induction expression with
  | measurement leaf =>
      simp [withoutZeroSigns, leaves, leaf.withoutZeroSign_eq_self_iff]
  | addition left right leftHypothesis rightHypothesis =>
      simp [withoutZeroSigns, leaves, leftHypothesis, rightHypothesis,
        or_imp, forall_and]
  | subtraction left right leftHypothesis rightHypothesis =>
      simp [withoutZeroSigns, leaves, leftHypothesis, rightHypothesis,
        or_imp, forall_and]
  | brackets inner inductionHypothesis =>
      simp [withoutZeroSigns, leaves, inductionHypothesis]

end StoredExpression

namespace Expression

/-- The signs of zeros do not count for the value of an expression. -/
theorem value_withoutZeroSigns_stored (expression : Expression) :
    expression.stored.withoutZeroSigns.value = expression := by
  induction expression with
  | measurement leaf =>
      simp [stored, Measurement.stored, StoredExpression.withoutZeroSigns,
        StoredMeasurement.withoutZeroSign, StoredExpression.value,
        StoredMeasurement.value, ← SignedDecimal.ofDecimal_value]
  | addition left right leftHypothesis rightHypothesis =>
      rw [stored, StoredExpression.withoutZeroSigns, StoredExpression.value,
        leftHypothesis, rightHypothesis]
  | subtraction left right leftHypothesis rightHypothesis =>
      rw [stored, StoredExpression.withoutZeroSigns, StoredExpression.value,
        leftHypothesis, rightHypothesis]
  | brackets inner inductionHypothesis =>
      rw [stored, StoredExpression.withoutZeroSigns, StoredExpression.value,
        inductionHypothesis]

/-- An expression whose amounts are told by their values loses nothing. -/
theorem ofJson?_jsonText
    (expression : Expression)
    {room : Nat}
    (enough : expression.stored.jsonDepth ≤ room) :
    (Json.read? expression.jsonText).bind (ofJson? room) =
      some expression := by
  rw [jsonText, toJson, expression.stored.textual_toJson.read?_text,
    Option.bind_some, ofJson?, expression.stored.ofJson?_toJson enough,
    Option.map_some, value_withoutZeroSigns_stored]

end Expression

/--
JSON loses nothing but the signs of zeros.  The compact and the indented text of
an expression are both decoded to the same tree with the same units, and with
amounts of the same magnitude, scale and sign, except that a zero has no sign.
So an expression comes back as it is if, and only if, none of its amounts is a
negative zero.  The same holds of a measurement.  Any room from the depth of the
value on is enough.
-/
theorem json_loses_only_zero_signs :
    (∀ (expression : StoredExpression) (extra : Nat),
        (Json.read? expression.toJson.text).bind
            (StoredExpression.ofJson? (expression.jsonDepth + extra)) =
          some expression.withoutZeroSigns ∧
        (Json.read? expression.toJson.indentedText).bind
            (StoredExpression.ofJson? (expression.jsonDepth + extra)) =
          some expression.withoutZeroSigns ∧
        (expression.withoutZeroSigns = expression ↔
          ∀ leaf ∈ expression.leaves, ¬ leaf.amount.IsNegativeZero)) ∧
      ∀ (measurement : StoredMeasurement) (extra : Nat),
        (Json.read? measurement.toJson.text).bind
            (StoredMeasurement.ofJson? (1 + extra)) =
          some measurement.withoutZeroSign ∧
        (Json.read? measurement.toJson.indentedText).bind
            (StoredMeasurement.ofJson? (1 + extra)) =
          some measurement.withoutZeroSign ∧
        (measurement.withoutZeroSign = measurement ↔
          ¬ measurement.amount.IsNegativeZero) := by
  constructor
  · intro expression extra
    have decoded := expression.ofJson?_toJson (Nat.le_add_right _ extra)
    have textual := expression.textual_toJson
    rw [textual.read?_text, textual.read?_indentedText, Option.bind_some]
    exact ⟨decoded, decoded, expression.withoutZeroSigns_eq_self_iff⟩
  · intro measurement extra
    have decoded := measurement.ofJson?_toJson extra
    have textual := measurement.textual_toJson
    rw [Nat.add_comm 1 extra, textual.read?_text,
      textual.read?_indentedText, Option.bind_some]
    exact ⟨decoded, decoded, measurement.withoutZeroSign_eq_self_iff⟩

/-- A zero with a minus sign, in millimeters. -/
def negativeZeroMillimeters : StoredMeasurement :=
  ⟨{ SignedDecimal.ofDecimal .zero with isNegative := true }, .millimeter⟩

/-- The sign of a zero is written, and it is lost when the text is read. -/
theorem json_loses_sign_of_negativeZero :
    negativeZeroMillimeters.toJson.text =
        "\x7b\"amount\":\"-0\",\"unit\":\"mm\"\x7d" ∧
      (Json.read? negativeZeroMillimeters.toJson.text).bind
          (StoredMeasurement.ofJson? 1) =
        some (Measurement.stored ⟨.zero, .millimeter⟩) ∧
      (Json.read? negativeZeroMillimeters.toJson.text).bind
          (StoredMeasurement.ofJson? 1) ≠
        some negativeZeroMillimeters := by
  have decoded :
      (Json.read? negativeZeroMillimeters.toJson.text).bind
          (StoredMeasurement.ofJson? 1) =
        some (Measurement.stored ⟨.zero, .millimeter⟩) := by
    rw [negativeZeroMillimeters.textual_toJson.read?_text, Option.bind_some]
    exact negativeZeroMillimeters.ofJson?_toJson 0
  refine ⟨by decide +kernel, decoded, ?_⟩
  rw [decoded]
  decide

end LengthCalc
