import LengthCalc.Proofs.NearestMultiple
import LengthCalc.Proofs.ParserExact
import LengthCalc.Proofs.WrittenNesting
import LengthCalc.Proofs.WrittenSigns
import Mathlib.Data.List.Forall2

namespace LengthCalc

/-!
# Reading written text

What comes back when the text of a tree is read: a lexical fault at the first
separator, the fault of too deep nesting, or else the canonical tree.
-/

/--
A measurement stands for another one at some places: the unit is the same, the
amount is the nearest multiple of the last place, and no zero ends its fraction.
-/
structure Measurement.StandsFor
    (places : Nat)
    (original shown : Measurement) : Prop where
  unit : shown.unit = original.unit
  rounds : RoundsTo places original.amount.toRat shown.amount.toRat
  brief : shown.amount.IsBrief

namespace FormatOptions

/-- A leaf is shown as the measurement that stands for it. -/
theorem standsFor_roundedLeaf
    (options : FormatOptions)
    (leaf : Measurement) :
    leaf.StandsFor options.maxFractionDigits (options.roundedLeaf leaf) where
  unit := rfl
  rounds := options.roundsTo_rounded leaf.amount
  brief := options.isBrief_rounded leaf.amount

/-- The leaves of the canonical tree stand for those of the tree, in order. -/
theorem standsFor_leaves_canonical
    (options : FormatOptions)
    (expression : Expression) :
    List.Forall₂ (Measurement.StandsFor options.maxFractionDigits)
      expression.leaves (options.canonical expression).leaves := by
  rw [leaves_canonical, List.forall₂_map_right_iff, List.forall₂_same]
  exact fun leaf _ => options.standsFor_roundedLeaf leaf

/-- A text without separators is read as the tokens that were written. -/
theorem ofText_of_no_comma
    {options : FormatOptions}
    {expression : Expression}
    (noComma : ',' ∉ (options.expressionText expression).toList) :
    Expression.ofText (options.expressionText expression) =
      Expression.ofTokens (options.writtenTokens expression) := by
  exact Expression.ofText_of_tokenize (tokenize_of_no_comma noComma)

/-- A text with separators is refused at the first of them. -/
theorem ofText_of_comma
    {options : FormatOptions}
    {expression : Expression}
    (comma : ',' ∈ (options.expressionText expression).toList) :
    Expression.ofText (options.expressionText expression) =
      .error
        (.lexical
          (options.expressionText expression)
          ((options.expressionText expression).toList.idxOf ',')
          .foreignCharacter) := by
  rw [Expression.ofText, tokenize_of_comma comma]

/-- A text that nests its brackets too deeply is refused for that. -/
theorem ofText_tooDeep
    {options : FormatOptions}
    {expression : Expression}
    (noComma : ',' ∉ (options.expressionText expression).toList)
    (beyond :
      nestingLimit < bracketNesting (options.expressionText expression)) :
    Expression.ofText (options.expressionText expression) =
      .error (.syntactic .tooDeep) := by
  rw [bracketNesting_expressionText] at beyond
  rw [ofText_of_no_comma noComma]
  exact Expression.ofTokens_tooDeep
    (options.chainForm_writtenTokens expression) beyond

/-- Any other text is read as the canonical tree. -/
theorem ofText_canonical
    {options : FormatOptions}
    {expression : Expression}
    (noComma : ',' ∉ (options.expressionText expression).toList)
    (within :
      bracketNesting (options.expressionText expression) ≤ nestingLimit) :
    Expression.ofText (options.expressionText expression) =
      .ok (options.canonical expression) := by
  rw [bracketNesting_expressionText] at within
  rw [ofText_of_no_comma noComma, Expression.ofTokens_eq_ok_iff]
  exact ⟨options.chainForm_writtenTokens expression, within⟩

/--
What reading the text of a tree gives, for all trees and formats.  Separators,
which only grouping writes, are lexical faults; brackets beyond the limit are a
syntax fault; all other texts are read as the canonical tree.  Each amount of
that tree is the nearest one with the digits of the format, a half rounded to
the even one, and written without trailing zeros.  In particular trees in normal
form whose amounts have no more digits and no trailing zeros come back
unchanged.
-/
theorem ofText_expressionText
    (options : FormatOptions)
    (expression : Expression) :
    Expression.ofText (options.expressionText expression) =
        (if ',' ∈ (options.expressionText expression).toList then
          .error
            (.lexical
              (options.expressionText expression)
              ((options.expressionText expression).toList.idxOf ',')
              .foreignCharacter)
        else if
            nestingLimit <
              bracketNesting (options.expressionText expression) then
          .error (.syntactic .tooDeep)
        else
          .ok (options.canonical expression)) ∧
      (',' ∈ (options.expressionText expression).toList →
        options.grouping = true) ∧
      List.Forall₂ (Measurement.StandsFor options.maxFractionDigits)
        expression.leaves (options.canonical expression).leaves ∧
      (expression.IsNormal →
        (∀ leaf ∈ expression.leaves,
          leaf.amount.scale ≤ options.maxFractionDigits ∧
            leaf.amount.IsBrief) →
        ',' ∉ (options.expressionText expression).toList →
        bracketNesting (options.expressionText expression) ≤ nestingLimit →
        Expression.ofText (options.expressionText expression) =
          .ok expression) := by
  refine
    ⟨?_, grouping_of_comma, options.standsFor_leaves_canonical expression, ?_⟩
  · split
    · next comma =>
        exact ofText_of_comma comma
    · next noComma =>
        split
        · next beyond =>
            exact ofText_tooDeep noComma beyond
        · next within =>
            exact ofText_canonical noComma (Nat.le_of_not_lt within)
  · intro normal short noComma within
    rw [ofText_canonical noComma within, canonical_eq_self normal short]

/-- One digit after the point and no separators. -/
def oneDigit : FormatOptions :=
  ⟨1, false⟩

end FormatOptions

namespace Expression

/-- A sum that begins with a negative amount, subtracted as it is. -/
def subtractedSum : Expression :=
  .subtraction
    (.ofAmount ⟨1225, 2, by decide, Decimal.two_scale_le⟩ .millimeter)
    (.addition
      (.ofAmount ⟨-200, 2, by decide, Decimal.two_scale_le⟩ .centimeter)
      (.brackets (.ofAmount .one .inch)))

/-- The same with one digit after the point, as it is read. -/
def continuedDifference : Expression :=
  .addition
    (.subtraction
      (.ofAmount ⟨122, 1, by decide, Decimal.one_scale_le⟩ .millimeter)
      (.ofAmount ⟨-2, 0, by decide, Decimal.zero_scale_le⟩ .centimeter))
    (.ofAmount .one .inch)

end Expression

namespace FormatOptions

/-- Half a digit goes to the even one, and the sum continues the difference. -/
theorem ofText_expressionText_subtractedSum :
    oneDigit.expressionText .subtractedSum = "12.2mm - -2cm + (1in)" ∧
      Expression.ofText (oneDigit.expressionText .subtractedSum) =
        .ok .continuedDifference ∧
      List.Forall₂ (Measurement.StandsFor 1)
        Expression.subtractedSum.leaves
        Expression.continuedDifference.leaves ∧
      oneDigit.expressionText .continuedDifference =
        "12.2mm - (-2cm) + 1in" ∧
      Expression.ofText (oneDigit.expressionText .continuedDifference) =
        .ok .continuedDifference := by
  have text :
      oneDigit.expressionText .subtractedSum = "12.2mm - -2cm + (1in)" := by
    decide +kernel
  have textAgain :
      oneDigit.expressionText .continuedDifference =
        "12.2mm - (-2cm) + 1in" := by
    decide +kernel
  obtain ⟨reading, -, standing, -⟩ :=
    ofText_expressionText oneDigit .subtractedSum
  obtain ⟨-, -, -, unchanged⟩ :=
    ofText_expressionText oneDigit .continuedDifference
  refine ⟨text, ?_, standing, textAgain, ?_⟩
  · rw [reading, text, if_neg (by decide), if_neg (by decide)]
    rfl
  · refine unchanged ?_ ?_ ?_ ?_
    · exact ⟨⟨trivial, trivial, rfl⟩, trivial, rfl⟩
    · decide
    · rw [textAgain]
      decide
    · rw [textAgain]
      decide

end FormatOptions

end LengthCalc
