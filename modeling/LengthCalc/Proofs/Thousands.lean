import LengthCalc.Proofs.DecimalRange
import LengthCalc.Proofs.LexicalExact
import LengthCalc.Proofs.Separators

namespace LengthCalc

/-!
# Groups of three digits

Separators cut the integer digits of a number into groups: a first one of one
to three digits, and behind it groups of exactly three.  So every separator
stands between two integer digits, and none in the sign or in the fraction.
-/

/-- A first group of one to three digits and further ones of exactly three. -/
structure IsGrouping (first : List Char) (groups : List (List Char)) : Prop where
  first_run : IsDigitRun first
  first_length : first.length ≤ 3
  group_digits : ∀ group ∈ groups, Decimal.AllDigits group
  group_length : ∀ group ∈ groups, group.length = 3

namespace IsGrouping

variable {first : List Char}
variable {groups : List (List Char)}

/-- The length of the first group is what is left by the others. -/
theorem length_eq (grouping : IsGrouping first groups) :
    (first ++ groups.flatten).length = first.length + 3 * groups.length := by
  have lengths : groups.map List.length = List.replicate groups.length 3 := by
    rw [List.eq_replicate_iff]
    simpa using grouping.group_length
  simp [List.length_flatten, lengths, Nat.mul_comm]

/-- One more digit in front of a short first group belongs to that group. -/
theorem push
    (grouping : IsGrouping first groups)
    {digit : Char}
    (isDigit : digit.isDigit = true)
    (short : first.length < 3) :
    IsGrouping (digit :: first) groups where
  first_run :=
    ⟨by simp, List.forall_mem_cons.mpr ⟨isDigit, grouping.first_run.digits⟩⟩
  first_length := short
  group_digits := grouping.group_digits
  group_length := grouping.group_length

/-- One more digit in front of a full first group begins a group. -/
theorem begin
    (grouping : IsGrouping first groups)
    {digit : Char}
    (isDigit : digit.isDigit = true)
    (full : first.length = 3) :
    IsGrouping [digit] (first :: groups) where
  first_run := .singleton isDigit
  first_length := by simp
  group_digits :=
    List.forall_mem_cons.mpr
      ⟨grouping.first_run.digits, grouping.group_digits⟩
  group_length :=
    List.forall_mem_cons.mpr ⟨full, grouping.group_length⟩

end IsGrouping

/-- A digit in front of the first group stands in front of the whole. -/
theorem intercalate_push
    (digit : Char)
    (first : List Char)
    (groups : List (List Char)) :
    [','].intercalate ((digit :: first) :: groups) =
      digit :: [','].intercalate (first :: groups) := by
  cases groups <;> simp

/-- Separators stand between the groups of the digits. -/
theorem exists_grouping
    {digits : List Char}
    (run : IsDigitRun digits) :
    ∃ first groups,
      digits = first ++ groups.flatten ∧
        separateThousands digits = [','].intercalate (first :: groups) ∧
        IsGrouping first groups := by
  rcases run with ⟨nonempty, allDigits⟩
  induction digits with
  | nil =>
      exact (nonempty rfl).elim
  | cons digit rest inductionHypothesis =>
      have isDigit := allDigits.head
      by_cases last : rest = []
      · subst last
        exact ⟨[digit], [], rfl, by simp [separateThousands],
          .singleton isDigit, by simp, by simp, by simp⟩
      · obtain ⟨first, groups, shape, separated, grouping⟩ :=
          inductionHypothesis last allDigits.tail
        have length : rest.length = first.length + 3 * groups.length := by
          rw [shape, grouping.length_eq]
        have nonemptyFirst : 0 < first.length :=
          List.length_pos_iff.mpr grouping.first_run.nonempty
        have bound := grouping.first_length
        by_cases full : first.length = 3
        · have boundary : rest ≠ [] ∧ rest.length % 3 = 0 :=
            ⟨last, by omega⟩
          refine ⟨[digit], first :: groups, by simp [shape], ?_,
            grouping.begin isDigit full⟩
          rw [separateThousands, if_pos boundary, separated]
          simp
        · have inside : ¬ (rest ≠ [] ∧ rest.length % 3 = 0) := by
            omega
          refine ⟨digit :: first, groups, by simp [shape], ?_,
            grouping.push isDigit (by omega)⟩
          rw [separateThousands, if_neg inside, separated, intercalate_push]

/-- A separator stands between two digits. -/
theorem exists_digits_of_comma
    {digits : List Char}
    (allDigits : Decimal.AllDigits digits)
    {before after : List Char}
    (found : separateThousands digits = before ++ ',' :: after) :
    ∃ front left right back,
      before = front ++ [left] ∧
        after = right :: back ∧
        left.isDigit = true ∧
        right.isDigit = true := by
  induction digits generalizing before with
  | nil =>
      simp [separateThousands] at found
  | cons digit rest inductionHypothesis =>
      have isDigit := allDigits.head
      rw [separateThousands] at found
      cases before with
      | nil =>
          have isComma : digit = ',' := by
            split at found <;> exact (List.cons.inj found).1
          subst isComma
          contradiction
      | cons first others =>
          split at found
          · next boundary =>
              obtain ⟨rfl, behind⟩ := List.cons.inj found
              cases others with
              | nil =>
                  obtain ⟨right, later, rfl⟩ :=
                    List.exists_cons_of_ne_nil boundary.1
                  obtain ⟨-, rfl⟩ := List.cons.inj behind
                  obtain ⟨back, shape⟩ :=
                    List.head?_eq_some_iff.mp
                      (FormatOptions.head?_separateThousands (right :: later))
                  exact ⟨[], digit, right, back, rfl, shape, isDigit,
                    allDigits.tail.head⟩
              | cons comma later =>
                  obtain ⟨rfl, inRest⟩ := List.cons.inj behind
                  obtain ⟨front, left, right, back, rfl, rfl, ends⟩ :=
                    inductionHypothesis allDigits.tail inRest
                  exact ⟨digit :: ',' :: front, left, right, back, rfl, rfl, ends⟩
          · obtain ⟨rfl, inRest⟩ := List.cons.inj found
            obtain ⟨front, left, right, back, rfl, rfl, ends⟩ :=
              inductionHypothesis allDigits.tail inRest
            exact ⟨digit :: front, left, right, back, rfl, rfl, ends⟩

namespace Decimal

/-- The decimal places that are written are a fraction. -/
theorem fractionPart_fractionChars (value : Decimal) :
    Reading.FractionPart value.fractionChars := by
  unfold fractionChars
  split
  · exact .none
  · exact .digits (allDigits_lastDigits _ _)

/-- A separator of a written decimal stands between two integer digits. -/
theorem exists_wholeDigits_of_comma
    (value : Decimal)
    {before after : List Char}
    (found :
      value.signChars ++
          (separateThousands value.wholeDigits ++ value.fractionChars) =
        before ++ ',' :: after) :
    ∃ front left right back,
      before = value.signChars ++ (front ++ [left]) ∧
        after = right :: back ++ value.fractionChars ∧
        left.isDigit = true ∧
        right.isDigit = true := by
  rcases append_eq_at found with ⟨rest, inSign⟩ | ⟨inside, rfl, behindSign⟩
  · refine (value.not_mem_signChars (show ',' ≠ '-' by decide) ?_).elim
    simp [inSign]
  · rcases append_eq_at behindSign with
        ⟨rest, inWhole⟩ | ⟨behind, -, inFraction⟩
    · obtain ⟨front, left, right, back, rfl, rfl, ends⟩ :=
        exists_digits_of_comma value.allDigits_wholeDigits inWhole
      rw [inWhole, List.append_assoc, List.append_cancel_left_eq] at behindSign
      obtain ⟨-, shape⟩ := List.cons.inj behindSign
      exact ⟨front, left, right, back, rfl, shape.symm, ends⟩
    · refine (value.not_mem_fractionChars rfl
        (show ',' ≠ '.' by decide) ?_).elim
      simp [inFraction]

end Decimal

namespace FormatOptions

/-- Without grouping the whole part is written digit by digit. -/
theorem toList_decimalText_plain (digits : Nat) (value : Decimal) :
    (decimalText ⟨digits, false⟩ value).toList =
      (rounded ⟨digits, false⟩ value).signChars ++
        ((rounded ⟨digits, false⟩ value).wholeDigits ++
          (rounded ⟨digits, false⟩ value).fractionChars) := by
  simp [decimalText, decimalChars]

/-- With grouping only the whole part has separators. -/
theorem toList_decimalText_grouped (digits : Nat) (value : Decimal) :
    (decimalText ⟨digits, true⟩ value).toList =
      (rounded ⟨digits, false⟩ value).signChars ++
        (separateThousands (rounded ⟨digits, false⟩ value).wholeDigits ++
          (rounded ⟨digits, false⟩ value).fractionChars) := by
  have shown : rounded ⟨digits, true⟩ value = rounded ⟨digits, false⟩ value :=
    rfl
  simp [decimalText, decimalChars, shown]

/--
Separators are all that grouping adds to the text of an amount.  They cut the
integer digits into groups of three behind a first group of one to three, so
each stands between two integer digits, and there is none in the sign or in the
fraction.
-/
theorem decimalText_thousands (digits : Nat) (value : Decimal) :
    (∃ isNegative first groups fraction,
        (decimalText ⟨digits, false⟩ value).toList =
            minusChars isNegative ++ (first ++ groups.flatten ++ fraction) ∧
          (decimalText ⟨digits, true⟩ value).toList =
            minusChars isNegative ++
              ([','].intercalate (first :: groups) ++ fraction) ∧
          IsGrouping first groups ∧
          Decimal.Reading.FractionPart fraction ∧
          ∀ before after,
            (decimalText ⟨digits, true⟩ value).toList =
              before ++ ',' :: after →
            ∃ front left right back,
              before = minusChars isNegative ++ (front ++ [left]) ∧
                after = right :: back ++ fraction ∧
                left.isDigit = true ∧
                right.isDigit = true) ∧
      dropCommas (decimalText ⟨digits, true⟩ value).toList =
        (decimalText ⟨digits, false⟩ value).toList := by
  constructor
  · rw [toList_decimalText_plain, toList_decimalText_grouped]
    generalize rounded ⟨digits, false⟩ value = shown
    obtain ⟨first, groups, shape, separated, grouping⟩ :=
      exists_grouping ⟨shown.wholeDigits_ne_nil, shown.allDigits_wholeDigits⟩
    refine ⟨decide (shown.coefficient < 0), first, groups,
      shown.fractionChars, ?_, ?_, grouping,
      shown.fractionPart_fractionChars, ?_⟩
    · rw [shown.signChars_eq, shape]
    · rw [shown.signChars_eq, separated]
    · intro before after found
      rw [← shown.signChars_eq]
      exact shown.exists_wholeDigits_of_comma found
  · simp only [decimalText, String.toList_ofList, dropCommas_decimalChars,
      ungrouped]

end FormatOptions

end LengthCalc
