import LengthCalc.Proofs.LexicalGrammar

namespace LengthCalc

/-!
# Numbers out of range

The literal of a number always has the form of a decimal.  So a number that is
refused is refused for its size and never for the way it is written.
-/

namespace Decimal.Reading

/-- A reading ends with a value or because the value is out of range. -/
def NotMalformed {α : Type} (outcome : Except ReadFault α) : Prop :=
  outcome ≠ .error .malformed

/-- Rounding up fails only by leaving the range. -/
theorem notMalformed_roundUp (reading : Reading) (digit : Nat) :
    NotMalformed (reading.roundUp digit) := by
  unfold roundUp NotMalformed
  split
  · simp
  · split
    · simp
    · split <;> simp

/-- A number with digits is not malformed at its end. -/
theorem notMalformed_finish (reading : Reading) :
    NotMalformed (reading.finish true) := by
  simp [finish, NotMalformed]

/-- A digit that there is no room for fails only by leaving the range. -/
theorem notMalformed_close
    (reading : Reading)
    {digit : Char}
    (isDigit : digit.isDigit = true) :
    NotMalformed (reading.close digit) := by
  simp only [close, extraDigit?, isDigit, ↓reduceIte]
  exact notMalformed_roundUp _ _

/-- Digits behind a point are in the form of a decimal. -/
theorem notMalformed_readFraction
    {digits : List Char}
    (allDigits : AllDigits digits)
    (reading : Reading) :
    NotMalformed (reading.readFraction true digits) := by
  induction digits generalizing reading with
  | nil =>
      rw [readFraction]
      exact notMalformed_finish reading
  | cons digit rest inductionHypothesis =>
      rw [readFraction]
      split
      · rw [if_pos allDigits.head]
        split
        · exact inductionHypothesis allDigits.tail _
        · exact notMalformed_roundUp _ _
      · exact notMalformed_close reading allDigits.head

/-- What may stand behind the digits in front of a point. -/
inductive FractionPart : List Char → Prop where
  | none :
      FractionPart []
  | digits
      {digits : List Char} :
      AllDigits digits →
      FractionPart ('.' :: digits)

/-- Behind a first digit, digits with or without a fraction are well-formed. -/
theorem notMalformed_readWhole_true
    {whole fraction : List Char}
    (wholeDigits : AllDigits whole)
    (part : FractionPart fraction)
    (reading : Reading) :
    NotMalformed (reading.readWhole true (whole ++ fraction)) := by
  induction whole generalizing reading with
  | nil =>
      cases part with
      | none =>
          rw [List.nil_append, readWhole]
          exact notMalformed_finish reading
      | digits allDigits =>
          have pointNotDigit : ('.').isDigit = false := by decide
          simp only [List.nil_append, readWhole, pointNotDigit,
            Bool.false_eq_true, ↓reduceIte]
          exact notMalformed_readFraction allDigits reading
  | cons digit rest inductionHypothesis =>
      rw [List.cons_append, readWhole, if_pos wholeDigits.head]
      split
      · exact inductionHypothesis wholeDigits.tail _
      · simp [NotMalformed]

/-- A first digit is all that a decimal cannot do without. -/
theorem notMalformed_readWhole
    {whole fraction : List Char}
    (run : IsDigitRun whole)
    (part : FractionPart fraction)
    (reading : Reading) :
    NotMalformed (reading.readWhole false (whole ++ fraction)) := by
  obtain ⟨digit, rest, rfl, -, -⟩ := run.exists_cons
  rw [List.cons_append, readWhole, if_pos run.digits.head]
  split
  · exact notMalformed_readWhole_true run.digits.tail part _
  · simp [NotMalformed]

end Decimal.Reading

/-- A literal is an optional sign, digits, and an optional fraction. -/
theorem NumberForm.exists_literal_parts
    {characters literal : List Char}
    (form : NumberForm characters literal) :
    ∃ isNegative whole fraction,
      literal = minusChars isNegative ++ (whole ++ fraction) ∧
        IsDigitRun whole ∧ Decimal.Reading.FractionPart fraction := by
  cases form with
  | @whole isNegative digits run =>
      exact ⟨isNegative, digits, [], by simp, run, .none⟩
  | @fraction isNegative whole digits wholeRun run =>
      exact ⟨isNegative, whole, '.' :: digits, rfl, wholeRun,
        .digits run.digits⟩
  | @bareFraction isNegative digits run =>
      exact ⟨isNegative, ['0'], '.' :: digits, rfl,
        .singleton (by decide), .digits run.digits⟩

/-- The sign is split from the digits behind it. -/
theorem Decimal.splitSign_minusChars
    (isNegative : Bool)
    {whole : List Char}
    (run : IsDigitRun whole)
    (later : List Char) :
    splitSign (minusChars isNegative ++ (whole ++ later)) =
      (isNegative, whole ++ later) := by
  obtain ⟨digit, rest, rfl, -, -⟩ := run.exists_cons
  cases isNegative with
  | false => exact splitSign_of_isDigit run.digits.head _
  | true => rfl

/-- A number that is refused is out of range. -/
theorem NumberForm.reason_eq_outOfRange
    {characters literal : List Char}
    (form : NumberForm characters literal)
    {reason : Decimal.ReadFault}
    (refused : Decimal.ofChars literal = .error reason) :
    reason = .outOfRange := by
  obtain ⟨isNegative, whole, fraction, rfl, run, part⟩ :=
    form.exists_literal_parts
  have wellFormed :=
    Decimal.Reading.notMalformed_readWhole run part Decimal.Reading.empty
  simp only [Decimal.ofChars, Decimal.splitSign_minusChars isNegative run,
    Decimal.ofUnsigned] at refused
  split at refused
  · cases refused
  · next stopped =>
      cases refused
      cases reason with
      | malformed => exact (wellFormed stopped).elim
      | outOfRange => rfl

end LengthCalc
