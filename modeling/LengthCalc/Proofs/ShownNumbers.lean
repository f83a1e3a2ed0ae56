import LengthCalc.Proofs.NearestMultiple
import LengthCalc.Proofs.PrintedTokens

namespace LengthCalc

/-!
# Shown numbers

An amount is shown as a numeral: a sign, integer digits and fraction digits.
It denotes the nearest multiple of the last place that is shown, it is the only
numeral of its value without superfluous zeros and signs, and it is read again
as the value that it denotes.
-/

/-- A number written with digits before and behind a point. -/
structure PlainNumeral where
  isNegative : Bool
  whole : List Char
  fraction : List Char
  deriving Repr, DecidableEq

namespace PlainNumeral

/-- The characters of a numeral; without a fraction there is no point. -/
def characters (numeral : PlainNumeral) : List Char :=
  minusChars numeral.isNegative ++
    (numeral.whole ++
      if numeral.fraction = [] then [] else '.' :: numeral.fraction)

/-- The number that the digits of a numeral stand for. -/
def magnitude (numeral : PlainNumeral) : Rat :=
  Nat.ofDigitChars 10 numeral.whole 0 +
    Nat.ofDigitChars 10 numeral.fraction 0 / 10 ^ numeral.fraction.length

/-- The number that a numeral stands for. -/
def value (numeral : PlainNumeral) : Rat :=
  if numeral.isNegative then -numeral.magnitude else numeral.magnitude

/--
Nothing is superfluous: no zero begins the integer digits unless it is the only
one, no zero ends the fraction, which has at most the given places, and zero
has no sign.
-/
structure IsCanonical (places : Nat) (numeral : PlainNumeral) : Prop where
  whole_run : IsDigitRun numeral.whole
  leading_zero : ∀ rest, numeral.whole = '0' :: rest → rest = []
  fraction_digits : Decimal.AllDigits numeral.fraction
  fraction_length : numeral.fraction.length ≤ places
  trailing_zero : numeral.fraction.getLast? ≠ some '0'
  signed_zero : numeral.isNegative = true → numeral.value ≠ 0

end PlainNumeral

/-- Only zero is written as zero. -/
theorem eq_zero_of_digitChar
    {digit : Nat}
    (small : digit < 10)
    (isZero : Nat.digitChar digit = '0') :
    digit = 0 := by
  have value := Nat.toNat_digitChar_sub_48_of_lt_ten small
  rw [isZero] at value
  exact value.symm

/-- The digits of a positive number do not begin with a zero. -/
theorem head?_toDigits_ne_zero
    {number : Nat}
    (positive : 0 < number) :
    (Nat.toDigits 10 number).head? ≠ some '0' := by
  induction number using Nat.strongRecOn with
  | ind number inductionHypothesis =>
      by_cases single : number < 10
      · rw [Nat.toDigits_of_lt_base single]
        intro isZero
        have digit : Nat.digitChar number = '0' := by
          simpa using isZero
        exact positive.ne' (eq_zero_of_digitChar single digit)
      · have more : 10 ≤ number := Nat.le_of_not_lt single
        rw [Nat.toDigits_of_base_le (by decide) more,
          List.head?_append_of_ne_nil _ Nat.toDigits_ne_nil]
        exact inductionHypothesis (number / 10) (by omega) (by omega)

namespace Decimal

/-- Decimals have the same rational value exactly if they are numerically equal. -/
theorem toRat_inj (left right : Decimal) :
    left.toRat = right.toRat ↔ left.sameValue right = true := by
  have nonzero (places : Nat) : 10 ^ places ≠ 0 :=
    Nat.ne_of_gt (Nat.pow_pos (by decide))
  rw [toRat, toRat, Rat.mkRat_eq_iff (nonzero _) (nonzero _), sameValue,
    beq_iff_eq]
  norm_cast

/-- A value is zero exactly if its coefficient is. -/
theorem toRat_eq_zero (value : Decimal) :
    value.toRat = 0 ↔ value.coefficient = 0 := by
  rw [toRat_eq_div, div_eq_zero_iff]
  simp

/-- The numeral that a decimal is written as. -/
def numeral (value : Decimal) : PlainNumeral where
  isNegative := decide (value.coefficient < 0)
  whole := value.wholeDigits
  fraction :=
    lastDigits value.scale (value.coefficient.natAbs % 10 ^ value.scale)

/-- The numeral of a value has the characters that are written for it. -/
theorem characters_numeral (value : Decimal) :
    value.numeral.characters = value.toChars := by
  have noFraction :
      lastDigits value.scale (value.coefficient.natAbs % 10 ^ value.scale) = [] ↔
        value.scale = 0 := by
    rw [← List.length_eq_zero_iff, length_lastDigits]
  simp only [PlainNumeral.characters, numeral, noFraction, toChars,
    signChars_eq, fractionChars, List.append_assoc]

/-- The whole part of the numeral is that of the value. -/
theorem magnitude_numeral (value : Decimal) :
    value.numeral.magnitude = value.coefficient.natAbs / 10 ^ value.scale := by
  have whole :
      Nat.ofDigitChars 10 value.wholeDigits 0 =
        value.coefficient.natAbs / 10 ^ value.scale :=
    Nat.ofDigitChars_ten_toDigits
  have fraction :
      Nat.ofDigitChars 10
          (lastDigits value.scale
            (value.coefficient.natAbs % 10 ^ value.scale)) 0 =
        value.coefficient.natAbs % 10 ^ value.scale := by
    rw [ofDigitChars_lastDigits, Nat.mod_mod, Nat.zero_mul, Nat.zero_add]
  have division :
      ((10 ^ value.scale : Nat) : Rat) *
          (value.coefficient.natAbs / 10 ^ value.scale : Nat) +
          (value.coefficient.natAbs % 10 ^ value.scale : Nat) =
        value.coefficient.natAbs := by
    exact_mod_cast
      Nat.div_add_mod value.coefficient.natAbs (10 ^ value.scale)
  simp only [PlainNumeral.magnitude, numeral, whole, fraction,
    length_lastDigits]
  rw [← division]
  push_cast
  field_simp

/-- The numeral of a decimal stands for its value. -/
theorem value_numeral (value : Decimal) :
    value.numeral.value = value.toRat := by
  rw [PlainNumeral.value, magnitude_numeral, toRat_eq_div]
  by_cases negative : value.coefficient < 0
  · have size : (value.coefficient.natAbs : Rat) = -value.coefficient := by
      rw [Nat.cast_natAbs, abs_of_neg negative]
      push_cast
      rfl
    simp only [numeral, negative, decide_true, ↓reduceIte, size]
    ring
  · have size : (value.coefficient.natAbs : Rat) = value.coefficient := by
      rw [Nat.cast_natAbs, abs_of_nonneg (not_lt.mp negative)]
    simp [numeral, negative, size]

/-- The numeral of a brief decimal is canonical. -/
theorem isCanonical_numeral
    {value : Decimal}
    (brief : value.IsBrief)
    {places : Nat}
    (short : value.scale ≤ places) :
    value.numeral.IsCanonical places where
  whole_run := ⟨value.wholeDigits_ne_nil, value.allDigits_wholeDigits⟩
  leading_zero := by
    intro rest shape
    simp only [numeral, wholeDigits] at shape
    rcases Nat.eq_zero_or_pos
        (value.coefficient.natAbs / 10 ^ value.scale) with zero | positive
    · rw [zero] at shape
      exact (List.cons.inj shape).2.symm
    · exact (head?_toDigits_ne_zero positive (by rw [shape]; rfl)).elim
  fraction_digits := allDigits_lastDigits _ _
  fraction_length := by
    simpa [numeral] using short
  trailing_zero := by
    rcases brief with unscaled | lastNonzero
    · simp [numeral, unscaled, lastDigits]
    · cases scale : value.scale with
      | zero =>
          simp [numeral, scale, lastDigits]
      | succ fewer =>
          intro isZero
          have digit :
              Nat.digitChar
                  (value.coefficient.natAbs % 10 ^ (fewer + 1) % 10) = '0' := by
            simpa [numeral, scale, lastDigits] using isZero
          have divides : 10 ∣ 10 ^ (fewer + 1) :=
            ⟨10 ^ fewer, Nat.pow_succ'⟩
          have last := eq_zero_of_digitChar (Nat.mod_lt _ (by decide)) digit
          rw [Nat.mod_mod_of_dvd _ divides] at last
          omega
  signed_zero := by
    intro negative
    have below : value.coefficient < 0 := by
      simpa [numeral] using negative
    rw [value_numeral, Ne, toRat_eq_zero]
    omega

end Decimal

namespace FormatOptions

variable {options : FormatOptions}

/-- Without separators the text of an amount is the numeral of what is shown. -/
theorem toList_decimalText
    (ungrouped : options.grouping = false)
    (value : Decimal) :
    (options.decimalText value).toList = (options.rounded value).toChars := by
  rw [decimalText, String.toList_ofList, decimalChars_of_ungrouped ungrouped]

/-- The text of an amount is read as the value that is shown. -/
theorem ofText_decimalText
    (ungrouped : options.grouping = false)
    (value : Decimal) :
    Decimal.ofText (options.decimalText value) = .ok (options.rounded value) := by
  rw [Decimal.ofText, toList_decimalText ungrouped, Decimal.ofChars_toChars]

/-- On its own the text of an amount is a single number. -/
theorem tokenize_decimalText
    (ungrouped : options.grouping = false)
    (value : Decimal) :
    tokenize (options.decimalText value) =
      .ok [.number (options.rounded value)] := by
  have spaced :
      Token.Spaced [.number (options.rounded value)]
        (options.decimalText value).toList := by
    have written :=
      Token.Spaced.token (.number (options.rounded value))
        Token.Spaced.noBlanks (.ending Token.Spaced.noBlanks)
    rw [toList_decimalText ungrouped]
    simpa [Token.text, Decimal.text] using written
  exact (tokenize_eq_ok_iff _ _).mpr
    (spaced.tokensOf_eq (.lastNumber 0 (options.rounded value)))

/-- Amounts have the same text exactly if the same value is shown for them. -/
theorem decimalText_inj
    (ungrouped : options.grouping = false)
    (value other : Decimal) :
    options.decimalText value = options.decimalText other ↔
      options.rounded value = options.rounded other := by
  constructor
  · intro same
    have read := ofText_decimalText ungrouped value
    rw [same, ofText_decimalText ungrouped other] at read
    exact (Except.ok.inj read).symm
  · intro same
    rw [← String.toList_inj, toList_decimalText ungrouped,
      toList_decimalText ungrouped, same]

/-- What is shown is the same exactly if the amounts round to the same value. -/
theorem rounded_eq_iff (value other : Decimal) :
    options.rounded value = options.rounded other ↔
      ∃ rounded,
        RoundsTo options.maxFractionDigits value.toRat rounded ∧
          RoundsTo options.maxFractionDigits other.toRat rounded := by
  constructor
  · intro same
    refine ⟨(options.rounded value).toRat, options.roundsTo_rounded value, ?_⟩
    rw [same]
    exact options.roundsTo_rounded other
  · rintro ⟨rounded, rounds, rounds'⟩
    have same :
        (options.rounded value).toRat = (options.rounded other).toRat :=
      (rounds.unique (options.roundsTo_rounded value)).trans
        (rounds'.unique (options.roundsTo_rounded other)).symm
    exact (options.isBrief_rounded value).eq_of_sameValue
      (options.isBrief_rounded other) ((Decimal.toRat_inj _ _).mp same)

/--
Without separators an amount is shown as the canonical numeral of the nearest
multiple of the last place, of the even one if two are nearest, and zero is
shown without a sign.  The text is read again as exactly that value, which has
the same text, and two amounts have the same text exactly if they round to the
same value.
-/
theorem decimalText_nearest
    (ungrouped : options.grouping = false)
    (value other : Decimal) :
    (∃ (numeral : PlainNumeral) (shown : Decimal),
        (options.decimalText value).toList = numeral.characters ∧
          numeral.IsCanonical options.maxFractionDigits ∧
          RoundsTo options.maxFractionDigits value.toRat numeral.value ∧
          (value.scale ≤ options.maxFractionDigits →
            numeral.value = value.toRat) ∧
          (numeral.value = 0 → options.decimalText value = "0") ∧
          Decimal.ofText (options.decimalText value) = .ok shown ∧
          tokenize (options.decimalText value) = .ok [.number shown] ∧
          shown.toRat = numeral.value ∧
          options.decimalText shown = options.decimalText value) ∧
      (options.decimalText value = options.decimalText other ↔
        ∃ rounded,
          RoundsTo options.maxFractionDigits value.toRat rounded ∧
            RoundsTo options.maxFractionDigits other.toRat rounded) := by
  have denoted := (options.rounded value).value_numeral
  refine ⟨⟨(options.rounded value).numeral, options.rounded value, ?_, ?_, ?_,
    ?_, ?_, ofText_decimalText ungrouped value,
    tokenize_decimalText ungrouped value, denoted.symm, ?_⟩, ?_⟩
  · rw [toList_decimalText ungrouped, Decimal.characters_numeral]
  · exact Decimal.isCanonical_numeral (options.isBrief_rounded value)
      (options.scale_rounded_le value)
  · rw [denoted]
    exact options.roundsTo_rounded value
  · intro short
    rw [denoted, toRat_rounded_of_scale_le short]
  · intro isZero
    rw [denoted, Decimal.toRat_eq_zero] at isZero
    have shown : options.rounded value = .zero :=
      Decimal.eq_zero_of_isBrief (options.isBrief_rounded value) isZero
    rw [← String.toList_inj, toList_decimalText ungrouped, shown]
    rfl
  · rw [decimalText_inj ungrouped, rounded_rounded]
  · rw [decimalText_inj ungrouped, rounded_eq_iff]

/-- An amount half a thousandth below ten. -/
def belowTen : Decimal :=
  ⟨99995, 4, by decide, by decide⟩

/-- An amount half a thousandth above ten. -/
def aboveTen : Decimal :=
  ⟨100005, 4, by decide, by decide⟩

/-- Ten thousand thousandths are even, so both halves are shown as ten. -/
theorem decimalText_nearest_ten :
    FormatOptions.decimalText {} belowTen = "10" ∧
      FormatOptions.decimalText {} aboveTen = "10" ∧
      (∃ numeral : PlainNumeral,
        "10".toList = numeral.characters ∧
          numeral.IsCanonical 3 ∧
          RoundsTo 3 belowTen.toRat numeral.value) ∧
      tokenize "10" = .ok [.number ⟨10, 0, by decide, by decide⟩] ∧
      ∃ rounded,
        RoundsTo 3 belowTen.toRat rounded ∧
          RoundsTo 3 aboveTen.toRat rounded := by
  have ungrouped : ({} : FormatOptions).grouping = false :=
    rfl
  have below : FormatOptions.decimalText {} belowTen = "10" := by
    decide
  have above : FormatOptions.decimalText {} aboveTen = "10" := by
    decide
  obtain ⟨⟨numeral, shown, characters, canonical, rounds, -, -, read,
      scanned, -, -⟩, sameText⟩ :=
    decimalText_nearest ungrouped belowTen aboveTen
  rw [below] at characters read scanned
  have value : shown = ⟨10, 0, by decide, by decide⟩ :=
    (Except.ok.inj read).symm
  rw [value] at scanned
  exact ⟨below, above, ⟨numeral, characters, canonical, rounds⟩, scanned,
    sameText.mp (below.trans above.symm)⟩

end FormatOptions

end LengthCalc
