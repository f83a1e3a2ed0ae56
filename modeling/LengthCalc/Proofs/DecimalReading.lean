import LengthCalc.Decimal.Text

namespace LengthCalc.Decimal

/-!
# Written decimals are read back

Reading the characters of a decimal gives that decimal with its scale.  The
digits of the coefficient never leave the bounds on the way, since every
beginning of them stands for a smaller number.
-/

/-- The characters of a run of decimal digits. -/
def AllDigits (characters : List Char) : Prop :=
  ∀ character ∈ characters, character.isDigit = true

/-- The first of some digits is a digit. -/
theorem AllDigits.head
    {digit : Char}
    {rest : List Char}
    (digits : AllDigits (digit :: rest)) :
    digit.isDigit = true :=
  digits digit (by simp)

/-- What is behind the first of some digits are digits. -/
theorem AllDigits.tail
    {digit : Char}
    {rest : List Char}
    (digits : AllDigits (digit :: rest)) :
    AllDigits rest :=
  fun character member => digits character (List.mem_cons_of_mem digit member)

/-- The whole part of a value is written with digits. -/
theorem allDigits_wholeDigits (value : Decimal) :
    AllDigits value.wholeDigits :=
  fun _ member =>
    Nat.isDigit_of_mem_toDigits (by decide) (by decide) member

/-- The whole part of a value is never left out. -/
theorem wholeDigits_ne_nil (value : Decimal) : value.wholeDigits ≠ [] :=
  Nat.toDigits_ne_nil

/-- The last digits of a number are digits. -/
theorem allDigits_lastDigits (width number : Nat) :
    AllDigits (lastDigits width number) := by
  induction width generalizing number with
  | zero =>
      intro character member
      simp [lastDigits] at member
  | succ width inductionHypothesis =>
      intro character member
      rcases List.mem_append.mp member with inFront | isLast
      · exact inductionHypothesis (number / 10) character inFront
      · rw [List.mem_singleton.mp isLast]
        have small : number % 10 < 10 := Nat.mod_lt _ (by decide)
        simpa using small

@[simp] theorem length_lastDigits (width number : Nat) :
    (lastDigits width number).length = width := by
  induction width generalizing number with
  | zero =>
      rfl
  | succ width inductionHypothesis =>
      simp [lastDigits, inductionHypothesis]

/-- The last digits of a number stand for its remainder. -/
theorem ofDigitChars_lastDigits (width number start : Nat) :
    Nat.ofDigitChars 10 (lastDigits width number) start =
      start * 10 ^ width + number % 10 ^ width := by
  induction width generalizing number with
  | zero =>
      simp [lastDigits, Nat.mod_one]
  | succ width inductionHypothesis =>
      have small : number % 10 < 10 := Nat.mod_lt _ (by decide)
      have remainder :
          number % 10 ^ (width + 1) =
            number % 10 + 10 * (number / 10 % 10 ^ width) := by
        rw [Nat.pow_succ, Nat.mul_comm, Nat.mod_mul]
      rw [lastDigits, Nat.ofDigitChars_append, inductionHypothesis,
        Nat.ofDigitChars_cons_digitChar_of_lt_ten small,
        Nat.ofDigitChars_nil, remainder, Nat.pow_succ]
      grind

/-- More digits never make a number smaller. -/
theorem le_ofDigitChars (digits : List Char) (start : Nat) :
    start ≤ Nat.ofDigitChars 10 digits start := by
  induction digits generalizing start with
  | nil =>
      simp
  | cons digit rest inductionHypothesis =>
      rw [Nat.ofDigitChars_cons]
      exact Nat.le_trans (by omega) (inductionHypothesis _)

/-- The first digit is taken up before the others. -/
theorem ofDigitChars_cons_eq
    (digit : Char)
    (rest : List Char)
    (start : Nat) :
    Nat.ofDigitChars 10 (digit :: rest) start =
      Nat.ofDigitChars 10 rest (start * 10 + digitValue digit) := by
  rw [Nat.ofDigitChars_cons, Nat.mul_comm]
  rfl

namespace Reading

/-- Digits before the point that stay in bounds are all taken. -/
theorem readWhole_digits
    {digits : List Char}
    (allDigits : AllDigits digits)
    (reading : Reading)
    (hasDigit : Bool)
    (rest : List Char)
    (bounded : Nat.ofDigitChars 10 digits reading.magnitude < 2 ^ 96) :
    readWhole reading hasDigit (digits ++ rest) =
      readWhole
        ⟨Nat.ofDigitChars 10 digits reading.magnitude, reading.scale,
          bounded, reading.scale_le⟩
        (hasDigit || !digits.isEmpty) rest := by
  induction digits generalizing reading hasDigit with
  | nil =>
      simp
  | cons digit later inductionHypothesis =>
      have shape := ofDigitChars_cons_eq digit later reading.magnitude
      have fits : reading.magnitude * 10 + digitValue digit < 2 ^ 96 := by
        rw [shape] at bounded
        exact Nat.lt_of_le_of_lt (le_ofDigitChars later _) bounded
      have taken :
          readWhole reading hasDigit (digit :: (later ++ rest)) =
            readWhole
              ⟨reading.magnitude * 10 + digitValue digit, reading.scale,
                fits, reading.scale_le⟩
              true (later ++ rest) := by
        rw [readWhole, if_pos allDigits.head, dif_pos fits]
      rw [List.cons_append, taken,
        inductionHypothesis allDigits.tail _ _ (by rwa [← shape])]
      simp [shape]

/-- Digits that fit are read as they stand, each one a decimal place. -/
theorem readFraction_digits
    {digits : List Char}
    (allDigits : AllDigits digits)
    (reading : Reading)
    (hasDigit : Bool)
    (bounded : Nat.ofDigitChars 10 digits reading.magnitude < 2 ^ 96)
    (room : reading.scale + digits.length ≤ 28) :
    readFraction reading hasDigit digits =
      finish
        ⟨Nat.ofDigitChars 10 digits reading.magnitude,
          reading.scale + digits.length, bounded, room⟩
        (hasDigit || !digits.isEmpty) := by
  induction digits generalizing reading hasDigit with
  | nil =>
      simp [readFraction]
  | cons digit later inductionHypothesis =>
      have shape := ofDigitChars_cons_eq digit later reading.magnitude
      have fits : reading.magnitude * 10 + digitValue digit < 2 ^ 96 := by
        rw [shape] at bounded
        exact Nat.lt_of_le_of_lt (le_ofDigitChars later _) bounded
      rw [List.length_cons] at room
      have free : reading.scale < 28 := by omega
      have taken :
          readFraction reading hasDigit (digit :: later) =
            readFraction
              ⟨reading.magnitude * 10 + digitValue digit, reading.scale + 1,
                fits, free⟩
              true later := by
        rw [readFraction, dif_pos free, if_pos allDigits.head, dif_pos fits]
      rw [taken,
        inductionHypothesis allDigits.tail _ _ (by rwa [← shape])
          (by simp only; omega)]
      simp only [shape, List.length_cons, Nat.add_assoc, Nat.add_comm 1,
        Bool.true_or, List.isEmpty_cons, Bool.not_false, Bool.or_true]

/-- A written fraction is read back as the decimal places it was written from.
-/
theorem readFraction_lastDigits
    (reading : Reading)
    (width number : Nat)
    (bounded :
      reading.magnitude * 10 ^ width + number % 10 ^ width < 2 ^ 96)
    (room : reading.scale + width ≤ 28) :
    readFraction reading true (lastDigits width number) =
      .ok ⟨reading.magnitude * 10 ^ width + number % 10 ^ width,
        reading.scale + width, bounded, room⟩ := by
  have digitsBounded :
      Nat.ofDigitChars 10 (lastDigits width number) reading.magnitude <
        2 ^ 96 := by
    rwa [ofDigitChars_lastDigits]
  have digitsRoom :
      reading.scale + (lastDigits width number).length ≤ 28 := by
    rwa [length_lastDigits]
  rw [readFraction_digits (allDigits_lastDigits width number) reading true
    digitsBounded digitsRoom]
  simp [finish, ofDigitChars_lastDigits]

/-- The unsigned characters of a decimal are read as its two parts. -/
theorem readWhole_unsigned (value : Decimal) :
    empty.readWhole false (value.wholeDigits ++ value.fractionChars) =
      .ok ⟨value.coefficient.natAbs, value.scale,
        value.coefficient_lt, value.scale_le⟩ := by
  have wholeValue :
      Nat.ofDigitChars 10 value.wholeDigits 0 =
        value.coefficient.natAbs / 10 ^ value.scale :=
    Nat.ofDigitChars_ten_toDigits
  have wholeBounded :
      Nat.ofDigitChars 10 value.wholeDigits empty.magnitude < 2 ^ 96 := by
    simp only [empty, wholeValue]
    exact Nat.lt_of_le_of_lt (Nat.div_le_self _ _) value.coefficient_lt
  have seen : value.wholeDigits.isEmpty = false := by
    simpa using value.wholeDigits_ne_nil
  rw [readWhole_digits value.allDigits_wholeDigits _ _ _ wholeBounded, seen]
  by_cases unscaled : value.scale = 0
  · simp [fractionChars, unscaled, readWhole, finish, empty, wholeValue]
  · have joined :
        value.coefficient.natAbs / 10 ^ value.scale * 10 ^ value.scale +
            value.coefficient.natAbs % 10 ^ value.scale =
          value.coefficient.natAbs := by
      rw [Nat.mul_comm]
      exact Nat.div_add_mod _ _
    have pointNotDigit : ('.').isDigit = false := by decide
    simp only [fractionChars, unscaled, ↓reduceIte, readWhole,
      pointNotDigit, Bool.false_eq_true, Bool.not_false, Bool.or_true,
      empty, wholeValue]
    rw [readFraction_lastDigits]
    · simp [joined]
    · simpa [joined] using value.coefficient_lt
    · simpa using value.scale_le

end Reading

/-- A text that begins with a digit has no sign. -/
theorem splitSign_of_isDigit
    {digit : Char}
    (isDigit : digit.isDigit = true)
    (rest : List Char) :
    splitSign (digit :: rest) = (false, digit :: rest) := by
  unfold splitSign
  split
  · next shape =>
      obtain ⟨same, -⟩ := List.cons.inj shape
      subst same
      simp at isDigit
  · next shape =>
      obtain ⟨same, -⟩ := List.cons.inj shape
      subst same
      simp at isDigit
  · rfl

/-- The sign of a written decimal is told apart from its digits. -/
theorem splitSign_toChars (value : Decimal) :
    splitSign value.toChars =
      (decide (value.coefficient < 0),
        value.wholeDigits ++ value.fractionChars) := by
  by_cases negative : value.coefficient < 0
  · simp [toChars, signChars, negative, splitSign]
  · obtain ⟨digit, rest, shape⟩ :=
      List.exists_cons_of_ne_nil value.wholeDigits_ne_nil
    have isDigit : digit.isDigit = true :=
      value.allDigits_wholeDigits digit (by simp [shape])
    simp [toChars, signChars, negative, shape,
      splitSign_of_isDigit isDigit]

/-- Reading the characters of a decimal gives it back with its scale. -/
theorem ofChars_toChars (value : Decimal) :
    ofChars value.toChars = .ok value := by
  rw [ofChars, splitSign_toChars]
  simp only [ofUnsigned, Reading.readWhole_unsigned]
  refine congrArg Except.ok (ext_of_parts ?_ rfl)
  simp only [Reading.toDecimal, decide_eq_true_eq]
  split <;> omega

end LengthCalc.Decimal
