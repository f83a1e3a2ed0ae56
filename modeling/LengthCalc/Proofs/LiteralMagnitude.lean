import LengthCalc.Proofs.DecimalRange
import LengthCalc.Proofs.ShownNumbers

namespace LengthCalc

/-!
# Literals that are too large

The literal of a number is a numeral with at least one integer digit.  It is
refused exactly if the number that it stands for does not round to an integer
below `2 ^ 96`.  Places of the fraction are given up before a number is refused,
so what decides is the integer part, and whether the fraction is a half or more.
-/

namespace PlainNumeral

/-- At least one digit is before the point, and only digits are around it. -/
structure IsLiteral (numeral : PlainNumeral) : Prop where
  whole_run : IsDigitRun numeral.whole
  fraction_digits : Decimal.AllDigits numeral.fraction

end PlainNumeral

/-- The literal of a number is a numeral, whatever the number leaves out. -/
theorem NumberForm.exists_numeral
    {characters literal : List Char}
    (form : NumberForm characters literal) :
    ∃ numeral : PlainNumeral,
      numeral.IsLiteral ∧ literal = numeral.characters := by
  cases form with
  | @whole isNegative digits run =>
      exact ⟨⟨isNegative, digits, []⟩, ⟨run, Decimal.allDigits_nil⟩,
        by simp [PlainNumeral.characters]⟩
  | @fraction isNegative whole digits wholeRun run =>
      exact ⟨⟨isNegative, whole, digits⟩, ⟨wholeRun, run.digits⟩,
        by simp [PlainNumeral.characters, run.nonempty]⟩
  | @bareFraction isNegative digits run =>
      exact ⟨⟨isNegative, ['0'], digits⟩,
        ⟨.singleton (by decide), run.digits⟩,
        by simp [PlainNumeral.characters, run.nonempty]⟩

namespace Decimal

theorem digitValue_lt_ten
    {digit : Char}
    (isDigit : digit.isDigit = true) :
    digitValue digit < 10 := by
  have bounds := toNat_bounds_of_isDigit isDigit
  have zero : '0'.toNat = 48 := rfl
  rw [digitValue, zero]
  omega

/-- Digits stand for less than a one with as many zeros. -/
theorem ofDigitChars_lt
    {digits : List Char}
    (allDigits : AllDigits digits) :
    Nat.ofDigitChars 10 digits 0 < 10 ^ digits.length := by
  induction digits with
  | nil =>
      simp
  | cons digit rest inductionHypothesis =>
      have small := digitValue_lt_ten allDigits.head
      have later := inductionHypothesis allDigits.tail
      have leading :
          10 ^ rest.length * digitValue digit ≤ 10 ^ rest.length * 9 :=
        Nat.mul_le_mul_left _ (Nat.le_of_lt_succ small)
      rw [ofDigitChars_cons_eq, Nat.zero_mul, Nat.zero_add,
        Nat.ofDigitChars_eq_ofDigitChars_zero, List.length_cons, Nat.pow_succ]
      omega

/-- The first digit of a fraction tells whether it is a half or more. -/
theorem half_le_ofDigitChars_iff
    {digit : Char}
    {rest : List Char}
    (allDigits : AllDigits (digit :: rest)) :
    10 ^ (digit :: rest).length ≤
        2 * Nat.ofDigitChars 10 (digit :: rest) 0 ↔
      5 ≤ digitValue digit := by
  have later := ofDigitChars_lt allDigits.tail
  rw [ofDigitChars_cons_eq, Nat.zero_mul, Nat.zero_add,
    Nat.ofDigitChars_eq_ofDigitChars_zero, List.length_cons, Nat.pow_succ]
  constructor
  · intro half
    by_contra below
    have leading :
        10 ^ rest.length * digitValue digit ≤ 10 ^ rest.length * 4 :=
      Nat.mul_le_mul_left _ (by omega)
    omega
  · intro above
    have leading :
        10 ^ rest.length * 5 ≤ 10 ^ rest.length * digitValue digit :=
      Nat.mul_le_mul_left _ above
    omega

namespace Reading

variable {reading : Reading}
variable {digits : List Char}

/-- A value with a place to give up is never too large. -/
theorem exists_roundUp_of_scaled
    (scaled : 0 < reading.scale)
    (digit : Nat) :
    ∃ result, reading.roundUp digit = .ok result := by
  unfold roundUp
  split
  · exact ⟨_, rfl⟩
  · split
    · exact ⟨_, rfl⟩
    · rw [if_neg (Nat.ne_of_gt scaled)]
      exact ⟨_, rfl⟩

theorem exists_readFraction_of_scaled
    (allDigits : AllDigits digits)
    (scaled : 0 < reading.scale) :
    ∃ result, reading.readFraction true digits = .ok result := by
  induction digits generalizing reading with
  | nil =>
      exact ⟨reading, rfl⟩
  | cons digit rest inductionHypothesis =>
      rw [readFraction]
      split
      · rw [if_pos allDigits.head]
        split
        · exact inductionHypothesis allDigits.tail (Nat.succ_pos _)
        · exact exists_roundUp_of_scaled scaled _
      · simp only [close, extraDigit?, allDigits.head, ↓reduceIte]
        exact exists_roundUp_of_scaled scaled _

theorem roundUp_refused_iff
    (unscaled : reading.scale = 0)
    (digit : Nat) :
    reading.roundUp digit = .error .outOfRange ↔
      2 ^ 96 ≤ reading.magnitude + 1 ∧ 5 ≤ digit := by
  unfold roundUp
  split
  · simp only [reduceCtorEq, false_iff]
    omega
  · split
    · simp only [reduceCtorEq, false_iff]
      omega
    · simp only [true_iff]
      omega

/--
Behind the point a value is refused only if it is the largest integer and the
fraction would round it up.
-/
theorem readFraction_refused_iff
    (allDigits : AllDigits digits)
    (unscaled : reading.scale = 0) :
    reading.readFraction true digits = .error .outOfRange ↔
      2 ^ 96 ≤ reading.magnitude + 1 ∧
        10 ^ digits.length ≤ 2 * Nat.ofDigitChars 10 digits 0 := by
  cases digits with
  | nil =>
      simp [readFraction, finish]
  | cons digit rest =>
      have room : reading.scale < 28 := by
        omega
      rw [half_le_ofDigitChars_iff allDigits, readFraction, dif_pos room,
        if_pos allDigits.head]
      split
      · next bounded =>
          -- A digit that fits leaves a place that can be given up.
          let taken : Reading :=
            ⟨reading.magnitude * 10 + digitValue digit, reading.scale + 1,
              bounded, room⟩
          have scaled : 0 < taken.scale := Nat.succ_pos _
          obtain ⟨result, read⟩ :=
            exists_readFraction_of_scaled allDigits.tail scaled
          rw [read]
          simp only [reduceCtorEq, false_iff]
          omega
      · exact roundUp_refused_iff unscaled _

/-- Digits before the point are refused if they stand for too large a number. -/
theorem readWhole_refused
    (allDigits : AllDigits digits)
    (hasDigit : Bool)
    (rest : List Char)
    (tooLarge : 2 ^ 96 ≤ Nat.ofDigitChars 10 digits reading.magnitude) :
    reading.readWhole hasDigit (digits ++ rest) = .error .outOfRange := by
  induction digits generalizing reading hasDigit with
  | nil =>
      exact (Nat.not_le_of_lt reading.magnitude_lt tooLarge).elim
  | cons digit later inductionHypothesis =>
      rw [List.cons_append, readWhole, if_pos allDigits.head]
      split
      · rw [ofDigitChars_cons_eq] at tooLarge
        exact inductionHypothesis allDigits.tail true tooLarge
      · rfl

end Reading

variable {numeral : PlainNumeral}

/-- A literal is refused exactly if its digits are. -/
theorem ofChars_refused_iff_readWhole (literal : numeral.IsLiteral) :
    ofChars numeral.characters = .error .outOfRange ↔
      Reading.empty.readWhole false
          (numeral.whole ++
            if numeral.fraction = [] then [] else '.' :: numeral.fraction) =
        .error .outOfRange := by
  rw [ofChars, PlainNumeral.characters,
    splitSign_minusChars numeral.isNegative literal.whole_run]
  simp only [ofUnsigned]
  split
  · next read => simp [read]
  · next fault refused => simp [refused]

/--
What decides on a literal is its integer part, and next to the limit whether its
fraction is a half or more.
-/
theorem ofChars_refused_iff_digits (literal : numeral.IsLiteral) :
    ofChars numeral.characters = .error .outOfRange ↔
      2 ^ 96 ≤ Nat.ofDigitChars 10 numeral.whole 0 ∨
        2 ^ 96 ≤ Nat.ofDigitChars 10 numeral.whole 0 + 1 ∧
          10 ^ numeral.fraction.length ≤
            2 * Nat.ofDigitChars 10 numeral.fraction 0 := by
  rw [ofChars_refused_iff_readWhole literal]
  by_cases tooLarge : 2 ^ 96 ≤ Nat.ofDigitChars 10 numeral.whole 0
  · exact iff_of_true
      (Reading.readWhole_refused literal.whole_run.digits false _ tooLarge)
      (.inl tooLarge)
  · have bounded := Nat.lt_of_not_le tooLarge
    have seen : (false || !numeral.whole.isEmpty) = true := by
      simpa using literal.whole_run.nonempty
    rw [Reading.readWhole_digits literal.whole_run.digits Reading.empty false _
      bounded, seen, or_iff_right tooLarge]
    by_cases none : numeral.fraction = []
    · simp [none, Reading.readWhole, Reading.finish]
    · have pointNotDigit : ('.').isDigit = false := by decide
      simp only [none, ↓reduceIte, Reading.readWhole, pointNotDigit,
        Bool.false_eq_true]
      exact Reading.readFraction_refused_iff literal.fraction_digits rfl

/-- Where a whole number with a fraction reaches a limit less a half. -/
theorem sub_half_le_iff
    (limit whole : Nat)
    {fraction unit : Nat}
    (proper : fraction < unit) :
    (limit : Rat) - 1 / 2 ≤ whole + fraction / unit ↔
      limit ≤ whole ∨ limit ≤ whole + 1 ∧ unit ≤ 2 * fraction := by
  have positive : (0 : Rat) < unit := by
    exact_mod_cast Nat.zero_lt_of_lt proper
  have nonnegative : (0 : Rat) ≤ fraction / unit := by positivity
  have below : (fraction : Rat) / unit < 1 := by
    rw [div_lt_one positive]
    exact_mod_cast proper
  have half : (1 : Rat) / 2 ≤ fraction / unit ↔ unit ≤ 2 * fraction := by
    rw [le_div_iff₀ positive, ← Nat.cast_le (α := Rat)]
    push_cast
    constructor <;> intro bound <;> linarith
  -- The fraction counts only if the whole number is the last below the limit.
  rcases Nat.lt_trichotomy limit (whole + 1) with less | same | more
  · have within : (limit : Rat) ≤ whole := by
      exact_mod_cast Nat.le_of_lt_succ less
    exact iff_of_true (by linarith) (.inl (Nat.le_of_lt_succ less))
  · have next : (limit : Rat) = whole + 1 := by
      exact_mod_cast same
    rw [or_iff_right (by omega), and_iff_right same.le, ← half, next]
    constructor <;> intro bound <;> linarith
  · have beyond : (whole : Rat) + 2 ≤ limit := by
      exact_mod_cast more
    exact iff_of_false (by linarith) (by omega)

/--
A literal is refused exactly if its number is at least half of one above the
largest coefficient.
-/
theorem ofChars_refused_iff (literal : numeral.IsLiteral) :
    ofChars numeral.characters = .error .outOfRange ↔
      2 ^ 96 - 1 / 2 ≤ numeral.magnitude := by
  have decided :=
    sub_half_le_iff (2 ^ 96) (Nat.ofDigitChars 10 numeral.whole 0)
      (ofDigitChars_lt literal.fraction_digits)
  simp only [Nat.cast_pow, Nat.cast_ofNat] at decided
  rw [ofChars_refused_iff_digits literal, PlainNumeral.magnitude, decided]

end Decimal

end LengthCalc
