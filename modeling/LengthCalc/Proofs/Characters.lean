import LengthCalc.LengthUnit.Basic
import LengthCalc.Token.CharClass

namespace LengthCalc

/-!
# The characters of each class

What a class says about its characters.  Only letters are alphabetic, and the
letters of the codes of the units are letters in capitals, too.
-/

/-- No letter of the alphabet comes before the capital one with code 65. -/
theorem isAlpha_eq_false_of_lt
    {character : Char}
    (below : character.toNat < 65) :
    character.isAlpha = false := by
  change (decide (65 ≤ character.val ∧ character.val ≤ 90) ||
    (decide (97 ≤ character.val) && decide (character.val ≤ 122))) = false
  simp only [Bool.or_eq_false_iff, Bool.and_eq_false_iff,
    decide_eq_false_iff_not, UInt32.le_iff_toNat_le]
  change character.val.toNat < 65 at below
  have upper : UInt32.toNat 65 = 65 := rfl
  have lower : UInt32.toNat 97 = 97 := rfl
  omega

/-- No letter at all comes before code 65. -/
theorem isAlphabetic_eq_false_of_lt
    {character : Char}
    (below : character.toNat < 65) :
    isAlphabetic character = false := by
  have ascii : character.toNat < 128 := by
    omega
  rw [isAlphabetic, if_pos ascii, isAlpha_eq_false_of_lt below]

/-- The digits are the ten code points from forty-eight on. -/
theorem toNat_bounds_of_isDigit
    {character : Char}
    (digit : character.isDigit = true) :
    48 ≤ character.toNat ∧ character.toNat ≤ 57 := by
  simpa [Char.isDigit, UInt32.le_iff_toNat_le] using digit

/-- A digit is not a letter. -/
theorem isAlphabetic_eq_false_of_isDigit
    {character : Char}
    (digit : character.isDigit = true) :
    isAlphabetic character = false := by
  have bounds := toNat_bounds_of_isDigit digit
  exact isAlphabetic_eq_false_of_lt (by omega)

/-- A letter is one in capitals, too. -/
theorem isAlpha_of_toLower
    {character : Char}
    (letter : character.toLower.isAlpha = true) :
    character.isAlpha = true := by
  unfold Char.toLower at letter
  split at letter
  · next capital =>
      have upper : character.isUpper = true := decide_eq_true capital
      exact (Bool.or_eq_true _ _).mpr (.inl upper)
  · exact letter

/-- The small form of a capital letter is a small letter. -/
theorem isLower_toLower_of_isUpper
    {character : Char}
    (upper : character.isUpper = true) :
    character.toLower.isLower = true := by
  have capital : character.val ≥ 'A'.val ∧ character.val ≤ 'Z'.val :=
    of_decide_eq_true upper
  unfold Char.toLower Char.isLower
  rw [dif_pos capital]
  simp only [ge_iff_le, UInt32.le_iff_toNat_le,
    UInt32.toNat_add, Bool.and_eq_true, decide_eq_true_eq] at capital ⊢
  have firstCapital : 'A'.val.toNat = 65 := rfl
  have lastCapital : 'Z'.val.toNat = 90 := rfl
  have firstSmall : 'a'.val.toNat = 97 := rfl
  have lastSmall : 'z'.val.toNat = 122 := rfl
  have distance : ('a'.val - 'A'.val).toNat = 32 := rfl
  omega

/-- Only capital letters have another small form. -/
theorem toLower_of_not_isUpper
    {character : Char}
    (notUpper : character.isUpper = false) :
    character.toLower = character := by
  unfold Char.toLower
  rw [dif_neg (of_decide_eq_false notUpper)]

/-- What has been made small stays as it is. -/
theorem toLower_toLower (character : Char) :
    character.toLower.toLower = character.toLower := by
  cases upper : character.isUpper with
  | false =>
      rw [toLower_of_not_isUpper upper, toLower_of_not_isUpper upper]
  | true =>
      have small := isLower_toLower_of_isUpper upper
      refine toLower_of_not_isUpper ?_
      unfold Char.isLower at small
      unfold Char.isUpper
      simp only [ge_iff_le, UInt32.le_iff_toNat_le, Bool.and_eq_true,
        decide_eq_true_eq, decide_eq_false_iff_not] at small ⊢
      have lastCapital : 'Z'.val.toNat = 90 := rfl
      have firstSmall : 'a'.val.toNat = 97 := rfl
      omega

/-- The code points of the blanks beyond ASCII are not alphabetic. -/
private theorem no_range_of_blank :
    ∀ point ∈
      [133, 160, 5760, 8192, 8193, 8194, 8195, 8196, 8197, 8198, 8199, 8200,
        8201, 8202, 8232, 8233, 8239, 8287, 12288],
      (Alphabetic.ranges.any fun range =>
        range.1 ≤ point && point ≤ range.2) = false := by
  decide +kernel

/-- A blank is not a letter. -/
theorem isAlphabetic_eq_false_of_isBlank
    {character : Char}
    (blank : isBlank character = true) :
    isAlphabetic character = false := by
  simp only [isBlank, blankRanges, List.any_cons, List.any_nil, Bool.or_false,
    Bool.or_eq_true, Bool.and_eq_true, decide_eq_true_eq] at blank
  by_cases ascii : character.toNat < 65
  · exact isAlphabetic_eq_false_of_lt ascii
  · have beyond : ¬ character.toNat < 128 := by
      omega
    rw [isAlphabetic, if_neg beyond]
    refine no_range_of_blank character.toNat ?_
    simp only [List.mem_cons, List.not_mem_nil, or_false]
    omega

namespace CharClass

/-- The characters of a class. -/
def Holds : CharClass → Char → Prop
  | .space, character => isBlank character = true
  | .digit, character => character.isDigit = true
  | .letter, character => isAlphabetic character = true
  | .openBracket, character => character = '('
  | .closeBracket, character => character = ')'
  | .minus, character => character = '-'
  | .plus, character => character = '+'
  | .point, character => character = '.'

/-- A character that is put in a class has the property of the class. -/
theorem holds_of_of?
    {character : Char}
    {charClass : CharClass}
    (classified : of? character = some charClass) :
    charClass.Holds character := by
  unfold of? at classified
  split at classified
  · next blank =>
      cases classified
      exact blank
  · split at classified
    · next digit =>
        cases classified
        exact digit
    · split at classified
      · next letter =>
          cases classified
          exact letter
      · unfold ofSign? at classified
        split at classified <;> cases classified <;> rfl

/-- Blanks are classified as spaces. -/
theorem of?_of_isBlank
    {character : Char}
    (blank : isBlank character = true) :
    of? character = some .space := by
  rw [of?, if_pos blank]

/-- Only the class of spaces holds blanks. -/
theorem isBlank_eq_false_of_of?
    {character : Char}
    {charClass : CharClass}
    (classified : of? character = some charClass)
    (noSpace : charClass ≠ .space) :
    isBlank character = false := by
  cases blank : isBlank character with
  | false =>
      rfl
  | true =>
      rw [of?_of_isBlank blank] at classified
      exact (noSpace (Option.some.inj classified).symm).elim

/-- Only letters are alphabetic. -/
theorem isAlphabetic_eq_false_of_of?
    {character : Char}
    {charClass : CharClass}
    (classified : of? character = some charClass)
    (noLetter : charClass ≠ .letter) :
    isAlphabetic character = false := by
  have holds := holds_of_of? classified
  cases charClass with
  | space =>
      exact isAlphabetic_eq_false_of_isBlank holds
  | digit =>
      exact isAlphabetic_eq_false_of_isDigit holds
  | letter =>
      exact (noLetter rfl).elim
  | openBracket =>
      cases holds
      decide
  | closeBracket =>
      cases holds
      decide
  | minus =>
      cases holds
      decide
  | plus =>
      cases holds
      decide
  | point =>
      cases holds
      decide

/-- The letters of the alphabet are classified as letters. -/
theorem of?_of_isAlpha
    {character : Char}
    (letter : character.isAlpha = true) :
    of? character = some .letter := by
  have alphabetic := isAlphabetic_of_isAlpha letter
  have noBlank : isBlank character ≠ true := by
    intro blank
    rw [isAlphabetic_eq_false_of_isBlank blank] at alphabetic
    contradiction
  have noDigit : character.isDigit ≠ true := by
    intro digit
    rw [isAlphabetic_eq_false_of_isDigit digit] at alphabetic
    contradiction
  rw [of?, if_neg noBlank, if_neg noDigit, if_pos alphabetic]

/-- A digit is not a blank. -/
theorem isBlank_of_isDigit
    {character : Char}
    (digit : character.isDigit = true) :
    isBlank character = false := by
  have bounds := toNat_bounds_of_isDigit digit
  simp only [isBlank, blankRanges, List.any_cons, List.any_nil,
    Bool.or_false, Bool.or_eq_false_iff, Bool.and_eq_false_iff,
    decide_eq_false_iff_not]
  omega

/-- Digits are classified as digits. -/
theorem of?_isDigit
    {character : Char}
    (digit : character.isDigit = true) :
    of? character = some .digit := by
  simp [of?, isBlank_of_isDigit digit, digit]

@[simp] theorem of?_openBracket : of? '(' = some .openBracket := by
  decide

@[simp] theorem of?_closeBracket : of? ')' = some .closeBracket := by
  decide

@[simp] theorem of?_minus : of? '-' = some .minus := by
  decide

@[simp] theorem of?_plus : of? '+' = some .plus := by
  decide

@[simp] theorem of?_point : of? '.' = some .point := by
  decide

@[simp] theorem of?_space : of? ' ' = some .space := by
  decide

/-- A letter of a code is a letter, also as a capital. -/
theorem of?_of_toLower_mem_code
    {character : Char}
    {unit : LengthUnit}
    (member : character.toLower ∈ unit.code.toList) :
    of? character = some .letter := by
  have letters : unit.code.toList.all Char.isAlpha = true := by
    cases unit <;> decide
  exact of?_of_isAlpha
    (isAlpha_of_toLower (List.all_eq_true.mp letters _ member))

end CharClass

end LengthCalc
