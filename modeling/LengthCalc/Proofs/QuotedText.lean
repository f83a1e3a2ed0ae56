import LengthCalc.Json.Quoted

namespace LengthCalc.Json.Quoted

/-!
# Text inside quotes

What is written for a character ends before the next one, contains no quote of
its own, and means that character.  So every text is taken back up to its
closing quote and has its own meaning.
-/

/-- The three ways in which a character is written inside quotes. -/
inductive Escape (character : Char) : List Char → Prop where
  | simple
      {letter : Char} :
      letter ≠ 'u' →
      simpleEscape? letter = some character →
      Escape character ['\\', letter]
  | control :
      character.toNat < 32 →
      Escape character (controlEscape character)
  | plain :
      character ≠ '"' →
      character ≠ '\\' →
      ¬ character.toNat < 32 →
      Escape character [character]

theorem escape_escape (character : Char) :
    Escape character (escape character) := by
  unfold escape
  split
  case h_8 noQuote noBackslash _ _ _ _ _ =>
    split
    · next small => exact .control small
    · next large => exact .plain noQuote noBackslash large
  all_goals exact .simple (by decide) rfl

/-- The four digits of a control character are read as its number. -/
theorem hexUnit?_control
    {character : Char}
    (small : character.toNat < 32) :
    hexUnit? '0' '0' (Nat.digitChar (character.toNat / 16))
        (Nat.digitChar (character.toNat % 16)) =
      some character.toNat := by
  have digits :
      ∀ value < 32,
        hexUnit? '0' '0' (Nat.digitChar (value / 16))
            (Nat.digitChar (value % 16)) =
          some value := by
    decide
  exact digits character.toNat small

namespace Escape

variable {character : Char}
variable {written : List Char}

/-- What is written for a character is taken as a whole. -/
theorem take?_append
    (escape : Escape character written)
    (later : List Char) :
    take? (written ++ later) = prepend written (take? later) := by
  cases escape with
  | simple notUnit meant =>
      rw [List.cons_append, List.cons_append, List.nil_append, take?, meant]
      exact fun _ _ _ _ _ isUnit => (notUnit isUnit).elim
  | control small =>
      rw [controlEscape]
      simp only [List.cons_append, List.nil_append, take?,
        hexUnit?_control small]
  | plain noQuote noBackslash large =>
      rw [List.cons_append, List.nil_append, take?, if_neg large]
      · exact noQuote
      · exact fun _ _ _ _ _ isBackslash => (noBackslash isBackslash).elim
      · exact fun _ _ isBackslash => (noBackslash isBackslash).elim

/-- What is written for a character means it. -/
theorem meaning?_append
    (escape : Escape character written)
    (later : List Char) :
    meaning? (written ++ later) = (meaning? later).map (character :: ·) := by
  cases escape with
  | simple notUnit meant =>
      rw [List.cons_append, List.cons_append, List.nil_append, meaning?, meant]
      exact fun _ _ _ _ _ isUnit => (notUnit isUnit).elim
  | control small =>
      have noTrailing : isTrailing character.toNat = false := by
        simp [isTrailing]
        omega
      have noLeading : isLeading character.toNat = false := by
        simp [isLeading]
        omega
      rw [controlEscape]
      simp [meaning?, hexUnit?_control small, noTrailing, noLeading]
  | plain noQuote noBackslash large =>
      rw [List.cons_append, List.nil_append, meaning?]
      · exact fun _ _ _ _ _ isBackslash => (noBackslash isBackslash).elim
      · exact fun _ _ isBackslash => (noBackslash isBackslash).elim

end Escape

/-- What is written for a text is taken up to the quote behind it. -/
theorem take?_escaped
    (text : String)
    (later : List Char) :
    take? (escaped text ++ '"' :: later) = some (escaped text, later) := by
  unfold escaped
  induction text.toList with
  | nil => simp [take?]
  | cons character rest inductionHypothesis =>
      simp only [List.flatMap_cons, List.append_assoc,
        (escape_escape character).take?_append, inductionHypothesis]
      rfl

/-- What is written for a text means that text. -/
@[simp] theorem text?_escaped (text : String) :
    text? (escaped text) = some text := by
  have meant (characters : List Char) :
      meaning? (characters.flatMap escape) = some characters := by
    induction characters with
    | nil => rfl
    | cons character rest inductionHypothesis =>
        simp only [List.flatMap_cons,
          (escape_escape character).meaning?_append, inductionHypothesis,
          Option.map_some]
  simp [text?, escaped, meant]

end LengthCalc.Json.Quoted
