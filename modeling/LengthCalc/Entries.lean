namespace LengthCalc

/-!
# Entries

Values by name, in the order in which the names first came up.
-/

/-- Named values; a name counts where it stands first. -/
abbrev Entries (α : Type) : Type :=
  List (String × α)

namespace Entries

variable {α : Type}

/-- The value of a name. -/
def get? (entries : Entries α) (name : String) : Option α :=
  entries.lookup name

/-- Give a name a value, in place of the one that it has. -/
def insert (entries : Entries α) (name : String) (value : α) : Entries α :=
  match entries with
  | [] => [(name, value)]
  | (other, present) :: rest =>
      if other = name then
        (name, value) :: rest
      else
        (other, present) :: insert rest name value

/-- The value that was inserted is found, every other one is as before. -/
theorem get?_insert
    (entries : Entries α)
    (name other : String)
    (value : α) :
    (entries.insert name value).get? other =
      if other = name then some value else entries.get? other := by
  induction entries with
  | nil =>
      by_cases same : other = name
      · subst same
        simp [insert, get?]
      · have different : (other == name) = false := by
          simpa using same
        simp [insert, get?, List.lookup_cons, same, different]
  | cons entry rest inductionHypothesis =>
      obtain ⟨present, held⟩ := entry
      simp only [get?] at inductionHypothesis
      by_cases found : present = name
      · subst found
        by_cases same : other = present
        · subst same
          simp [insert, get?]
        · have different : (other == present) = false := by
            simpa using same
          simp [insert, get?, List.lookup_cons, same, different]
      · by_cases same : other = present
        · subst same
          simp [insert, get?, found]
        · have different : (other == present) = false := by
            simpa using same
          simp [insert, get?, List.lookup_cons, found, different,
            inductionHypothesis]

end Entries

end LengthCalc
