import LengthCalc.Token.Basic

namespace LengthCalc

/-!
# Nesting of brackets

How deeply a list nests brackets: the largest excess of opening brackets over
closing ones in any of its beginnings.  The list may hold characters or tokens,
and its brackets need not be balanced.
-/

section Nesting

variable {Item : Type} [DecidableEq Item] (opening closing : Item)

/-- The nesting of a list behind one more item. -/
def nestingStep (item : Item) (nesting : Nat) : Nat :=
  if item = opening then
    nesting + 1
  else if item = closing then
    nesting - 1
  else
    nesting

/-- The nesting of a list that is followed by one of known nesting. -/
def nestingBefore (items : List Item) (nesting : Nat) : Nat :=
  items.foldr (nestingStep opening closing) nesting

/-- The largest excess of opening over closing brackets in any beginning. -/
def nestingOf (items : List Item) : Nat :=
  nestingBefore opening closing items 0

@[simp] theorem nestingBefore_nil (nesting : Nat) :
    nestingBefore opening closing [] nesting = nesting :=
  rfl

/-- The first item is counted last, on top of what the others leave open. -/
theorem nestingBefore_cons
    (item : Item)
    (rest : List Item)
    (nesting : Nat) :
    nestingBefore opening closing (item :: rest) nesting =
      nestingStep opening closing item
        (nestingBefore opening closing rest nesting) :=
  rfl

@[simp] theorem nestingBefore_append
    (front back : List Item)
    (nesting : Nat) :
    nestingBefore opening closing (front ++ back) nesting =
      nestingBefore opening closing front
        (nestingBefore opening closing back nesting) := by
  simp [nestingBefore]

/-- Items that are no brackets leave the nesting as it is. -/
theorem nestingBefore_of_not_mem
    {items : List Item}
    (noOpening : opening ∉ items)
    (noClosing : closing ∉ items)
    (nesting : Nat) :
    nestingBefore opening closing items nesting = nesting := by
  induction items with
  | nil =>
      rfl
  | cons item rest inductionHypothesis =>
      simp only [List.mem_cons, not_or] at noOpening noClosing
      have itemNotOpening : item ≠ opening := Ne.symm noOpening.1
      have itemNotClosing : item ≠ closing := Ne.symm noClosing.1
      have restKeeps := inductionHypothesis noOpening.2 noClosing.2
      simp only [nestingBefore, List.foldr_cons] at restKeeps ⊢
      rw [restKeeps]
      simp [nestingStep, itemNotOpening, itemNotClosing]

omit [DecidableEq Item] in
/--
What holds of all beginnings holds of the empty one and of those with the head.
-/
private theorem forall_prefix_cons
    {item : Item}
    {rest : List Item}
    {holds : List Item → Prop} :
    (∀ front, front <+: item :: rest → holds front) ↔
      holds [] ∧ ∀ front, front <+: rest → holds (item :: front) := by
  constructor
  · intro all
    exact ⟨all [] List.nil_prefix, fun front within =>
      all (item :: front) (List.cons_prefix_cons.mpr ⟨rfl, within⟩)⟩
  · rintro ⟨empty, longer⟩ front within
    rcases List.prefix_cons_iff.mp within with rfl | ⟨shorter, rfl, kept⟩
    · exact empty
    · exact longer shorter kept

/--
The nesting is the least bound on the excess of opening over closing brackets
in all beginnings of a list.
-/
theorem nestingOf_le_iff
    (distinct : opening ≠ closing)
    (items : List Item)
    (bound : Nat) :
    nestingOf opening closing items ≤ bound ↔
      ∀ front,
        front <+: items →
        front.count opening ≤ front.count closing + bound := by
  induction items generalizing bound with
  | nil =>
      simp [nestingOf, nestingBefore]
  | cons item rest inductionHypothesis =>
      have step :
          nestingOf opening closing (item :: rest) =
            nestingStep opening closing item
              (nestingOf opening closing rest) := rfl
      rw [step, forall_prefix_cons]
      by_cases isOpening : item = opening
      · subst item
        simp only [nestingStep, ↓reduceIte, List.count_cons_self,
          List.count_cons_of_ne distinct]
        cases bound with
        | zero =>
            constructor
            · intro impossible
              omega
            · rintro ⟨-, longer⟩
              have alone := longer [] List.nil_prefix
              simp at alone
        | succ lower =>
            have shorter := inductionHypothesis lower
            rw [Nat.add_le_add_iff_right, shorter]
            simp [← Nat.add_assoc]
      · by_cases isClosing : item = closing
        · subst item
          have shorter := inductionHypothesis (bound + 1)
          simp only [nestingStep, isOpening, ↓reduceIte,
            List.count_cons_self, List.count_cons_of_ne isOpening]
          rw [Nat.sub_le_iff_le_add, shorter]
          simp only [List.count_nil, Nat.zero_le, true_and]
          grind
        · simp only [nestingStep, isOpening, isClosing, ↓reduceIte]
          rw [inductionHypothesis bound]
          simp [isOpening, isClosing]

end Nesting

end LengthCalc
