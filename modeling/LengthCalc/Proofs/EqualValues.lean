import LengthCalc.Proofs.ConversionAccuracy
import LengthCalc.Proofs.ShownNumbers
import LengthCalc.Proofs.StableText
import LengthCalc.Proofs.ValueArithmetic

namespace LengthCalc

/-!
# Numerically equal trees

Trees with equal shapes, equal units and numerically equal amounts cannot be
told apart by evaluating or writing them.  An evaluation is followed on values
alone: one step of counting or converting, seen through the values of its
totals, is a step on values, and so is a whole run.  Such trees have the same
normalized tree, and a tree and its normalized tree have the same values.
-/

/-- Both calculations overflow, or both have results, which agree. -/
inductive CalculateAlike
    {α β : Type}
    (agree : α → β → Prop) :
    Except Failure α → Except Failure β → Prop where
  | overflow :
      CalculateAlike agree (.error .overflow) (.error .overflow)
  | results {result : α} {other : β} :
      agree result other →
      CalculateAlike agree (.ok result) (.ok other)

namespace Totals

/-- The totals of the units as values, whatever their scales are. -/
def worths (totals : Totals) (unit : LengthUnit) : Option Int :=
  (totals.get? unit).map Decimal.worth

/-- What a signed leaf adds, with its unit. -/
def signedEntry (counted : Measurement × Bool) : LengthUnit × Int :=
  (counted.1.unit, signedWorth counted)

/-- Count a signed value. -/
def countWorth?
    (worths : LengthUnit → Option Int)
    (entry : LengthUnit × Int) :
    Option (LengthUnit → Option Int) :=
  (Decimal.addWorth? ((worths entry.1).getD 0) entry.2).map
    fun sum unit => if unit = entry.1 then some sum else worths unit

/-- Totals agree numerically exactly if their values are the same. -/
theorem sameValues_iff_worths_eq (left right : Totals) :
    left.SameValues right ↔ left.worths = right.worths := by
  rw [funext_iff]
  refine forall_congr' fun unit => ?_
  simp only [worths, amount, Decimal.sameValue_iff]
  cases left.get? unit <;> cases right.get? unit <;> simp

/-- The worth of an amount is that of its unit, or nothing. -/
theorem worth_amount (totals : Totals) (unit : LengthUnit) :
    (totals.amount unit).worth = (totals.worths unit).getD 0 := by
  rw [amount, worths]
  cases totals.get? unit <;> rfl

/-- Counting a leaf is counting its value. -/
theorem map_worths_count?
    (totals : Totals)
    (negated : Bool)
    (leaf : Measurement) :
    (totals.count? negated leaf).map worths =
      countWorth? totals.worths (signedEntry (leaf, negated)) := by
  have amountWorth :
      (if negated then leaf.amount.neg else leaf.amount).worth =
        signedWorth (leaf, negated) := by
    cases negated <;> simp [signedWorth]
  have updated (sum : Decimal) :
      (totals.insert leaf.unit sum).worths =
        fun unit =>
          if unit = leaf.unit then some sum.worth else totals.worths unit := by
    funext unit
    rw [worths, get?_insert]
    split <;> rfl
  rw [count?_eq, countWorth?, signedEntry, ← amountWorth, ← worth_amount,
    ← Decimal.map_worth_add?, Option.map_map, Option.map_map]
  exact congrArg (Option.map · _) (funext updated)

/-- Counting leaves is counting their values. -/
theorem map_worths_countAll?
    (totals : Totals)
    (counted : List (Measurement × Bool)) :
    (totals.countAll? counted).map worths =
      (counted.map signedEntry).foldlM countWorth? totals.worths := by
  induction counted generalizing totals with
  | nil =>
      rfl
  | cons first later inductionHypothesis =>
      rcases first with ⟨leaf, negated⟩
      rw [countAll?, List.map_cons, List.foldlM_cons, ← map_worths_count?]
      cases totals.count? negated leaf with
      | none => rfl
      | some updated => exact inductionHypothesis updated

/-- The values of the units that have occurred, in the order of the units. -/
def worthEntries (worths : LengthUnit → Option Int) :
    List (LengthUnit × Int) :=
  LengthUnit.all.filterMap fun unit =>
    (worths unit).map fun worth => (unit, worth)

/-- The worths of the entries are the entries of the worths. -/
theorem map_worth_entries (totals : Totals) :
    totals.entries.map (Prod.map id Decimal.worth) =
      worthEntries totals.worths := by
  rw [entries, worthEntries, List.map_filterMap]
  refine congrArg (List.filterMap · _) (funext fun unit => ?_)
  rw [worths, Option.map_map, Option.map_map]
  rfl

/-- Add the value of one unit, scaled into the target, to a running sum. -/
def addConvertedWorth?
    (target : LengthUnit)
    (sum : Int)
    (entry : LengthUnit × Int) :
    Option Int :=
  (Decimal.mulWorth? entry.2 (LengthUnit.ratio entry.1 target).worth).bind
    (Decimal.addWorth? sum)

/-- Adding a total is adding its value. -/
theorem map_worth_addConverted?
    (target : LengthUnit)
    (sum : Decimal)
    (entry : LengthUnit × Decimal) :
    (addConverted? target sum entry).map Decimal.worth =
      addConvertedWorth? target sum.worth
        (Prod.map id Decimal.worth entry) := by
  rcases entry with ⟨unit, total⟩
  simp only [addConverted?, addConvertedWorth?, Prod.map_apply, id_eq,
    ← Decimal.map_worth_mul?]
  cases total.mul? (LengthUnit.ratio unit target) with
  | none => rfl
  | some scaled => exact Decimal.map_worth_add? sum scaled

/-- A conversion of the entries is told from their worths. -/
theorem map_worth_addConverted?_foldlM
    (target : LengthUnit)
    (sum : Decimal)
    (entries : List (LengthUnit × Decimal)) :
    (entries.foldlM (addConverted? target) sum).map Decimal.worth =
      (entries.map (Prod.map id Decimal.worth)).foldlM
        (addConvertedWorth? target) sum.worth := by
  induction entries generalizing sum with
  | nil =>
      rfl
  | cons entry later inductionHypothesis =>
      rw [List.map_cons, List.foldlM_cons, List.foldlM_cons,
        ← map_worth_addConverted?]
      cases addConverted? target sum entry with
      | none => rfl
      | some next => exact inductionHypothesis next

/-- Converting totals is converting their values. -/
theorem map_worth_convert? (totals : Totals) (target : LengthUnit) :
    (totals.convert? target).map Decimal.worth =
      (worthEntries totals.worths).foldlM (addConvertedWorth? target) 0 := by
  rw [convert?, map_worth_addConverted?_foldlM, map_worth_entries,
    Decimal.worth_zero]

end Totals

namespace Expression

/-- Numerically equal trees have the same normalized tree. -/
theorem normalize_eq_of_sameValue
    {left right : Expression}
    (same : left.sameValue right = true) :
    left.normalize = right.normalize := by
  fun_induction sameValue left right with
  | case1 leaf leaf' =>
      obtain ⟨amounts, units⟩ :
          leaf.amount.sameValue leaf'.amount = true ∧
            leaf.unit = leaf'.unit := by
        simpa [Measurement.sameValue] using same
      have normalized : leaf.amount.normalize = leaf'.amount.normalize := by
        refine (Decimal.isBrief_normalize _).eq_of_sameValue
          (Decimal.isBrief_normalize _) ?_
        rw [Decimal.sameValue_iff] at amounts ⊢
        rw [Decimal.worth_normalize, Decimal.worth_normalize, amounts]
      rw [normalize, normalize, Measurement.normalize, Measurement.normalize,
        normalized, units]
  | case2 left right left' right' leftHypothesis rightHypothesis =>
      obtain ⟨sameLeft, sameRight⟩ := Bool.and_eq_true_iff.mp same
      rw [normalize, normalize, leftHypothesis sameLeft,
        rightHypothesis sameRight]
  | case3 left right left' right' leftHypothesis rightHypothesis =>
      obtain ⟨sameLeft, sameRight⟩ := Bool.and_eq_true_iff.mp same
      rw [normalize, normalize, leftHypothesis sameLeft,
        rightHypothesis sameRight]
  | case4 left right inductionHypothesis =>
      rw [normalize, normalize, inductionHypothesis same]
  | case5 =>
      cases same

/-- Sums and differences are normalized operand by operand. -/
theorem normalize_join (operator : Operator) (left right : Expression) :
    (operator.join left right).normalize =
      operator.join left.normalize right.normalize := by
  cases operator <;> rfl

/-- What the leaves add, in their order. -/
def signedEntries (expression : Expression) : List (LengthUnit × Int) :=
  (expression.signedLeaves false).map Totals.signedEntry

/-- The signed leaves of a normalized tree are the normalized leaves. -/
theorem signedLeaves_normalize (negated : Bool) (expression : Expression) :
    expression.normalize.signedLeaves negated =
      (expression.signedLeaves negated).map
        (Prod.map Measurement.normalize id) := by
  induction expression using join_induction generalizing negated with
  | measurement leaf =>
      rfl
  | brackets inner inductionHypothesis =>
      exact inductionHypothesis negated
  | join operator left right leftHypothesis rightHypothesis =>
      rw [normalize_join, signedLeaves_join, signedLeaves_join,
        leftHypothesis, rightHypothesis, List.map_append]

/-- Normalizing a tree keeps what its leaves add. -/
theorem signedEntries_normalize (expression : Expression) :
    expression.normalize.signedEntries = expression.signedEntries := by
  have sameEntry (counted : Measurement × Bool) :
      Totals.signedEntry (Prod.map Measurement.normalize id counted) =
        Totals.signedEntry counted := by
    simp [Totals.signedEntry, Totals.signedWorth, Measurement.normalize]
  rw [signedEntries, signedLeaves_normalize, List.map_map]
  exact congrArg (List.map · _) (funext sameEntry)

/-- Trees of the same value have the same signed worths. -/
theorem signedEntries_eq_of_sameValue
    {left right : Expression}
    (same : left.sameValue right = true) :
    left.signedEntries = right.signedEntries := by
  rw [← left.signedEntries_normalize, normalize_eq_of_sameValue same,
    right.signedEntries_normalize]

/-- The values of the totals are those that counting the leaves' values gives. -/
theorem map_worths_totals? (expression : Expression) :
    expression.totals?.map Totals.worths =
      expression.signedEntries.foldlM Totals.countWorth?
        Totals.empty.worths := by
  rw [totals?_eq, Totals.map_worths_countAll?]
  rfl

/-- What the leaves add decides whether the totals overflow and what they are. -/
theorem totals_alike
    {left right : Expression}
    (same : left.signedEntries = right.signedEntries) :
    CalculateAlike Totals.SameValues left.totals right.totals := by
  have worths :
      left.totals?.map Totals.worths = right.totals?.map Totals.worths := by
    rw [map_worths_totals?, map_worths_totals?, same]
  unfold totals
  cases evaluated : left.totals? <;> cases evaluated' : right.totals? <;>
    simp only [evaluated, evaluated', Option.map_none, Option.map_some,
      reduceCtorEq, Option.some.injEq] at worths
  · exact .overflow
  · exact .results ((Totals.sameValues_iff_worths_eq _ _).mpr worths)

/-- The value of a conversion is that of converting the values of the totals. -/
theorem map_worth_convert? (expression : Expression) (target : LengthUnit) :
    (expression.convert? target).map (fun result => result.amount.worth) =
      (expression.totals?.map Totals.worths).bind fun worths =>
        (Totals.worthEntries worths).foldlM
          (Totals.addConvertedWorth? target) 0 := by
  unfold convert?
  cases expression.totals? with
  | none =>
      rfl
  | some totals =>
      rw [Option.map_some, Option.bind_some, ← Totals.map_worth_convert?]
      exact Option.map_map ..

/-- It also decides whether a conversion overflows and what its result is. -/
theorem convert_alike
    {left right : Expression}
    (same : left.signedEntries = right.signedEntries)
    (target : LengthUnit) :
    CalculateAlike
      (fun result other => result.sameValue other = true)
      (left.convert target) (right.convert target) := by
  have worths :
      (left.convert? target).map (fun result => result.amount.worth) =
        (right.convert? target).map fun result => result.amount.worth := by
    rw [map_worth_convert?, map_worth_convert?, map_worths_totals?,
      map_worths_totals?, same]
  unfold convert
  cases converted : left.convert? target <;>
    cases converted' : right.convert? target <;>
    simp only [converted, converted', Option.map_none, Option.map_some,
      reduceCtorEq, Option.some.injEq] at worths
  · exact .overflow
  · next result other =>
      obtain ⟨-, -, -, unit⟩ :=
        totals_of_convert
          (show left.convert target = .ok result by rw [convert, converted])
      obtain ⟨-, -, -, unit'⟩ :=
        totals_of_convert
          (show right.convert target = .ok other by rw [convert, converted'])
      have amounts : result.amount.sameValue other.amount = true :=
        (Decimal.sameValue_iff _ _).mpr worths
      exact .results (by simp [Measurement.sameValue, amounts, unit, unit'])

end Expression

namespace FormatOptions

/-- Rounding does not depend on trailing zeros. -/
theorem rounded_normalize (options : FormatOptions) (value : Decimal) :
    options.rounded value.normalize = options.rounded value := by
  refine (rounded_eq_iff _ _).mpr
    ⟨_, options.roundsTo_rounded value.normalize, ?_⟩
  rw [← value.toRat_normalize]
  exact options.roundsTo_rounded value.normalize

/-- A tree is written as its normalized tree is. -/
theorem expressionText_normalize
    (options : FormatOptions)
    (expression : Expression) :
    options.expressionText expression.normalize =
      options.expressionText expression := by
  have rounded :
      expression.normalize.mapAmounts options.rounded =
        expression.mapAmounts options.rounded := by
    induction expression using Expression.join_induction with
    | measurement leaf =>
        simp only [Expression.normalize, Measurement.normalize,
          Expression.mapAmounts, rounded_normalize]
    | brackets inner inductionHypothesis =>
        rw [Expression.normalize, Expression.mapAmounts, inductionHypothesis,
          Expression.mapAmounts]
    | join operator left right leftHypothesis rightHypothesis =>
        rw [Expression.normalize_join, Expression.mapAmounts_join,
          leftHypothesis, rightHypothesis, Expression.mapAmounts_join]
  rw [← options.expressionText_mapAmounts, rounded,
    options.expressionText_mapAmounts]

end FormatOptions

namespace Expression

/--
Numerically equal trees are told apart neither by their totals, nor by any
conversion, nor by their text in any format: the same calculations overflow,
and the others have results that agree.
-/
theorem alike_of_sameValue
    {left right : Expression}
    (same : left.sameValue right = true) :
    CalculateAlike Totals.SameValues left.totals right.totals ∧
      (∀ target,
        CalculateAlike
          (fun result other => result.sameValue other = true)
          (left.convert target) (right.convert target)) ∧
      ∀ options : FormatOptions,
        options.expressionText left = options.expressionText right := by
  have entries := signedEntries_eq_of_sameValue same
  refine ⟨totals_alike entries, convert_alike entries, ?_⟩
  intro options
  rw [← options.expressionText_normalize left, normalize_eq_of_sameValue same,
    options.expressionText_normalize]

/-- A sum of millimeters that has no place left for the half in it. -/
def sumWithoutRoom (half : Decimal) : Expression :=
  .addition
    (.ofAmount ⟨10 ^ 28 - 1, 0, by decide, Decimal.zero_scale_le⟩ .millimeter)
    (.ofAmount half .millimeter)

/-- The half is rounded away alike, however many zeros it is written with. -/
theorem alike_of_sameValue_half :
    (sumWithoutRoom ⟨5, 1, by decide, by decide⟩).sameValue
        (sumWithoutRoom ⟨500, 3, by decide, by decide⟩) = true ∧
      (sumWithoutRoom ⟨5, 1, by decide, by decide⟩).convert .centimeter =
        .ok ⟨⟨10 ^ 28, 1, by decide, by decide⟩, .centimeter⟩ ∧
      ∃ other,
        (sumWithoutRoom ⟨500, 3, by decide, by decide⟩).convert .centimeter =
            .ok other ∧
          other.amount.toRat = 10 ^ 27 := by
  have same :
      (sumWithoutRoom ⟨5, 1, by decide, by decide⟩).sameValue
        (sumWithoutRoom ⟨500, 3, by decide, by decide⟩) = true := by
    decide
  have converted :
      (sumWithoutRoom ⟨5, 1, by decide, by decide⟩).convert .centimeter =
        .ok ⟨⟨10 ^ 28, 1, by decide, by decide⟩, .centimeter⟩ := by
    rw [convert, convert?, totals?_eq]
    decide
  have alike := (alike_of_sameValue same).2.1 .centimeter
  rw [converted] at alike
  generalize (sumWithoutRoom ⟨500, 3, by decide, by decide⟩).convert .centimeter =
    again at alike ⊢
  cases alike with
  | results agree =>
      have amounts := (Bool.and_eq_true_iff.mp agree).1
      refine ⟨same, converted, _, rfl, ?_⟩
      rw [← (Decimal.toRat_inj _ _).mpr amounts, Decimal.toRat_eq_div]
      norm_num

end Expression

end LengthCalc
