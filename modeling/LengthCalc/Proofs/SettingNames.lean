import LengthCalc.Proofs.Characters
import LengthCalc.Proofs.SettingSources

namespace LengthCalc

/-!
# Settings by name

Which keys and variables lead to a path of names, told by their spelling alone.
A key spells a path with a point between the names, or it names a table that
has the rest of the path in it; a variable spells it behind its prefix, with a
double underscore or a point.  Letters count in any case.
-/

namespace PathStep

/-- A text that can stand as a name in a path. -/
def IsName (name : String) : Prop :=
  name ≠ "" ∧ ∀ character ∈ name.toList, isNameChar character = true

-- The characters of the name are tried, and not all characters there are.
instance (name : String) : Decidable (IsName name) :=
  decidable_of_iff (name ≠ "" ∧ name.toList.all isNameChar = true) <| by
    rw [IsName, List.all_eq_true]

/-- The characters of some names with a point in front of each. -/
def pointed (names : List String) : List Char :=
  names.flatMap fun name => '.' :: name.toList

/-- What follows a name in a path does not begin like a name. -/
theorem boundary_pointed (names : List String) :
    ∀ character ∈ (pointed names).head?, isNameChar character = false := by
  cases names with
  | nil =>
      simp [pointed]
  | cons name later =>
      intro character first
      obtain rfl : '.' = character := by
        simpa [pointed] using first
      rfl

/-- A name is read up to the first character that cannot stand in one. -/
theorem readName?_append
    {name : String}
    (isName : IsName name)
    {rest : List Char}
    (boundary : ∀ character ∈ rest.head?, isNameChar character = false) :
    readName? (name.toList ++ rest) = some (.name name, rest) := by
  obtain ⟨nonempty, letters⟩ := isName
  have noneTaken : rest.takeWhile isNameChar = [] := by
    cases rest with
    | nil => rfl
    | cons first later => simp [boundary first rfl]
  have noneDropped : rest.dropWhile isNameChar = rest := by
    cases rest with
    | nil => rfl
    | cons first later => simp [boundary first rfl]
  have someLetters : name.toList ≠ [] := by
    simpa [String.toList_eq_nil_iff] using nonempty
  unfold readName?
  rw [List.takeWhile_append_of_pos letters, noneTaken, List.append_nil,
    List.dropWhile_append_of_pos letters, noneDropped]
  split
  · next empty =>
      exact (someLetters empty).elim
  · rw [String.ofList_toList]

/-- What was read as a name stands in front of the rest. -/
theorem eq_append_of_readName?
    {characters rest : List Char}
    {name : String}
    (read : readName? characters = some (.name name, rest)) :
    characters = name.toList ++ rest := by
  unfold readName? at read
  split at read
  · cases read
  · cases read
    rw [String.toList_ofList, List.takeWhile_append_dropWhile]

/-- Names behind points are read as these names. -/
theorem readSteps?_pointed
    {names : List String}
    (areNames : ∀ name ∈ names, IsName name)
    {fuel : Nat}
    (enough : (pointed names).length ≤ fuel) :
    readSteps? fuel (pointed names) = some (names.map .name) := by
  induction names generalizing fuel with
  | nil =>
      cases fuel <;> rfl
  | cons name later inductionHypothesis =>
      have shape :
          pointed (name :: later) =
            '.' :: (name.toList ++ pointed later) := by
        simp [pointed]
      rw [shape] at enough ⊢
      simp only [List.length_cons, List.length_append] at enough
      cases fuel with
      | zero =>
          omega
      | succ fuel =>
          have read :=
            readName?_append (areNames name List.mem_cons_self)
              (boundary_pointed later)
          have behind :=
            @inductionHypothesis
              (fun other member =>
                areNames other (List.mem_cons_of_mem name member))
              fuel (by omega)
          simp [readSteps?, read, behind]

/-- What is read between square brackets is not a name. -/
theorem readPosition?_ne_name
    (characters : List Char)
    (name : String)
    (rest : List Char) :
    readPosition? characters ≠ some (.name name, rest) := by
  intro read
  simp only [readPosition?] at read
  split at read
  · obtain ⟨index, -, same⟩ := Option.map_eq_some_iff.mp read
    cases same
  · cases read

/-- Steps that are names stand behind points. -/
theorem eq_pointed_of_readSteps?
    {fuel : Nat}
    {characters : List Char}
    {names : List String}
    (read : readSteps? fuel characters = some (names.map .name)) :
    characters = pointed names := by
  induction names generalizing fuel characters with
  | nil =>
      cases characters with
      | nil => rfl
      | cons sign rest =>
          cases fuel with
          | zero => cases read
          | succ fuel =>
              simp only [readSteps?] at read
              split at read
              · cases read
              · simp at read
  | cons name later inductionHypothesis =>
      cases characters with
      | nil => cases fuel <;> cases read
      | cons sign rest =>
          cases fuel with
          | zero => cases read
          | succ fuel =>
              simp only [readSteps?] at read
              split at read
              · cases read
              · next step behind found =>
                  obtain ⟨steps, readBehind, same⟩ :=
                    Option.map_eq_some_iff.mp read
                  obtain ⟨rfl, rfl⟩ := List.cons.inj same
                  split at found
                  · next point =>
                      rw [point, eq_append_of_readName? found,
                        inductionHypothesis readBehind]
                      simp [pointed]
                  · split at found
                    · exact (readPosition?_ne_name _ _ _ found).elim
                    · cases found

/-- A key spells names if they stand in it one behind the other. -/
def Spells (key : String) (first : String) (later : List String) : Prop :=
  key.toList = first.toList ++ pointed later

/-- A key spells itself. -/
theorem spells_self (key : String) : Spells key key [] := by
  simp [Spells, pointed]

/-- A key that spells a single name is this name. -/
theorem eq_of_spells
    {key name : String}
    (spells : Spells key name []) :
    key = name :=
  String.toList_injective (by simpa [Spells, pointed] using spells)

/-- A key that spells two names has a point between them. -/
theorem lowercase_of_spells
    {key first second : String}
    (spells : Spells key first [second]) :
    lowercase key = lowercase first ++ "." ++ lowercase second := by
  apply String.toList_injective
  have characters : key.toList = first.toList ++ '.' :: second.toList := by
    simpa [Spells, pointed] using spells
  simp only [lowercase, characters, String.toList_ofList, List.map_append,
    List.map_cons, String.toList_append, List.append_assoc]
  rfl

/-- A key that spells names stands for them. -/
theorem ofKey_of_spells
    {key first : String}
    {later : List String}
    (spells : Spells key first later)
    (isName : IsName first)
    (areNames : ∀ name ∈ later, IsName name) :
    ofKey key = (first :: later).map .name := by
  have read :=
    readName?_append isName (boundary_pointed later)
  have behind := readSteps?_pointed areNames (Nat.le_refl _)
  rw [ofKey, ofPath?, spells]
  simp [read, behind]

/-- A key that stands for names spells them. -/
theorem spells_of_ofKey
    {key first : String}
    {later : List String}
    (steps : ofKey key = (first :: later).map .name) :
    Spells key first later := by
  unfold ofKey at steps
  cases path : ofPath? key with
  | none =>
      rw [path] at steps
      obtain ⟨rfl, rfl⟩ : key = first ∧ later = [] := by
        simpa using steps
      simp [Spells, pointed]
  | some found =>
      rw [path] at steps
      obtain rfl : found = (first :: later).map .name := steps
      unfold ofPath? at path
      split at path
      · cases path
      · next step rest read =>
          obtain ⟨behind, readBehind, same⟩ := Option.map_eq_some_iff.mp path
          obtain ⟨rfl, rfl⟩ := List.cons.inj same
          rw [Spells, eq_append_of_readName? read,
            eq_pointed_of_readSteps? readBehind]

/-- A letter may stand in a name in capitals, too. -/
theorem isNameChar_of_toLower
    {character : Char}
    (small : isNameChar character.toLower = true) :
    isNameChar character = true := by
  cases upper : character.isUpper with
  | false =>
      rwa [toLower_of_not_isUpper upper] at small
  | true =>
      have letter : character.isAlpha = true :=
        (Bool.or_eq_true _ _).mpr (.inl upper)
      simp [isNameChar, Char.isAlphanum, letter]

/-- The point has no other form. -/
theorem eq_point_of_toLower
    {character : Char}
    (point : character.toLower = '.') :
    character = '.' := by
  cases upper : character.isUpper with
  | false =>
      rwa [toLower_of_not_isUpper upper] at point
  | true =>
      have small := isLower_toLower_of_isUpper upper
      rw [point] at small
      cases small

/-- A name is one in capitals, too. -/
theorem isName_of_lowercase
    {name : String}
    (small : IsName (lowercase name)) :
    IsName name := by
  obtain ⟨nonempty, letters⟩ := small
  refine ⟨?_, fun character member => isNameChar_of_toLower ?_⟩
  · rintro rfl
    exact nonempty rfl
  · apply letters
    rw [lowercase, String.toList_ofList]
    exact List.mem_map_of_mem member

/-- A key that is a name stands for it. -/
theorem ofKey_of_isName
    {key : String}
    (isName : IsName key) :
    ofKey key = [.name key] :=
  ofKey_of_spells (spells_self key) isName (by simp)

/-- A key that is two names with a point between them stands for these. -/
theorem ofKey_of_lowercase_append
    {key name inner : String}
    (spelled : lowercase key = name ++ "." ++ inner)
    (isName : IsName name)
    (isInner : IsName inner) :
    ∃ first second,
      ofKey key = [.name first, .name second] ∧
        lowercase first = name ∧ lowercase second = inner := by
  have characters :
      key.toList.map Char.toLower = name.toList ++ '.' :: inner.toList := by
    have lists := congrArg String.toList spelled
    simpa [lowercase] using lists
  obtain ⟨front, rest, shape, frontLower, restLower⟩ :=
    List.map_eq_append_iff.mp characters
  obtain ⟨point, back, rfl, isPoint, backLower⟩ :=
    List.map_eq_cons_iff.mp restLower
  obtain rfl := eq_point_of_toLower isPoint
  have first : lowercase (String.ofList front) = name := by
    simp [lowercase, frontLower]
  have second : lowercase (String.ofList back) = inner := by
    simp [lowercase, backLower]
  refine ⟨String.ofList front, String.ofList back, ?_, first, second⟩
  have spells :
      Spells key (String.ofList front) [String.ofList back] := by
    simp [Spells, pointed, shape]
  refine ofKey_of_spells spells (isName_of_lowercase (first ▸ isName)) ?_
  simpa using isName_of_lowercase (second ▸ isInner)

end PathStep

namespace Setting

/--
What an entry of a source sets at a path of one or two names: its value, if the
key spells the path, or what it holds under the second name, if the key is the
first one.
-/
def entryValues :
    (path : List String) → (key : String) → (value : Setting) → List Setting
  | [name], key, value =>
      if lowercase key = name then [value] else []
  | [name, inner], key, value =>
      if lowercase key = name ++ "." ++ inner then
        [value]
      else if lowercase key = name then
        (value.entries.filter fun part => lowercase part.1 = inner).map Prod.snd
      else
        []
  | _, _, _ => []

variable {name inner key : String}
variable {value : Setting}

/-- An assignment that fits a path does not go on behind its end. -/
theorem Fits.eq_nil
    {steps : List PathStep}
    (fits : Fits [] steps value) :
    steps = [] := by
  cases steps with
  | nil => rfl
  | cons step later =>
      cases step with
      | name _ =>
          simpa [scalar?] using fits.scalars (.table []) (by simp [assignedAt])
      | position _ =>
          simpa [scalar?] using fits.scalars (.list []) (by simp [assignedAt])

/-- What is assigned at a single name is told by the name. -/
theorem assignedAt_eq_entryValues_single
    (areNames : ∀ part ∈ [name], PathStep.IsName part)
    (fits : Fits [name] (PathStep.ofKey key) value) :
    assignedAt [name] (PathStep.ofKey key) value =
      entryValues [name] key value := by
  have isName := List.forall_mem_singleton.mp areNames
  by_cases spelled : lowercase key = name
  · subst spelled
    rw [PathStep.ofKey_of_isName (PathStep.isName_of_lowercase isName),
      assignedAt_name rfl, entryValues, if_pos rfl, assignedAt]
  · obtain ⟨first, steps, shape⟩ := exists_name_ofKey key
    rw [entryValues, if_neg spelled]
    rw [shape] at fits ⊢
    refine assignedAt_other (fun same => ?_) [] steps value
    obtain rfl := (fits.step same).eq_nil
    obtain rfl : key = first :=
      PathStep.eq_of_spells (PathStep.spells_of_ofKey shape)
    exact spelled same

/-- What a value sets at a single name is what it holds there. -/
theorem assignedAt_single (name : String) (value : Setting) :
    assignedAt [name] [] value =
      (value.entries.filter fun part => lowercase part.1 = name).map
        Prod.snd := by
  rw [assignedAt]
  induction value.entries with
  | nil => rfl
  | cons entry later inductionHypothesis =>
      rw [List.flatMap_cons, inductionHypothesis]
      by_cases same : lowercase entry.1 = name
      · simp [same, assignedAt]
      · simp [same]

/-- What is assigned at two names is told by the names. -/
theorem assignedAt_eq_entryValues_pair
    (areNames : ∀ part ∈ [name, inner], PathStep.IsName part)
    (fits : Fits [name, inner] (PathStep.ofKey key) value) :
    assignedAt [name, inner] (PathStep.ofKey key) value =
      entryValues [name, inner] key value := by
  obtain ⟨isName, innerNames⟩ := List.forall_mem_cons.mp areNames
  have isInner := List.forall_mem_singleton.mp innerNames
  by_cases spelled : lowercase key = name ++ "." ++ inner
  · obtain ⟨first, second, shape, same, sameInner⟩ :=
      PathStep.ofKey_of_lowercase_append spelled isName isInner
    rw [shape, assignedAt_name same, assignedAt_name sameInner, entryValues,
      if_pos spelled, assignedAt]
  by_cases outer : lowercase key = name
  · rw [entryValues, if_neg spelled, if_pos outer]
    subst outer
    rw [PathStep.ofKey_of_isName (PathStep.isName_of_lowercase isName),
      assignedAt_name rfl, assignedAt_single]
  rw [entryValues, if_neg spelled, if_neg outer]
  obtain ⟨first, steps, shape⟩ := exists_name_ofKey key
  rw [shape] at fits ⊢
  by_cases same : lowercase first = name
  · rw [assignedAt_name same]
    cases steps with
    | nil =>
        obtain rfl : key = first :=
          PathStep.eq_of_spells (PathStep.spells_of_ofKey shape)
        exact (outer same).elim
    | cons step later =>
        cases step with
        | position index =>
            rfl
        | name second =>
            refine assignedAt_other (fun sameInner => ?_) [] later value
            obtain rfl := ((fits.step same).step sameInner).eq_nil
            have whole :=
              PathStep.lowercase_of_spells (PathStep.spells_of_ofKey shape)
            rw [same, sameInner] at whole
            exact spelled whole
  · exact assignedAt_other same [inner] steps value

/-- What a table holds under two names does not depend on its other keys. -/
theorem entryValues_insert
    {outer : String}
    {front back : SettingTable}
    (notWhole : lowercase name ≠ outer ++ "." ++ inner)
    (other : [outer, inner] ≠ [lowercase name, lowercase key]) :
    entryValues [outer, inner] name (.table (front ++ (key, value) :: back)) =
      entryValues [outer, inner] name (.table (front ++ back)) := by
  rw [entryValues, entryValues, if_neg notWhole, if_neg notWhole]
  by_cases same : lowercase name = outer
  · have different : lowercase key ≠ inner := by
      rintro rfl
      exact other (by rw [same])
    simp [entries, different]
  · rw [if_neg same, if_neg same]

end Setting

namespace Settings

/--
Whether a variable spells a path of one or two names behind the prefix of
settings, in whatever case.
-/
def isVariableOf : (path : List String) → (variableName : String) → Bool
  | [name], variableName =>
      lowercase variableName = "unitscalc__" ++ name
  | [name, inner], variableName =>
      lowercase variableName = "unitscalc__" ++ (name ++ "__" ++ inner) ||
        lowercase variableName = "unitscalc__" ++ (name ++ "." ++ inner)
  | _, _ => false

/-- Without a point in the outcome nothing has been replaced. -/
theorem withPoints_of_no_point
    {characters : List Char}
    (noPoint : '.' ∉ withPoints characters) :
    withPoints characters = characters := by
  fun_induction withPoints characters with
  | case1 => rfl
  | case2 rest _ => simp at noPoint
  | case3 first rest _ inductionHypothesis =>
      rw [inductionHypothesis (by simp_all)]

/-- A point in the outcome was there or stands for two underscores. -/
theorem exists_of_withPoints
    {characters front back : List Char}
    (shape : withPoints characters = front ++ '.' :: back)
    (noPoint : '.' ∉ front) :
    ∃ rest,
      (characters = front ++ '_' :: '_' :: rest ∨
          characters = front ++ '.' :: rest) ∧
        withPoints rest = back := by
  fun_induction withPoints characters generalizing front with
  | case1 => simp at shape
  | case2 rest _ =>
      cases front with
      | nil =>
          exact ⟨rest, .inl rfl, (List.cons.inj shape).2⟩
      | cons first later =>
          obtain ⟨rfl, -⟩ := List.cons.inj shape
          simp at noPoint
  | case3 first rest _ inductionHypothesis =>
      cases front with
      | nil =>
          obtain ⟨rfl, same⟩ := List.cons.inj shape
          exact ⟨rest, .inr rfl, same⟩
      | cons head later =>
          obtain ⟨rfl, same⟩ := List.cons.inj shape
          obtain ⟨behind, rfl | rfl, found⟩ :=
            inductionHypothesis same (by simp_all)
          · exact ⟨behind, .inl rfl, found⟩
          · exact ⟨behind, .inr rfl, found⟩

/-- Putting points between names keeps letters small. -/
theorem toLower_of_mem_withPoints
    {characters : List Char}
    (small : ∀ character ∈ characters, character.toLower = character) :
    ∀ character ∈ withPoints characters, character.toLower = character := by
  fun_induction withPoints characters with
  | case1 => simp
  | case2 rest inductionHypothesis =>
      intro character member
      rcases List.mem_cons.mp member with rfl | later
      · rfl
      · exact inductionHypothesis (by simp_all) character later
  | case3 first rest _ inductionHypothesis =>
      intro character member
      rcases List.mem_cons.mp member with rfl | later
      · exact small _ List.mem_cons_self
      · exact inductionHypothesis (by simp_all) character later

/-- The key of a variable is what stands behind the prefix, with points. -/
theorem exists_of_variableKey?
    {variableName key : String}
    (found : variableKey? variableName = some key) :
    ∃ rest,
      lowercase variableName = "unitscalc__" ++ String.ofList rest ∧
        lowercase key = String.ofList (withPoints rest) := by
  simp only [variableKey?] at found
  split at found
  · next head =>
      obtain ⟨rest, shape⟩ := List.isPrefixOf_iff_prefix.mp head
      cases found
      refine ⟨rest, ?_, ?_⟩
      · rw [lowercase, ← shape, String.ofList_append]
        rfl
      · rw [← shape, List.drop_left, lowercase, String.toList_ofList]
        have small : ∀ character ∈ rest, character.toLower = character := by
          intro character member
          have folded :
              character ∈ variableName.toList.map Char.toLower := by
            rw [← shape]
            exact List.mem_append_right _ member
          obtain ⟨original, -, rfl⟩ := List.mem_map.mp folded
          exact toLower_toLower original
        rw [List.map_congr_left (toLower_of_mem_withPoints small),
          List.map_id']
  · cases found

/-- A variable that spells something behind the prefix has a key. -/
theorem variableKey?_isSome
    {variableName rest : String}
    (spelled : lowercase variableName = "unitscalc__" ++ rest) :
    (variableKey? variableName).isSome := by
  have characters :
      variableName.toList.map Char.toLower =
        variableHead ++ rest.toList := by
    have lists := congrArg String.toList spelled
    rw [lowercase, String.toList_ofList, String.toList_append] at lists
    exact lists
  simp [variableKey?, characters]

section Spelling

variable {variableName key : String}

/-- The key of a variable is a single name if the variable spells that. -/
theorem lowercase_key_eq_single_iff
    {name : String}
    (noPoint : '.' ∉ name.toList)
    (unchanged : withPoints name.toList = name.toList)
    (found : variableKey? variableName = some key) :
    lowercase key = name ↔ isVariableOf [name] variableName = true := by
  obtain ⟨rest, variableShape, keyShape⟩ := exists_of_variableKey? found
  rw [isVariableOf, decide_eq_true_eq, variableShape, keyShape,
    String.append_right_inj]
  constructor
  · rintro rfl
    rw [String.toList_ofList] at noPoint
    rw [withPoints_of_no_point noPoint]
  · rintro rfl
    rw [String.toList_ofList] at unchanged
    rw [unchanged]

/-- The key of a variable is two names if the variable spells them. -/
theorem lowercase_key_eq_pair_iff
    {name inner : String}
    (noPoint : '.' ∉ name.toList)
    (noPointInner : '.' ∉ inner.toList)
    (joined :
      withPoints (name ++ "__" ++ inner).toList =
        (name ++ "." ++ inner).toList)
    (unchanged :
      withPoints (name ++ "." ++ inner).toList =
        (name ++ "." ++ inner).toList)
    (found : variableKey? variableName = some key) :
    lowercase key = name ++ "." ++ inner ↔
      isVariableOf [name, inner] variableName = true := by
  obtain ⟨rest, variableShape, keyShape⟩ := exists_of_variableKey? found
  rw [isVariableOf, Bool.or_eq_true, decide_eq_true_eq, decide_eq_true_eq,
    variableShape, keyShape, String.append_right_inj,
    String.append_right_inj]
  constructor
  · intro spelled
    have shape : withPoints rest = name.toList ++ '.' :: inner.toList := by
      have lists := congrArg String.toList spelled
      simpa using lists
    obtain ⟨behind, ways, innerShape⟩ := exists_of_withPoints shape noPoint
    rw [← innerShape] at noPointInner
    rw [withPoints_of_no_point noPointInner] at innerShape
    subst innerShape
    refine ways.imp (fun way => ?_) (fun way => ?_)
    · apply String.toList_injective
      simp [way]
    · apply String.toList_injective
      simp [way]
  · intro ways
    apply String.toList_injective
    rcases ways with way | way
    · rw [← joined, ← way, String.toList_ofList, String.toList_ofList]
    · rw [← way, String.toList_ofList] at unchanged
      rw [← way, unchanged]

end Spelling

end Settings

end LengthCalc
