import LengthCalc.Proofs.SettingNames
import Mathlib.Data.List.Basic
import Mathlib.Data.Option.Basic
import Mathlib.Tactic.ByContra
import Mathlib.Tactic.Choose

namespace LengthCalc

/-!
# Layers of settings, key by key

Whatever a file and the environment set, in whatever spelling, each field of the
settings has the value that the environment gives it, else that of the file,
else the one that is built in.  What a source gives a field is told by the names
of its variables or keys.  Fields do not depend on each other, names that lead
to no field change nothing, and loading fails for a wrong value only if one of
the values so chosen is of no use for its field.
-/

namespace Settings

/-- The fields of settings. -/
inductive Field where
  | defaultUnit
  | historyLimit
  | maxFractionDigits
  | grouping
  | logLevel
  | logJson
  deriving Repr, DecidableEq

namespace Field

/-- The names that lead to a field, from the outermost one on. -/
def path : Field → List String
  | defaultUnit => ["default_unit"]
  | historyLimit => ["history_limit"]
  | maxFractionDigits => ["format", "max_fraction_digits"]
  | grouping => ["format", "grouping"]
  | logLevel => ["logging", "level"]
  | logJson => ["logging", "json"]

/-- What leads to a field can stand in paths. -/
theorem isName_path (field : Field) :
    ∀ part ∈ field.path, PathStep.IsName part := by
  cases field <;> decide

/-- The environment variable of a field. -/
def variableName : Field → String
  | defaultUnit => "UNITSCALC__DEFAULT_UNIT"
  | historyLimit => "UNITSCALC__HISTORY_LIMIT"
  | maxFractionDigits => "UNITSCALC__FORMAT__MAX_FRACTION_DIGITS"
  | grouping => "UNITSCALC__FORMAT__GROUPING"
  | logLevel => "UNITSCALC__LOGGING__LEVEL"
  | logJson => "UNITSCALC__LOGGING__JSON"

/-- The values that a field can have. -/
abbrev Value : Field → Type
  | defaultUnit => String
  | historyLimit => Nat
  | maxFractionDigits => Nat
  | grouping => Bool
  | logLevel => String
  | logJson => Bool

/-- The value of a field that a scalar stands for, if it is of use for it. -/
def convert? : (field : Field) → Scalar → Option field.Value
  | defaultUnit, scalar => some scalar.toText
  | historyLimit, scalar => scalar.toNatural? Scalar.largestWord
  | maxFractionDigits, scalar => scalar.toNatural? digitsBound
  | grouping, scalar => scalar.toFlag?
  | logLevel, scalar => some scalar.toText
  | logJson, scalar => scalar.toFlag?

/-- The value of a field in settings. -/
def value : (field : Field) → Settings → field.Value
  | defaultUnit, settings => settings.defaultUnit
  | historyLimit, settings => settings.historyLimit
  | maxFractionDigits, settings => settings.format.maxFractionDigits
  | grouping, settings => settings.format.grouping
  | logLevel, settings => settings.logging.level
  | logJson, settings => settings.logging.json

/-- The value of a field that is given a scalar, or none: then the built-in one. -/
def result? (field : Field) : Option Scalar → Option field.Value
  | none => some (field.value {})
  | some scalar => field.convert? scalar

/-- A field has no value if, and only if, what it is given is of no use. -/
theorem result?_eq_none_iff (field : Field) (given : Option Scalar) :
    field.result? given = none ↔
      ∃ scalar, given = some scalar ∧ field.convert? scalar = none := by
  cases given with
  | none => simp [result?]
  | some scalar => simp [result?]

/-- The settings that have a value for each field. -/
def gather? (result? : (field : Field) → Option field.Value) :
    Option Settings := do
  let unit ← result? defaultUnit
  let limit ← result? historyLimit
  let digits ← result? maxFractionDigits
  let groups ← result? grouping
  let level ← result? logLevel
  let json ← result? logJson
  return ⟨unit, limit, ⟨digits, groups⟩, ⟨level, json⟩⟩

/-- Settings are gathered if they have the value of each field. -/
theorem gather?_eq_some_iff
    (result? : (field : Field) → Option field.Value)
    (settings : Settings) :
    gather? result? = some settings ↔
      ∀ field : Field, result? field = some (field.value settings) := by
  constructor
  · intro gathered field
    simp only [gather?, Option.bind_eq_bind, Option.bind_eq_some_iff,
      Option.pure_def, Option.some.injEq] at gathered
    obtain ⟨unit, unitEq, limit, limitEq, digits, digitsEq, groups, groupsEq,
      level, levelEq, json, jsonEq, rfl⟩ := gathered
    cases field <;> assumption
  · intro values
    simp [gather?, values, value]

/-- Nothing is gathered if, and only if, there is a field without a value. -/
theorem gather?_eq_none_iff (result? : (field : Field) → Option field.Value) :
    gather? result? = none ↔ ∃ field, result? field = none := by
  constructor
  · intro missing
    by_contra complete
    have values : ∀ field : Field, ∃ value, result? field = some value :=
      fun field => Option.ne_none_iff_exists'.mp
        fun absent => complete ⟨field, absent⟩
    choose values valuesEq using values
    simp [gather?, valuesEq] at missing
  · rintro ⟨field, absent⟩
    cases gathered : gather? result? with
    | none => rfl
    | some settings =>
        rw [(gather?_eq_some_iff result? settings).mp gathered field] at absent
        cases absent

end Field

/-- Whether a variable has the prefix of settings, in any case. -/
def hasPrefix (name : String) : Bool :=
  variableHead.isPrefixOf (lowercase name).toList

/-- The assignments of the environment: one of each variable with the prefix. -/
def variableTable (environment : List (String × String)) : SettingTable :=
  environment.filterMap fun (name, text) =>
    (variableKey? name).map fun key => (key, .scalar (.ofVariable text))

namespace Field

/-- The texts of the variables of a field, in their order. -/
def texts (field : Field) (environment : List (String × String)) :
    List String :=
  (environment.filter fun binding =>
    isVariableOf field.path binding.1).map Prod.snd

/-- The values of the entries of a field, in their order. -/
def given (field : Field) (source : SettingTable) : List Setting :=
  source.flatMap fun entry =>
    Setting.entryValues field.path entry.1 entry.2

end Field

/--
What a field is given: the text of its variable, else the scalar of its entry.
Should a source spell the field several times, then the last time counts.
-/
def chosen?
    (file : SettingTable)
    (environment : List (String × String))
    (field : Field) :
    Option Scalar :=
  ((field.texts environment).getLast?.map Scalar.ofVariable).or
    ((field.given file).getLast?.bind Setting.scalar?)

/--
A source is tidy if it does not set a section to anything but a table, nor a
field to anything but a scalar.
-/
structure Tidy (source : SettingTable) : Prop where
  sections :
    ∀ name ∈ ["format", "logging"],
      ∀ part ∈ Setting.assignments [name] source, part.isTable
  fields :
    ∀ field : Field,
      ∀ part ∈ Setting.assignments field.path source, part.scalar?.isSome

namespace Tidy

open Setting

variable {source : SettingTable}

/-- The assignments of a tidy source fit the path of each field. -/
theorem fits
    (tidy : Tidy source)
    (field : Field)
    {key : String}
    {value : Setting}
    (member : (key, value) ∈ source) :
    Fits field.path (PathStep.ofKey key) value := by
  have gathered :
      ∀ path, ∀ part ∈ assignedAt path (PathStep.ofKey key) value,
        part ∈ assignments path source :=
    fun path part assigned =>
      List.mem_flatMap.mpr ⟨(key, value), member, assigned⟩
  have inSection :
      ∀ name ∈ ["format", "logging"],
        ∀ part ∈ assignedAt [name] (PathStep.ofKey key) value, part.isTable :=
    fun name known part assigned =>
      tidy.sections name known part (gathered [name] part assigned)
  refine ⟨fun part assigned =>
    tidy.fields field part (gathered _ part assigned), ?_⟩
  intro front rest shape nonempty
  match front with
  | [] =>
      rw [assignedAt_nil_ofKey]
      simp [isTable]
  | [name] =>
      apply inSection name
      cases field <;> simp_all [Field.path]
  | _ :: _ :: _ =>
      cases field <;> simp_all [Field.path]

/-- What a tidy source assigns to a field is what it gives it. -/
theorem assignments_eq (tidy : Tidy source) (field : Field) :
    assignments field.path source = field.given source := by
  refine List.flatMap_congr fun entry member => ?_
  have fits := tidy.fits field member
  have areNames := field.isName_path
  cases field with
  | defaultUnit => exact assignedAt_eq_entryValues_single areNames fits
  | historyLimit => exact assignedAt_eq_entryValues_single areNames fits
  | maxFractionDigits => exact assignedAt_eq_entryValues_pair areNames fits
  | grouping => exact assignedAt_eq_entryValues_pair areNames fits
  | logLevel => exact assignedAt_eq_entryValues_pair areNames fits
  | logJson => exact assignedAt_eq_entryValues_pair areNames fits

/-- What a tidy source assigns to a field last is a scalar. -/
theorem getLast?_assignments (tidy : Tidy source) (field : Field) :
    (assignments field.path source).getLast? =
      ((field.given source).getLast?.bind scalar?).map Setting.scalar := by
  rw [← tidy.assignments_eq field]
  cases last : (assignments field.path source).getLast? with
  | none => rfl
  | some part =>
      have scalar := tidy.fields field part (List.mem_of_getLast? last)
      cases part with
      | scalar value => rfl
      | _ => simp [scalar?] at scalar

end Tidy

/-- The key of a variable leads to a field if the name of the variable does. -/
theorem Field.entryValues_of_variableKey?
    (field : Field)
    {variableName key : String}
    (found : variableKey? variableName = some key)
    (scalar : Scalar) :
    Setting.entryValues field.path key (.scalar scalar) =
      if isVariableOf field.path variableName then [.scalar scalar] else [] := by
  have single {name : String}
      (noPoint : '.' ∉ name.toList)
      (unchanged : withPoints name.toList = name.toList) :
      Setting.entryValues [name] key (.scalar scalar) =
        if isVariableOf [name] variableName then [.scalar scalar] else [] := by
    simp only [Setting.entryValues,
      lowercase_key_eq_single_iff noPoint unchanged found]
  have pair {name inner : String}
      (noPoint : '.' ∉ name.toList)
      (noPointInner : '.' ∉ inner.toList)
      (joined :
        withPoints (name ++ "__" ++ inner).toList =
          (name ++ "." ++ inner).toList)
      (unchanged :
        withPoints (name ++ "." ++ inner).toList =
          (name ++ "." ++ inner).toList) :
      Setting.entryValues [name, inner] key (.scalar scalar) =
        if isVariableOf [name, inner] variableName then [.scalar scalar]
        else [] := by
    simp [Setting.entryValues, Setting.entries,
      lowercase_key_eq_pair_iff noPoint noPointInner joined unchanged found]
  cases field with
  | defaultUnit => exact single (by decide) (by decide)
  | historyLimit => exact single (by decide) (by decide)
  | maxFractionDigits =>
      exact pair (by decide) (by decide) (by decide) (by decide)
  | grouping => exact pair (by decide) (by decide) (by decide) (by decide)
  | logLevel => exact pair (by decide) (by decide) (by decide) (by decide)
  | logJson => exact pair (by decide) (by decide) (by decide) (by decide)

/-- A variable that spells the path of a field has a key. -/
theorem Field.variableKey?_isSome
    (field : Field)
    {variableName : String}
    (spelled : isVariableOf field.path variableName = true) :
    (variableKey? variableName).isSome := by
  cases field <;>
    simp only [path, isVariableOf, Bool.or_eq_true, decide_eq_true_eq]
      at spelled
  case defaultUnit => exact Settings.variableKey?_isSome spelled
  case historyLimit => exact Settings.variableKey?_isSome spelled
  all_goals
    exact spelled.elim Settings.variableKey?_isSome
      Settings.variableKey?_isSome

/-- The environment gives a field the texts of its variables. -/
theorem Field.given_variableTable
    (field : Field)
    (environment : List (String × String)) :
    field.given (variableTable environment) =
      (field.texts environment).map fun text => .scalar (.ofVariable text) := by
  induction environment with
  | nil => rfl
  | cons binding later inductionHypothesis =>
      obtain ⟨name, text⟩ := binding
      cases found : variableKey? name with
      | none =>
          have other : isVariableOf field.path name = false := by
            rw [← Bool.not_eq_true]
            intro spelled
            have some := field.variableKey?_isSome spelled
            simp [found] at some
          simp only [variableTable, texts, List.filterMap_cons, found,
            Option.map_none, List.filter_cons, other, Bool.false_eq_true,
            ↓reduceIte]
          exact inductionHypothesis
      | some key =>
          have first :=
            field.entryValues_of_variableKey? found (.ofVariable text)
          simp only [variableTable, texts, given, List.filterMap_cons, found,
            Option.map_some, List.flatMap_cons, first, List.filter_cons]
            at inductionHypothesis ⊢
          rw [inductionHypothesis]
          split <;> rfl

/-- The environment is one more source on top of the file. -/
theorem layered_eq
    (file : SettingTable)
    (environment : List (String × String)) :
    layered file environment =
      (Setting.withFile (.table []) file).withFile
        (variableTable environment) := by
  rw [layered]
  conv_rhs => rw [Setting.withFile, variableTable, List.foldl_filterMap]
  refine congrArg (environment.foldl · (Setting.withFile (.table []) file)) ?_
  funext setting ⟨name, text⟩
  cases found : variableKey? name <;> simp [withVariable, found]

section Layers

open Setting

variable {file : SettingTable} {environment : List (String × String)}

/-- The layers together hold for each field what it is given. -/
theorem part?_layered
    (tidyFile : Tidy file)
    (tidyVariables : Tidy (variableTable environment))
    (field : Field) :
    part? field.path (layered file environment) =
      (chosen? file environment field).map Setting.scalar := by
  have nothing : part? field.path (.table []) = none := by
    cases field <;> rfl
  calc part? field.path (layered file environment)
    _ = (assignments field.path (variableTable environment)).getLast?.or
          ((assignments field.path file).getLast?.or none) := by
        rw [layered_eq,
          part?_withFile _ _ fun _ _ member => tidyVariables.fits field member,
          part?_withFile _ _ fun _ _ member => tidyFile.fits field member,
          nothing]
    _ = (chosen? file environment field).map Setting.scalar := by
        rw [tidyVariables.getLast?_assignments, tidyFile.getLast?_assignments,
          field.given_variableTable, List.getLast?_map, chosen?]
        cases (field.texts environment).getLast? <;> simp [scalar?]

/-- The layers together hold sections where there are any. -/
theorem sectionAt_layered
    (tidyFile : Tidy file)
    (tidyVariables : Tidy (variableTable environment))
    {name : String}
    (known : name ∈ ["format", "logging"]) :
    SectionAt name (layered file environment) := by
  have empty : SectionAt name (.table []) := by
    intro part found
    cases found
  rw [layered_eq]
  exact
    (empty.withFile file (tidyFile.sections name known)).withFile
      (variableTable environment) (tidyVariables.sections name known)

/-- A field that holds what it is given has the value of that. -/
theorem fieldValue?_layered
    (tidyFile : Tidy file)
    (tidyVariables : Tidy (variableTable environment))
    (field : Field) :
    fieldValue? field.convert? (field.value {})
        (part? field.path (layered file environment)) =
      field.result? (chosen? file environment field) := by
  rw [part?_layered tidyFile tidyVariables]
  cases chosen? file environment field <;> rfl

/-- The settings of the layers are gathered field by field. -/
theorem ofTable?_layered
    (tidyFile : Tidy file)
    (tidyVariables : Tidy (variableTable environment)) :
    ofTable? (layered file environment).entries =
      Field.gather? fun field =>
        field.result? (chosen? file environment field) := by
  have held := fieldValue?_layered tidyFile tidyVariables
  have formatSection : SectionAt "format" (layered file environment) :=
    sectionAt_layered tidyFile tidyVariables (by simp)
  have loggingSection : SectionAt "logging" (layered file environment) :=
    sectionAt_layered tidyFile tidyVariables (by simp)
  obtain ⟨formatEntries, formatRead, formatParts⟩ :=
    formatSection.sectionValue?_eq formatOf? {} rfl
  obtain ⟨loggingEntries, loggingRead, loggingParts⟩ :=
    loggingSection.sectionValue?_eq loggingOf? {} rfl
  have unitHeld := part?_singleton "default_unit" (layered file environment)
  have limitHeld := part?_singleton "history_limit" (layered file environment)
  simp only [ofTable?, ← unitHeld, ← limitHeld, formatRead, formatOf?,
    loggingRead, loggingOf?, sectionField?, formatParts, loggingParts,
    Field.gather?, ← held, bind_assoc, pure_bind]
  rfl

/-- What is loaded is gathered field by field. -/
theorem load_eq
    {source : File}
    (read : fileTable source = .ok file)
    (tidyFile : Tidy file)
    (tidyVariables : Tidy (variableTable environment)) :
    load source environment =
      (Field.gather? fun field =>
        field.result? (chosen? file environment field)).elim
          (.error .wrongValue) .ok := by
  rw [← ofTable?_layered tidyFile tidyVariables, load, read]
  dsimp only
  cases ofTable? (layered file environment).entries <;> rfl

end Layers

/-- A variable without the prefix sets nothing. -/
theorem variableKey?_of_not_hasPrefix
    {name : String}
    (unknown : hasPrefix name = false) :
    variableKey? name = none := by
  rw [hasPrefix, lowercase, String.toList_ofList] at unknown
  simp only [variableKey?, unknown]
  rfl

/-- The environment assigns what its variables with the prefix assign. -/
theorem variableTable_filter (environment : List (String × String)) :
    variableTable (environment.filter fun binding => hasPrefix binding.1) =
      variableTable environment := by
  rw [variableTable, variableTable, List.filterMap_filter]
  refine congrArg environment.filterMap (funext fun ⟨name, text⟩ => ?_)
  cases known : hasPrefix name with
  | true => rfl
  | false => simp [variableKey?_of_not_hasPrefix known]

/-- The variable of a field spells its path, in whatever case it is named. -/
theorem Field.isVariableOf_variableName
    (field : Field)
    {name : String}
    (same : lowercase name = lowercase field.variableName) :
    isVariableOf field.path name = true := by
  cases field <;>
    simp only [path, isVariableOf, same] <;>
    decide

/-- An environment with one more variable, which leads to no field. -/
inductive UnknownVariable :
    (environment more : List (String × String)) → Prop where
  | mk {before after : List (String × String)}
      {name text : String} :
      (∀ field : Field, isVariableOf field.path name = false) →
      UnknownVariable (before ++ after) (before ++ (name, text) :: after)

/--
A table with one more key, which leads to no field: at the top of the table or
in a section of it.
-/
inductive UnknownKey : (table more : SettingTable) → Prop where
  | outside
      {before after : SettingTable}
      {key : String}
      {value : Setting} :
      (∀ field : Field, Setting.entryValues field.path key value = []) →
      UnknownKey (before ++ after) (before ++ (key, value) :: after)
  | inside
      {before after front back : SettingTable}
      {name key : String}
      {value : Setting} :
      lowercase name ∈ ["format", "logging"] →
      (∀ field : Field, field.path ≠ [lowercase name, lowercase key]) →
      UnknownKey
        (before ++ (name, .table (front ++ back)) :: after)
        (before ++ (name, .table (front ++ (key, value) :: back)) :: after)

/-- An unknown variable has no text for a field. -/
theorem UnknownVariable.texts_eq
    {environment more : List (String × String)}
    (unknown : UnknownVariable environment more)
    (field : Field) :
    field.texts more = field.texts environment := by
  obtain ⟨other⟩ := unknown
  simp [Field.texts, other field]

/-- An unknown key has no value for a field. -/
theorem UnknownKey.given_eq
    {table more : SettingTable}
    (unknown : UnknownKey table more)
    (field : Field) :
    field.given more = field.given table := by
  cases unknown with
  | outside noValue => simp [Field.given, noValue field]
  | @inside before after front back name key value known other =>
      have notNamed {text : String} (otherwise : text ∉ ["format", "logging"]) :
          lowercase name ≠ text := by
        rintro rfl
        exact otherwise known
      have notSingle {text : String}
          (otherwise : text ∉ ["format", "logging"])
          (part : Setting) :
          Setting.entryValues [text] name part = [] := by
        rw [Setting.entryValues, if_neg (notNamed otherwise)]
      have same :
          Setting.entryValues field.path name
              (.table (front ++ (key, value) :: back)) =
            Setting.entryValues field.path name (.table (front ++ back)) := by
        have different := other field
        cases field with
        | defaultUnit =>
            rw [Field.path, notSingle (by decide), notSingle (by decide)]
        | historyLimit =>
            rw [Field.path, notSingle (by decide), notSingle (by decide)]
        | maxFractionDigits =>
            exact Setting.entryValues_insert (notNamed (by decide)) different
        | grouping =>
            exact Setting.entryValues_insert (notNamed (by decide)) different
        | logLevel =>
            exact Setting.entryValues_insert (notNamed (by decide)) different
        | logJson =>
            exact Setting.entryValues_insert (notNamed (by decide)) different
      simp only [Field.given, List.flatMap_append, List.flatMap_cons, same]

/-- A tidy source that spells a field once gives it what it holds there. -/
theorem Tidy.given_eq_of_part?
    {source : SettingTable}
    (tidy : Tidy source)
    {field : Field}
    {part : Setting}
    (once : (field.given source).length ≤ 1)
    (held : Setting.part? field.path (.table source) = some part) :
    field.given source = [part] := by
  have member : part ∈ Setting.assignments field.path source := by
    cases field <;>
      exact Setting.mem_assignments_of_part? (by decide) (by decide) held
  rw [tidy.assignments_eq field] at member
  generalize field.given source = given at once member
  match given with
  | [] => cases member
  | [other] =>
      obtain rfl := List.mem_singleton.mp member
      rfl
  | _ :: _ :: _ => simp at once

/--
For a file that can be read and an environment, both tidy:

* settings are loaded if, and only if, each field has the value of what its
  variable gives it, else of what its entry in the file gives it, else the
  built-in one;
* loading fails for a wrong value if, and only if, something that is so chosen
  is of no use for its field;
* the variable of a field gives it its text, in whatever case it is named, and
  if it is set several times, the last time counts;
* an entry of the file under the names of a field gives it its scalar, if it is
  the only one and there is no variable;
* a field whose path no variable and no entry spells is given nothing and has
  the built-in value;
* one more variable that leads to no field makes no difference;
* nor does one more key that leads to no field, at the top of the file or in a
  section;
* nor do variables without the prefix.
-/
theorem load_by_key
    {file : File}
    {table : SettingTable}
    {environment : List (String × String)}
    (read : fileTable file = .ok table)
    (tidyFile : Tidy table)
    (tidyVariables : Tidy (variableTable environment)) :
    (∀ settings, load file environment = .ok settings ↔
      ∀ field : Field,
        field.result? (chosen? table environment field) =
          some (field.value settings)) ∧
    (load file environment = .error .wrongValue ↔
      ∃ field scalar,
        chosen? table environment field = some scalar ∧
          field.convert? scalar = none) ∧
    (∀ field name text before after,
      environment = before ++ (name, text) :: after →
        lowercase name = lowercase field.variableName →
          (∀ binding ∈ after, isVariableOf field.path binding.1 = false) →
            chosen? table environment field = some (.ofVariable text)) ∧
    (∀ field scalar,
      (∀ binding ∈ environment, isVariableOf field.path binding.1 = false) →
        (field.given table).length ≤ 1 →
          Setting.part? field.path (.table table) = some (.scalar scalar) →
            chosen? table environment field = some scalar) ∧
    (∀ field,
      (∀ binding ∈ environment, isVariableOf field.path binding.1 = false) →
        (∀ entry ∈ table,
          Setting.entryValues field.path entry.1 entry.2 = []) →
          chosen? table environment field = none ∧
            ∀ settings, load file environment = .ok settings →
              field.value settings = field.value {}) ∧
    (∀ more, UnknownVariable environment more →
      Tidy (variableTable more) →
        load file more = load file environment) ∧
    (∀ otherFile more, UnknownKey table more →
      fileTable otherFile = .ok more →
        Tidy more →
          load otherFile environment = load file environment) ∧
    ∀ other,
      (other.filter fun binding => hasPrefix binding.1) =
          environment.filter (fun binding => hasPrefix binding.1) →
        load file other = load file environment := by
  have loaded := load_eq read tidyFile tidyVariables
  have values (settings : Settings) :
      load file environment = .ok settings ↔
        ∀ field : Field,
          field.result? (chosen? table environment field) =
            some (field.value settings) := by
    rw [loaded, ← Field.gather?_eq_some_iff]
    generalize Field.gather? _ = gathered
    cases gathered <;> simp
  have noTexts {field : Field} {bindings : List (String × String)}
      (unset :
        ∀ binding ∈ bindings, isVariableOf field.path binding.1 = false) :
      field.texts bindings = [] := by
    simpa [Field.texts] using unset
  refine ⟨values, ?failure, ?ownVariable, ?ownEntry, ?builtIn,
    ?unknownVariable, ?unknownKey, ?unprefixed⟩
  case failure =>
      simp only [loaded, ← Field.result?_eq_none_iff]
      rw [← Field.gather?_eq_none_iff]
      generalize Field.gather? _ = gathered
      cases gathered <;> simp
  case ownVariable =>
      rintro field name text before after rfl same unset
      have spelled := field.isVariableOf_variableName same
      have texts :
          field.texts (before ++ (name, text) :: after) =
            field.texts before ++ text :: field.texts after := by
        simp [Field.texts, spelled]
      rw [chosen?, texts, noTexts unset, List.getLast?_concat]
      rfl
  case ownEntry =>
      intro field scalar unset once held
      rw [chosen?, noTexts unset, tidyFile.given_eq_of_part? once held]
      rfl
  case builtIn =>
      intro field unset noValue
      have noEntries : field.given table = [] := by
        simpa [Field.given] using noValue
      have nothing : chosen? table environment field = none := by
        rw [chosen?, noTexts unset, noEntries]
        rfl
      refine ⟨nothing, fun settings ok => ?_⟩
      have result := (values settings).mp ok field
      rw [nothing] at result
      exact (Option.some.inj result).symm
  case unknownVariable =>
      intro more unknown tidyMore
      rw [loaded, load_eq read tidyFile tidyMore]
      simp only [chosen?, unknown.texts_eq]
  case unknownKey =>
      intro otherFile more unknown otherRead tidyMore
      rw [loaded, load_eq otherRead tidyMore tidyVariables]
      simp only [chosen?, unknown.given_eq]
  case unprefixed =>
      intro other same
      have sameTable : variableTable other = variableTable environment := by
        rw [← variableTable_filter other, same, variableTable_filter]
      simp only [load, read, layered_eq, sameTable]

/-- A file with a word for a number and a section in other letters. -/
def mixedFile : File :=
  .content "history_limit = 'many'\n[Format]\ngrouping = true\n"

/-- The table of the file. -/
def mixedTable : SettingTable :=
  [("history_limit", .scalar (.text "many")),
    ("Format", .table [("grouping", .scalar (.flag true))])]

/-- The file with one more name in its section. -/
def widerFile : File :=
  .content "history_limit = 'many'\n[Format]\ngrouping = true\nwidth = 80\n"

/-- The table of the wider file. -/
def widerTable : SettingTable :=
  [("history_limit", .scalar (.text "many")),
    ("Format", .table
      [("grouping", .scalar (.flag true)), ("width", .scalar (.integer 80))])]

/-- An environment that overrides the word and has a variable of its own. -/
def mixedEnvironment : List (String × String) :=
  [("unitscalc__history_limit", "7"), ("OTHER__DEFAULT_UNIT", "pt")]

/-- The environment with one more variable behind the prefix. -/
def themedEnvironment : List (String × String) :=
  ("UNITSCALC__THEME", "pt") :: mixedEnvironment

/-- A file that is well formed has the settings that it defines. -/
theorem fileTable_content
    {text : String}
    {table : Toml.Table}
    (parsed : Toml.ofChars? (Toml.withoutMark text.toList) = some table) :
    fileTable (.content text) = .ok (Toml.tableSettings table) := by
  simp only [fileTable, parsed]

/-- The file is read as its table. -/
theorem fileTable_mixed : fileTable mixedFile = .ok mixedTable := by
  have parsed :
      Toml.ofChars? (Toml.withoutMark
          "history_limit = 'many'\n[Format]\ngrouping = true\n".toList) =
        some
          [("history_limit", .scalar (.text "many")),
            ("Format", .table .header
              [("grouping", .scalar (.flag true))])] :=
    rfl
  exact fileTable_content parsed

/-- The wider file is read as the wider table. -/
theorem fileTable_wider : fileTable widerFile = .ok widerTable := by
  have parsed :
      Toml.ofChars? (Toml.withoutMark
          ("history_limit = 'many'\n[Format]\ngrouping = true\n" ++
            "width = 80\n").toList) =
        some
          [("history_limit", .scalar (.text "many")),
            ("Format", .table .header
              [("grouping", .scalar (.flag true)),
                ("width", .scalar (.integer 80))])] :=
    rfl
  exact fileTable_content parsed

/-- The variable with the theme leads to no field. -/
theorem unknownVariable_themed :
    UnknownVariable mixedEnvironment themedEnvironment :=
  @UnknownVariable.mk [] mixedEnvironment "UNITSCALC__THEME" "pt"
    fun field => by cases field <;> decide

/-- The key for a width leads to no field. -/
theorem unknownKey_wider : UnknownKey mixedTable widerTable :=
  @UnknownKey.inside [("history_limit", .scalar (.text "many"))] []
    [("grouping", .scalar (.flag true))] [] "Format" "width"
    (.scalar (.integer 80)) (by decide) fun field => by cases field <;> decide

/--
A section and a variable in other letters count, a word for a number does harm
only where the environment does not override it, what nothing leads to is built
in, and other names are passed over.
-/
theorem load_by_key_mixed :
    load mixedFile mixedEnvironment =
        .ok ⟨"mm", 7, ⟨3, true⟩, ⟨"warn", false⟩⟩ ∧
      load mixedFile [] = .error .wrongValue ∧
      chosen? mixedTable mixedEnvironment .defaultUnit = none ∧
      load mixedFile themedEnvironment = load mixedFile mixedEnvironment ∧
      load widerFile mixedEnvironment = load mixedFile mixedEnvironment := by
  have tidyFile : Tidy mixedTable :=
    ⟨by decide +kernel, fun field => by cases field <;> decide +kernel⟩
  have tidyWider : Tidy widerTable :=
    ⟨by decide +kernel, fun field => by cases field <;> decide +kernel⟩
  have tidyVariables : Tidy (variableTable mixedEnvironment) :=
    ⟨by decide +kernel, fun field => by cases field <;> decide +kernel⟩
  have tidyThemed : Tidy (variableTable themedEnvironment) :=
    ⟨by decide +kernel, fun field => by cases field <;> decide +kernel⟩
  have tidyNothing : Tidy (variableTable []) :=
    ⟨by decide +kernel, fun field => by cases field <;> decide +kernel⟩
  obtain ⟨values, -, -, -, builtIn, unknownVariable, unknownKey, -⟩ :=
    load_by_key fileTable_mixed tidyFile tidyVariables
  obtain ⟨-, failure, -⟩ := load_by_key fileTable_mixed tidyFile tidyNothing
  refine ⟨(values _).mpr fun field => ?_, failure.mpr ?_, ?_, ?_, ?_⟩
  · cases field <;> decide +kernel
  · exact ⟨.historyLimit, .text "many", by decide +kernel, by decide +kernel⟩
  · exact (builtIn .defaultUnit (by decide +kernel) (by decide +kernel)).1
  · exact unknownVariable themedEnvironment unknownVariable_themed tidyThemed
  · exact unknownKey widerFile widerTable unknownKey_wider fileTable_wider
      tidyWider

end Settings

end LengthCalc
