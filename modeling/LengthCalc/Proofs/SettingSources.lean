import LengthCalc.Settings.Layers

namespace LengthCalc

/-!
# Sources of settings

A source is a list of assignments, each of a setting to a key; putting it on
top of other settings performs them one after the other.  What an assignment
says about a path of names is read off the key and the value alone.  As long as
only scalars are set at the path, and only tables on the way to it, the path
holds in the end what was assigned to it last, and what it held before if
nothing was.
-/

namespace Setting

/-- Whether a setting is a table. -/
def isTable : Setting → Bool
  | .table _ => true
  | _ => false

/-- The scalar that a setting is. -/
def scalar? : Setting → Option Scalar
  | .scalar value => some value
  | _ => none

/-- The part of a setting at a path of names. -/
def part? : (path : List String) → Setting → Option Setting
  | [], setting => some setting
  | name :: rest, setting => (setting.entries.get? name).bind (part? rest)

/--
What the assignment of a value at the end of some steps sets at a path of
names: a part of the value, or what the steps that go on make there.
-/
def assignedAt : (path : List String) → List PathStep → Setting → List Setting
  | [], [], value => [value]
  | [], .name _ :: _, _ => [.table []]
  | [], .position _ :: _, _ => [.list []]
  | name :: rest, .name step :: steps, value =>
      if lowercase step = name then assignedAt rest steps value else []
  | _ :: _, .position _ :: _, _ => []
  | name :: rest, [], value =>
      value.entries.flatMap fun (key, part) =>
        if lowercase key = name then assignedAt rest [] part else []

/-- What the assignments of a source set at a path, in their order. -/
def assignments (path : List String) (source : SettingTable) : List Setting :=
  source.flatMap fun (key, value) =>
    assignedAt path (PathStep.ofKey key) value

/--
An assignment fits a path if it sets only scalars there and only tables on the
way.
-/
structure Fits (path : List String) (steps : List PathStep) (value : Setting) :
    Prop where
  scalars : ∀ part ∈ assignedAt path steps value, part.scalar?.isSome
  tables :
    ∀ front rest, front ++ rest = path → rest ≠ [] →
      ∀ part ∈ assignedAt front steps value, part.isTable

/-- A step with the name sought leads on. -/
theorem assignedAt_name
    {step name : String}
    (same : lowercase step = name)
    (rest : List String)
    (steps : List PathStep)
    (value : Setting) :
    assignedAt (name :: rest) (.name step :: steps) value =
      assignedAt rest steps value := by
  simp [assignedAt, same]

/-- A step with another name leads nowhere. -/
theorem assignedAt_other
    {step name : String}
    (different : lowercase step ≠ name)
    (rest : List String)
    (steps : List PathStep)
    (value : Setting) :
    assignedAt (name :: rest) (.name step :: steps) value = [] := by
  simp [assignedAt, different]

/-- The entries of a table are searched in their order. -/
theorem assignedAt_table_cons
    (name : String)
    (rest : List String)
    (key : String)
    (part : Setting)
    (entries : SettingTable) :
    assignedAt (name :: rest) [] (.table ((key, part) :: entries)) =
      (if lowercase key = name then assignedAt rest [] part else []) ++
        assignedAt (name :: rest) [] (.table entries) := by
  simp [assignedAt, Setting.entries]

namespace Fits

variable {name key : String} {rest : List String} {steps : List PathStep}
  {value part : Setting} {entries : SettingTable}

/-- An assignment makes a table of the setting as a whole. -/
theorem root (fits : Fits (name :: rest) steps value) :
    ∀ part ∈ assignedAt [] steps value, part.isTable :=
  fits.tables [] (name :: rest) rfl (List.cons_ne_nil name rest)

/-- What sets no more behind the first name fits the path behind it. -/
theorem behind
    {laterSteps : List PathStep}
    (fits : Fits (name :: rest) steps value)
    (within :
      ∀ front,
        assignedAt front laterSteps part ⊆
          assignedAt (name :: front) steps value) :
    Fits rest laterSteps part where
  scalars inner member := fits.scalars inner (within rest member)
  tables := by
    intro front later shape nonempty inner member
    exact fits.tables (name :: front) later (by simp [shape]) nonempty inner
      (within front member)

/-- Behind its first name, the path is fitted by the steps behind that name. -/
theorem step
    {step : String}
    (fits : Fits (name :: rest) (.name step :: steps) value)
    (same : lowercase step = name) :
    Fits rest steps value := by
  refine fits.behind fun front => ?_
  rw [assignedAt_name same]
  exact List.Subset.refl _

/-- The parts of a table that stand under the first name fit what is behind. -/
theorem head
    (fits : Fits (name :: rest) [] (.table ((key, part) :: entries)))
    (same : lowercase key = name) :
    Fits rest [] part := by
  refine fits.behind fun front => ?_
  rw [assignedAt_table_cons, if_pos same]
  exact List.subset_append_left _ _

/-- The other parts of a table fit the path as the table does. -/
theorem tail
    (fits : Fits (name :: rest) [] (.table ((key, part) :: entries))) :
    Fits (name :: rest) [] (.table entries) where
  scalars := by
    intro inner member
    apply fits.scalars
    rw [assignedAt_table_cons]
    exact List.mem_append_right _ member
  tables := by
    intro front later shape nonempty inner member
    cases front with
    | nil =>
        rw [List.mem_singleton.mp member]
        rfl
    | cons first front =>
        apply fits.tables (first :: front) later shape nonempty
        rw [assignedAt_table_cons]
        exact List.mem_append_right _ member

end Fits

/-- What stands under a single name is an entry. -/
theorem part?_singleton (name : String) (setting : Setting) :
    part? [name] setting = setting.entries.get? name :=
  Option.bind_fun_some (setting.entries.get? name)

/-- A table has at a path what its entry of the first name has behind it. -/
theorem part?_insert
    (entries : SettingTable)
    (key name : String)
    (value : Setting)
    (rest : List String) :
    part? (name :: rest) (.table (entries.insert key value)) =
      if name = key then part? rest value
      else part? (name :: rest) (.table entries) := by
  simp only [part?, Setting.entries, Entries.get?_insert]
  split <;> rfl

/-- What a setting holds below itself depends on its entries only. -/
theorem part?_table_entries
    (setting : Setting)
    (name : String)
    (rest : List String) :
    part? (name :: rest) (.table setting.entries) =
      part? (name :: rest) setting :=
  rfl

/-- Whether nothing is held or an empty place, there is nothing below. -/
theorem part?_getD
    (held : Option Setting)
    (name : String)
    (rest : List String) :
    part? (name :: rest) (held.getD .nothing) =
      held.bind (part? (name :: rest)) := by
  cases held <;> rfl

/-- The merge of a table is that of its entries, to what is looked up below. -/
theorem part?_overlay_table
    (present : Setting)
    (entries : SettingTable)
    (name : String)
    (rest : List String) :
    part? (name :: rest) (overlay present (.table entries)) =
      part? (name :: rest) (overlayEntries present entries) := by
  cases present with
  | nothing =>
      cases entries <;> rfl
  | _ => rfl

/--
Merging entries leaves at a path what they set there last, if merging each of
their values does so behind the first name.
-/
theorem part?_overlayEntries
    {name : String}
    {rest : List String}
    (behind :
      ∀ held value, Fits rest [] value →
        part? rest (overlay (Option.getD held .nothing) value) =
          (assignedAt rest [] value).getLast?.or (held.bind (part? rest)))
    (entries : SettingTable)
    (present : Setting)
    (fits : Fits (name :: rest) [] (.table entries)) :
    part? (name :: rest) (overlayEntries present entries) =
      (assignedAt (name :: rest) [] (.table entries)).getLast?.or
        (part? (name :: rest) present) := by
  induction entries generalizing present with
  | nil => rfl
  | cons entry entries inductionHypothesis =>
      obtain ⟨key, value⟩ := entry
      rw [overlayEntries, inductionHypothesis _ fits.tail,
        assignedAt_table_cons, List.getLast?_append, Option.or_assoc,
        part?_insert]
      congr 1
      by_cases same : lowercase key = name
      · rw [if_pos same.symm, if_pos same, same, child,
          behind _ value (fits.head same)]
        rfl
      · rw [if_neg (Ne.symm same), if_neg same, part?_table_entries]
        rfl

/--
An assignment that fits a path leaves there what it sets there last, and what
was there before if it sets nothing.
-/
theorem part?_place
    (path : List String)
    (held : Option Setting)
    (steps : List PathStep)
    (value : Setting)
    (fits : Fits path steps value) :
    part? path (place (held.getD .nothing) steps value) =
      (assignedAt path steps value).getLast?.or (held.bind (part? path)) := by
  induction path generalizing held steps value with
  | nil =>
      match steps with
      | [] =>
          have scalar := fits.scalars value (by simp [assignedAt])
          cases value with
          | scalar value => rfl
          | nothing => simp [scalar?] at scalar
          | list items => simp [scalar?] at scalar
          | table entries => simp [scalar?] at scalar
      | .name _ :: _ =>
          simpa [scalar?] using fits.scalars (.table []) (by simp [assignedAt])
      | .position _ :: _ =>
          simpa [scalar?] using fits.scalars (.list []) (by simp [assignedAt])
  | cons name rest inductionHypothesis =>
      match steps with
      | [] =>
          have table := fits.root value (by simp [assignedAt])
          cases value with
          | table entries =>
              rw [place, part?_overlay_table, part?_overlayEntries _ _ _ fits,
                part?_getD]
              intro present part inner
              have placed := inductionHypothesis present [] part inner
              rwa [place] at placed
          | nothing => simp [isTable] at table
          | list items => simp [isTable] at table
          | scalar value => simp [isTable] at table
      | .name step :: steps =>
          rw [place, part?_insert]
          by_cases same : lowercase step = name
          · rw [if_pos same.symm, child,
              inductionHypothesis _ _ _ (fits.step same), same,
              assignedAt_name same]
            cases held <;> rfl
          · rw [if_neg (Ne.symm same), assignedAt_other same,
              part?_table_entries, part?_getD]
            rfl
      | .position _ :: _ =>
          simpa [isTable] using fits.root (.list []) (by simp [assignedAt])

/-- A key stands for steps of which the first one is a name. -/
theorem exists_name_ofKey (key : String) :
    ∃ name steps, PathStep.ofKey key = .name name :: steps := by
  cases read : PathStep.readName? key.toList with
  | none =>
      exact ⟨key, [], by simp [PathStep.ofKey, PathStep.ofPath?, read]⟩
  | some found =>
      obtain ⟨first, rest⟩ := found
      have named : ∃ name, first = .name name := by
        unfold PathStep.readName? at read
        split at read
        · cases read
        · cases read
          exact ⟨_, rfl⟩
      obtain ⟨name, rfl⟩ := named
      cases behind : PathStep.readSteps? rest.length rest with
      | none =>
          exact ⟨key, [], by
            simp [PathStep.ofKey, PathStep.ofPath?, read, behind]⟩
      | some steps =>
          exact ⟨name, steps, by
            simp [PathStep.ofKey, PathStep.ofPath?, read, behind]⟩

/-- The assignment to a key makes a table of the setting as a whole. -/
theorem assignedAt_nil_ofKey (key : String) (value : Setting) :
    assignedAt [] (PathStep.ofKey key) value = [.table []] := by
  obtain ⟨name, steps, shape⟩ := exists_name_ofKey key
  rw [shape, assignedAt]

/-- The keys of a source are searched in their order. -/
theorem assignments_cons
    (path : List String)
    (key : String)
    (value : Setting)
    (source : SettingTable) :
    assignments path ((key, value) :: source) =
      assignedAt path (PathStep.ofKey key) value ++ assignments path source := by
  simp [assignments]

/--
A source each of whose assignments fits a path leaves there what it sets there
last, and what was there before if it sets nothing.
-/
theorem part?_withFile
    {path : List String}
    (source : SettingTable)
    (present : Setting)
    (fits :
      ∀ key value, (key, value) ∈ source →
        Fits path (PathStep.ofKey key) value) :
    part? path (withFile present source) =
      (assignments path source).getLast?.or (part? path present) := by
  induction source generalizing present with
  | nil => rfl
  | cons entry source inductionHypothesis =>
      obtain ⟨key, value⟩ := entry
      have placed :
          part? path (present.set key value) =
            (assignedAt path (PathStep.ofKey key) value).getLast?.or
              (part? path present) :=
        part?_place path (some present) (PathStep.ofKey key) value
          (fits key value List.mem_cons_self)
      calc part? path (withFile present ((key, value) :: source))
        _ = (assignments path source).getLast?.or
              (part? path (present.set key value)) :=
            inductionHypothesis _ fun key value member =>
              fits key value (List.mem_cons_of_mem _ member)
        _ = (assignments path ((key, value) :: source)).getLast?.or
              (part? path present) := by
            rw [placed, assignments_cons, List.getLast?_append, Option.or_assoc]

/-- A value that is found is an entry. -/
theorem mem_of_get?
    {entries : SettingTable}
    {name : String}
    {value : Setting}
    (found : entries.get? name = some value) :
    (name, value) ∈ entries := by
  obtain ⟨before, after, rfl, -⟩ := List.lookup_eq_some_iff.mp found
  simp

/-- A value sets what it holds at a path of names in small letters. -/
theorem mem_assignedAt_of_part?
    {path : List String}
    (folded : ∀ name ∈ path, lowercase name = name)
    {value part : Setting}
    (held : part? path value = some part) :
    part ∈ assignedAt path [] value := by
  induction path generalizing value with
  | nil =>
      obtain rfl := Option.some.inj held
      exact List.mem_singleton_self value
  | cons name rest inductionHypothesis =>
      obtain ⟨inner, found, behind⟩ := Option.bind_eq_some_iff.mp held
      refine List.mem_flatMap.mpr ⟨(name, inner), mem_of_get? found, ?_⟩
      dsimp only
      rw [if_pos (folded name List.mem_cons_self)]
      exact inductionHypothesis
        (fun other member => folded other (List.mem_cons_of_mem name member))
        behind

/-- A source sets what it holds at a path whose first name is a key by itself. -/
theorem mem_assignments_of_part?
    {name : String}
    {rest : List String}
    (folded : ∀ other ∈ name :: rest, lowercase other = other)
    (single : PathStep.ofKey name = [.name name])
    {source : SettingTable}
    {part : Setting}
    (held : part? (name :: rest) (.table source) = some part) :
    part ∈ assignments (name :: rest) source := by
  obtain ⟨value, found, behind⟩ := Option.bind_eq_some_iff.mp held
  refine List.mem_flatMap.mpr ⟨(name, value), mem_of_get? found, ?_⟩
  dsimp only
  rw [single, assignedAt_name (folded name List.mem_cons_self)]
  exact mem_assignedAt_of_part?
    (fun other member => folded other (List.mem_cons_of_mem name member)) behind

/-- Whether a setting holds at a name a table, if it holds anything there. -/
def SectionAt (name : String) (setting : Setting) : Prop :=
  ∀ part, part? [name] setting = some part → part.isTable

/-- A table stays a table under any entries. -/
theorem isTable_overlayEntries
    (entries : SettingTable)
    {present : Setting}
    (table : present.isTable) :
    (overlayEntries present entries).isTable := by
  induction entries generalizing present with
  | nil => exact table
  | cons entry entries inductionHypothesis =>
      exact inductionHypothesis rfl

/-- A table on top of a table, or of nothing, is a table. -/
theorem isTable_overlay
    {held : Option Setting}
    {value : Setting}
    (table : ∀ part, held = some part → part.isTable)
    (added : value.isTable) :
    (overlay (held.getD .nothing) value).isTable := by
  cases value with
  | table entries =>
      cases held with
      | none => exact isTable_overlayEntries entries rfl
      | some present =>
          have present_isTable := table present rfl
          cases present with
          | table =>
              exact isTable_overlayEntries entries present_isTable
          | _ => simp [isTable] at present_isTable
  | _ => simp [isTable] at added

/-- An assignment that sets only tables at a name keeps a section there. -/
theorem SectionAt.set
    {name key : String}
    {value present : Setting}
    (holds : SectionAt name present)
    (tables :
      ∀ part ∈ assignedAt [name] (PathStep.ofKey key) value, part.isTable) :
    SectionAt name (present.set key value) := by
  obtain ⟨step, steps, shape⟩ := exists_name_ofKey key
  rw [shape] at tables
  intro part found
  rw [Setting.set, shape, place, part?_insert] at found
  split at found
  case isFalse different =>
      exact holds part found
  case isTrue same =>
      rw [assignedAt_name same.symm] at tables
      cases found
      match steps with
      | [] =>
          apply isTable_overlay
          · intro before held
            apply holds before
            rw [part?, same, held]
            rfl
          · exact tables value (by simp [assignedAt])
      | .name _ :: _ => rfl
      | .position _ :: _ =>
          simpa [isTable] using tables (.list []) (by simp [assignedAt])

/-- A source that sets only tables at a name keeps a section there. -/
theorem SectionAt.withFile
    {name : String}
    (source : SettingTable)
    {present : Setting}
    (holds : SectionAt name present)
    (tables : ∀ part ∈ assignments [name] source, part.isTable) :
    SectionAt name (present.withFile source) := by
  induction source generalizing present with
  | nil => exact holds
  | cons entry source inductionHypothesis =>
      obtain ⟨key, value⟩ := entry
      rw [assignments_cons] at tables
      apply inductionHypothesis
      · exact holds.set fun part member =>
          tables part (List.mem_append_left _ member)
      · exact fun part member =>
          tables part (List.mem_append_right _ member)

/--
A section is read like a table that holds what is there under its names, also
when it is absent, if an empty table is read as what is built in.
-/
theorem SectionAt.sectionValue?_eq
    {α : Type}
    {name : String}
    {setting : Setting}
    (holds : SectionAt name setting)
    (read? : Setting → Option α)
    (default : α)
    (empty : read? (.table []) = some default) :
    ∃ entries : SettingTable,
      Settings.sectionValue? read? default (setting.entries.get? name) =
          read? (.table entries) ∧
        ∀ inner, entries.lookup inner = part? [name, inner] setting := by
  cases held : setting.entries.get? name with
  | none =>
      refine ⟨[], empty.symm, fun inner => ?_⟩
      simp [part?, held]
  | some part =>
      have table := holds part (by simp [part?, held])
      cases part with
      | table entries =>
          refine ⟨entries, rfl, fun inner => ?_⟩
          rw [part?, held]
          exact (part?_singleton inner (.table entries)).symm
      | _ => simp [isTable] at table

end Setting

end LengthCalc
