import LengthCalc.Json.Reader
import LengthCalc.Json.Writer
import LengthCalc.Proofs.QuotedText

namespace LengthCalc.Json

/-!
# Reading back written JSON

A value that is made up of texts, arrays and objects is read back from what is
written for it.  `Written` says what that may be, whatever the spaces between
the parts are; the compact and the indented text are two cases of it.
-/

/-- Characters that may stand between the parts of a JSON text. -/
def AllSpace (characters : List Char) : Prop :=
  ∀ character ∈ characters, isSpace character = true

/-- The characters that strings, arrays and objects begin with. -/
inductive Opening : Char → Prop where
  | quote : Opening '"'
  | array : Opening '['
  | object : Opening '\x7b'

/-- The characters that arrays and objects end with. -/
inductive Closing : Char → Prop where
  | array : Closing ']'
  | object : Closing '\x7d'

variable {first closing : Char}
variable {lead tail gap later : List Char}

/-- A value does not begin with a space. -/
theorem Opening.isSpace_eq_false (opening : Opening first) :
    isSpace first = false := by
  cases opening <;> rfl

/-- A closing character is not a space. -/
theorem Closing.isSpace_eq_false (closes : Closing closing) :
    isSpace closing = false := by
  cases closes <;> rfl

/-- A closing character is not a comma. -/
theorem Closing.ne_comma (closes : Closing closing) : closing ≠ ',' := by
  cases closes <;> decide

/-- No value begins with a closing character. -/
theorem Opening.ne_closing
    (opening : Opening first)
    (closes : Closing closing) :
    first ≠ closing := by
  cases opening <;> cases closes <;> decide

@[simp] theorem skipSpace_append
    (spaces : AllSpace lead)
    (later : List Char) :
    skipSpace (lead ++ later) = skipSpace later :=
  List.dropWhile_append_of_pos spaces

@[simp] theorem skipSpace_cons
    (noSpace : isSpace first = false)
    (later : List Char) :
    skipSpace (first :: later) = first :: later := by
  simp [skipSpace, noSpace]

/-- What is written for a part is read as it, whatever stands behind it. -/
structure ReadsAs
    {α : Type}
    (readPart? : List Char → Option (α × List Char))
    (part : α)
    (written : List Char) : Prop where
  opens : ∃ first rest, written = first :: rest ∧ Opening first
  reads : ∀ later, readPart? (written ++ later) = some (part, later)

/-- Texts between two signs, with spaces before each and behind the last. -/
def bracketed
    (opening closing : Char)
    (lead tail : List Char)
    (texts : List (List Char)) :
    List Char :=
  opening ::
    (lead ++ (joinWith (',' :: lead) texts ++ (tail ++ [closing])))

section Parts

variable {α : Type}
variable {readPart? : List Char → Option (α × List Char)}
variable {parts : List (α × List Char)}

/-- Joined texts begin with the first one. -/
theorem exists_joinWith_cons
    (separator text : List Char)
    (others : List (List Char)) :
    ∃ back, joinWith separator (text :: others) = text ++ back := by
  cases others with
  | nil => exact ⟨[], by simp [joinWith]⟩
  | cons next rest =>
      exact ⟨separator ++ joinWith separator (next :: rest), by
        simp [joinWith]⟩

/-- Joined texts of parts begin with the first character of the first part. -/
theorem exists_opening_joined
    {part : α × List Char}
    (reads : ReadsAs readPart? part.1 part.2)
    (others : List (α × List Char))
    (separator later : List Char) :
    ∃ first rest,
      joinWith separator ((part :: others).map Prod.snd) ++ later =
          first :: rest ∧
        Opening first := by
  obtain ⟨back, shape⟩ :=
    exists_joinWith_cons separator part.2 (others.map Prod.snd)
  obtain ⟨first, rest, written, opening⟩ := reads.opens
  refine ⟨first, rest ++ (back ++ later), ?_, opening⟩
  rw [List.map_cons, shape, written]
  simp

/-- The parts of a list are read one after the other. -/
theorem readParts?_joined
    (closes : Closing closing)
    (leadSpaces : AllSpace lead)
    (tailSpaces : AllSpace tail)
    {part : α × List Char}
    {others : List (α × List Char)}
    (readAll : ∀ one ∈ part :: others, ReadsAs readPart? one.1 one.2)
    {fuel : Nat}
    (enough : others.length ≤ fuel)
    {characters : List Char}
    (begun :
      skipSpace characters =
        joinWith (',' :: lead) ((part :: others).map Prod.snd) ++
          (tail ++ closing :: later)) :
    readParts? skipSpace readPart? closing (fuel + 1) characters =
      some ((part :: others).map Prod.fst, later) := by
  have reads := (readAll part (by simp)).reads
  induction others generalizing part fuel characters with
  | nil =>
      have shape :
          skipSpace characters = part.2 ++ (tail ++ closing :: later) := begun
      rw [readParts?, shape, reads]
      simp [skipSpace_append tailSpaces,
        skipSpace_cons closes.isSpace_eq_false, closes.ne_comma]
  | cons next rest inductionHypothesis =>
      obtain ⟨fuel, rfl⟩ : ∃ less, fuel = less + 1 :=
        ⟨fuel - 1, by simp only [List.length_cons] at enough; omega⟩
      have readsNext := readAll next (by simp)
      have behind :
          skipSpace
              (lead ++
                (joinWith (',' :: lead) ((next :: rest).map Prod.snd) ++
                  (tail ++ closing :: later))) =
            joinWith (',' :: lead) ((next :: rest).map Prod.snd) ++
              (tail ++ closing :: later) := by
        obtain ⟨first, more, shape, opening⟩ :=
          exists_opening_joined readsNext rest (',' :: lead)
            (tail ++ closing :: later)
        rw [skipSpace_append leadSpaces, shape,
          skipSpace_cons opening.isSpace_eq_false]
      have readRest := inductionHypothesis
        (fun one member => readAll one (by simp [member]))
        (by simpa using enough) behind readsNext.reads
      have shape :
          skipSpace characters =
            part.2 ++ ',' ::
              (lead ++
                (joinWith (',' :: lead) ((next :: rest).map Prod.snd) ++
                  (tail ++ closing :: later))) := by
        simpa [joinWith] using begun
      rw [readParts?, shape, reads]
      have comma : isSpace ',' = false := rfl
      simp only [skipSpace_cons comma, ↓reduceIte, readRest]
      rfl

/-- A list of parts, empty or not, is read up to its closing sign. -/
theorem readList?_bracketed
    (closes : Closing closing)
    (leadSpaces : AllSpace lead)
    (tailSpaces : AllSpace tail)
    (readAll : ∀ part ∈ parts, ReadsAs readPart? part.1 part.2)
    {fuel : Nat}
    (enough : parts.length ≤ fuel)
    (later : List Char) :
    readList? skipSpace readPart? closing fuel
        (lead ++ (joinWith (',' :: lead) (parts.map Prod.snd) ++
          (tail ++ closing :: later))) =
      some (parts.map Prod.fst, later) := by
  unfold readList?
  rw [skipSpace_append leadSpaces]
  cases parts with
  | nil =>
      simp [joinWith, skipSpace_append tailSpaces,
        skipSpace_cons closes.isSpace_eq_false]
  | cons part others =>
      obtain ⟨fuel, rfl⟩ : ∃ less, fuel = less + 1 :=
        ⟨fuel - 1, by simp only [List.length_cons] at enough; omega⟩
      obtain ⟨first, rest, shape, opening⟩ :=
        exists_opening_joined (readAll part (by simp)) others (',' :: lead)
          (tail ++ closing :: later)
      have begun := skipSpace_cons opening.isSpace_eq_false rest
      rw [shape, begun]
      simp only [opening.ne_closing closes, ↓reduceIte]
      refine readParts?_joined closes leadSpaces tailSpaces readAll
        (by simpa using enough) ?_
      rw [begun, shape]

end Parts

/-- What is written for a field: its name, a colon and its value. -/
def fieldChars (name : String) (gap written : List Char) : List Char :=
  Quoted.enclosed (Quoted.escaped name) ++ ':' :: (gap ++ written)

/-- A written field is read as its name and its value. -/
theorem readField?_fieldChars
    {readPart? : List Char → Option (Json × List Char)}
    {value : Json}
    {written : List Char}
    (name : String)
    (gapSpaces : AllSpace gap)
    (readValue : ReadsAs readPart? value written) :
    ReadsAs (readField? readPart?) (Quoted.escaped name, value)
      (fieldChars name gap written) := by
  refine ⟨⟨'"', _, rfl, .quote⟩, fun later => ?_⟩
  obtain ⟨first, rest, shape, opening⟩ := readValue.opens
  have colon : isSpace ':' = false := rfl
  have behindGap : skipSpace (gap ++ (written ++ later)) = written ++ later := by
    rw [skipSpace_append gapSpaces, shape, List.cons_append,
      skipSpace_cons opening.isSpace_eq_false]
  have behindQuote :
      fieldChars name gap written ++ later =
        '"' :: (Quoted.escaped name ++
          '"' :: ':' :: (gap ++ (written ++ later))) := by
    simp [fieldChars, Quoted.enclosed]
  rw [behindQuote, readField?]
  simp only [Quoted.take?_escaped, skipSpace_cons colon, behindGap,
    readValue.reads, Option.map_some]

/--
The characters that may be written for a value that is made up of texts, with
spaces around the parts of arrays and objects and behind the colons of fields.
-/
inductive Written : Json → List Char → Prop where
  | text
      (text : String) :
      Written (.ofText text) (Quoted.enclosed (Quoted.escaped text))
  | array
      {lead tail : List Char}
      {items : List (Json × List Char)} :
      AllSpace lead →
      AllSpace tail →
      (∀ item ∈ items, Written item.1 item.2) →
      Written (.array (items.map Prod.fst))
        (bracketed '[' ']' lead tail (items.map Prod.snd))
  | object
      {lead tail gap : List Char}
      {fields : List (String × Json × List Char)} :
      AllSpace lead →
      AllSpace tail →
      AllSpace gap →
      (∀ field ∈ fields, Written field.2.1 field.2.2) →
      Written (.ofFields (fields.map fun field => (field.1, field.2.1)))
        (bracketed '\x7b' '\x7d' lead tail
          (fields.map fun field => fieldChars field.1 gap field.2.2))

/-- No part is longer than the joined text. -/
theorem length_le_joinWith
    (separator : List Char)
    {text : List Char}
    {texts : List (List Char)}
    (member : text ∈ texts) :
    text.length ≤ (joinWith separator texts).length := by
  induction texts with
  | nil => cases member
  | cons first others inductionHypothesis =>
      cases others with
      | nil =>
          rw [List.mem_singleton.mp member]
          exact Nat.le_refl _
      | cons next rest =>
          simp only [joinWith, List.length_append]
          rcases List.mem_cons.mp member with rfl | behind
          · omega
          · have within := inductionHypothesis behind
            omega

/-- Between two joined texts there is a separator. -/
theorem length_le_length_joinWith
    (sign : Char)
    (spaces : List Char)
    (texts : List (List Char)) :
    texts.length ≤ (joinWith (sign :: spaces) texts).length + 1 := by
  induction texts with
  | nil => exact Nat.zero_le _
  | cons first others inductionHypothesis =>
      cases others with
      | nil => simp
      | cons next rest =>
          simp only [joinWith, List.length_append,
            List.length_cons] at inductionHypothesis ⊢
          omega

/-- Fuel for texts between two signs is enough for each text and for all. -/
theorem exists_fuel_of_bracketed
    {opening : Char}
    {texts : List (List Char)}
    {fuel : Nat}
    (enough : (bracketed opening closing lead tail texts).length ≤ fuel) :
    ∃ less,
      fuel = less + 1 ∧
        texts.length ≤ less ∧
        ∀ text ∈ texts, text.length ≤ less := by
  have count := length_le_length_joinWith ',' lead texts
  simp only [bracketed, List.length_cons, List.length_append,
    List.length_nil] at enough
  refine ⟨fuel - 1, by omega, by omega, fun text member => ?_⟩
  have within := length_le_joinWith (',' :: lead) member
  omega

/-- A bracketed text is its brackets, the spaces inside and the joined parts. -/
theorem bracketed_append
    (opening : Char)
    (texts : List (List Char)) :
    bracketed opening closing lead tail texts ++ later =
      opening ::
        (lead ++ (joinWith (',' :: lead) texts ++
          (tail ++ closing :: later))) := by
  simp [bracketed]

/-- Whatever is written for a value is read as that value. -/
theorem Written.readsAs
    {value : Json}
    {characters : List Char}
    (written : Written value characters)
    {fuel : Nat}
    (enough : characters.length ≤ fuel) :
    ReadsAs (readValue? fuel) value characters := by
  induction written generalizing fuel with
  | text text =>
      refine ⟨⟨'"', _, rfl, .quote⟩, fun later => ?_⟩
      have taken := Quoted.take?_escaped text later
      cases fuel <;>
        simp [Quoted.enclosed, readValue?, readScalar?, taken, ofText]
  | array leadSpaces tailSpaces _ inductionHypothesis =>
      refine ⟨⟨'[', _, rfl, .array⟩, fun later => ?_⟩
      obtain ⟨fuel, rfl, parts, each⟩ := exists_fuel_of_bracketed enough
      have readAll := fun item member =>
        inductionHypothesis item member
          (each item.2 (List.mem_map_of_mem member))
      have list :=
        readList?_bracketed .array leadSpaces tailSpaces readAll
          (by simpa using parts) later
      rw [bracketed_append, readValue?, list]
      rfl
  | @object lead tail gap fields leadSpaces tailSpaces gapSpaces _
      inductionHypothesis =>
      refine ⟨⟨'\x7b', _, rfl, .object⟩, fun later => ?_⟩
      obtain ⟨fuel, rfl, parts, each⟩ := exists_fuel_of_bracketed enough
      have readAll :
          ∀ part ∈ fields.map fun field =>
              ((Quoted.escaped field.1, field.2.1),
                fieldChars field.1 gap field.2.2),
            ReadsAs (readField? (readValue? fuel)) part.1 part.2 := by
        intro part member
        obtain ⟨field, inFields, rfl⟩ := List.mem_map.mp member
        have within := each _ (List.mem_map_of_mem inFields)
        refine readField?_fieldChars field.1 gapSpaces
          (inductionHypothesis field inFields ?_)
        simp only [fieldChars, List.length_append, List.length_cons] at within
        omega
      have list :=
        readList?_bracketed .object leadSpaces tailSpaces readAll
          (by simpa using parts) later
      simp only [List.map_map, Function.comp_def] at list
      rw [bracketed_append, readValue?, list]
      simp [ofFields]

/-- What is written for a value is read as it, also with spaces behind. -/
theorem Written.read?_append
    {value : Json}
    {characters : List Char}
    (written : Written value characters)
    (tailSpaces : AllSpace tail) :
    read? (String.ofList (characters ++ tail)) = some value := by
  have enough : characters.length ≤ (characters ++ tail).length := by
    rw [List.length_append]
    exact Nat.le_add_right _ _
  have readsAs := written.readsAs enough
  obtain ⟨first, rest, shape, opening⟩ := readsAs.opens
  have begun : skipSpace (characters ++ tail) = characters ++ tail := by
    rw [shape, List.cons_append, skipSpace_cons opening.isSpace_eq_false]
  have ended : skipSpace tail = [] := by
    have alone := skipSpace_append tailSpaces []
    rwa [List.append_nil] at alone
  simp only [read?, String.toList_ofList, begun, readsAs.reads tail, ended,
    List.isEmpty_nil, ↓reduceIte]

/-- What is written for a value is the text of that value. -/
theorem Written.read?_eq
    {value : Json}
    {characters : List Char}
    (written : Written value characters) :
    read? (String.ofList characters) = some value := by
  have noSpaces : AllSpace [] := by
    simp [AllSpace]
  simpa using written.read?_append noSpaces

/-- A value that is made up of texts, arrays and objects. -/
inductive Textual : Json → Prop where
  | text (text : String) : Textual (.ofText text)
  | array
      {items : List Json} :
      (∀ item ∈ items, Textual item) →
      Textual (.array items)
  | object
      {fields : List (String × Json)} :
      (∀ field ∈ fields, Textual field.2) →
      Textual (.ofFields fields)

/-- Compact items are written each on its own. -/
theorem compactItems_eq (items : List Json) :
    compactItems items = items.map compact := by
  induction items with
  | nil => rw [compactItems, List.map_nil]
  | cons item rest inductionHypothesis =>
      rw [compactItems, inductionHypothesis, List.map_cons]

/-- Compact fields are written each on its own. -/
theorem compactFields_eq (fields : List (String × Json)) :
    compactFields
        (fields.map fun (name, value) => (Quoted.escaped name, value)) =
      fields.map fun field => fieldChars field.1 [] field.2.compact := by
  induction fields with
  | nil => rw [List.map_nil, compactFields, List.map_nil]
  | cons field rest inductionHypothesis =>
      rw [List.map_cons, compactFields, inductionHypothesis]
      rfl

/-- Indented items are written each on its own. -/
theorem indentedItems_eq (level : Nat) (items : List Json) :
    indentedItems level items = items.map (indented level) := by
  induction items with
  | nil => rw [indentedItems, List.map_nil]
  | cons item rest inductionHypothesis =>
      rw [indentedItems, inductionHypothesis, List.map_cons]

/-- Indented fields are written each on its own. -/
theorem indentedFields_eq (level : Nat) (fields : List (String × Json)) :
    indentedFields level
        (fields.map fun (name, value) => (Quoted.escaped name, value)) =
      fields.map fun field =>
        fieldChars field.1 [' '] (field.2.indented level) := by
  induction fields with
  | nil => rw [List.map_nil, indentedFields, List.map_nil]
  | cons field rest inductionHypothesis =>
      rw [List.map_cons, indentedFields, inductionHypothesis]
      rfl

/-- No characters at all are space. -/
theorem allSpace_nil : AllSpace [] := by
  simp [AllSpace]

/-- A line break with its indentation is space. -/
theorem allSpace_lineBreak (level : Nat) : AllSpace (lineBreak level) := by
  intro character member
  rcases List.mem_cons.mp member with rfl | blank
  · rfl
  · rw [List.eq_of_mem_replicate blank]
    rfl

/-- Texts on lines of their own are texts with spaces around them. -/
theorem exists_bracketed_of_block
    (level : Nat)
    (opening closing : Char)
    (texts : List (List Char)) :
    ∃ lead tail,
      AllSpace lead ∧ AllSpace tail ∧
        block level opening closing texts =
          bracketed opening closing lead tail texts := by
  cases texts with
  | nil => exact ⟨[], [], allSpace_nil, allSpace_nil, rfl⟩
  | cons text others =>
      refine ⟨_, _, allSpace_lineBreak (level + 1),
        allSpace_lineBreak level, ?_⟩
      simp [block, bracketed]

namespace Written

variable {spelled : Json → List Char}

/-- An array is written if each of its items is. -/
theorem ofItems
    {items : List Json}
    (leadSpaces : AllSpace lead)
    (tailSpaces : AllSpace tail)
    (each : ∀ item ∈ items, Written item (spelled item)) :
    Written (.array items)
      (bracketed '[' ']' lead tail (items.map spelled)) := by
  have pairs :
      ∀ pair ∈ items.map fun item => (item, spelled item),
        Written pair.1 pair.2 := by
    intro pair member
    obtain ⟨item, inItems, rfl⟩ := List.mem_map.mp member
    exact each item inItems
  simpa [Function.comp_def] using Written.array leadSpaces tailSpaces pairs

/-- An object is written if the value of each of its fields is. -/
theorem ofNamed
    {fields : List (String × Json)}
    (leadSpaces : AllSpace lead)
    (tailSpaces : AllSpace tail)
    (gapSpaces : AllSpace gap)
    (each : ∀ field ∈ fields, Written field.2 (spelled field.2)) :
    Written (.ofFields fields)
      (bracketed '\x7b' '\x7d' lead tail
        (fields.map fun field =>
          fieldChars field.1 gap (spelled field.2))) := by
  have triples :
      ∀ triple ∈ fields.map fun field =>
          (field.1, field.2, spelled field.2),
        Written triple.2.1 triple.2.2 := by
    intro triple member
    obtain ⟨field, inFields, rfl⟩ := List.mem_map.mp member
    exact each field inFields
  simpa [Function.comp_def] using
    Written.object leadSpaces tailSpaces gapSpaces triples

end Written

/-- The compact text of a value is written for it. -/
theorem Textual.written_compact
    {value : Json}
    (textual : value.Textual) :
    Written value value.compact := by
  induction textual with
  | text text =>
      rw [ofText, compact]
      exact .text text
  | @array items _ inductionHypothesis =>
      have written := Written.ofItems allSpace_nil allSpace_nil
        inductionHypothesis
      rw [compact, compactItems_eq]
      simpa [bracketed] using written
  | @object fields _ inductionHypothesis =>
      have written := Written.ofNamed allSpace_nil allSpace_nil allSpace_nil
        inductionHypothesis
      rw [ofFields, compact, compactFields_eq]
      simpa [bracketed, ofFields] using written

/-- The indented text of a value is written for it. -/
theorem Textual.written_indented
    {value : Json}
    (textual : value.Textual)
    (level : Nat) :
    Written value (value.indented level) := by
  induction textual generalizing level with
  | text text =>
      rw [ofText, indented, compact]
      exact .text text
  | @array items _ inductionHypothesis =>
      obtain ⟨lead, tail, leadSpaces, tailSpaces, shape⟩ :=
        exists_bracketed_of_block level '[' ']'
          (items.map (indented (level + 1)))
      rw [indented, indentedItems_eq, shape]
      exact .ofItems leadSpaces tailSpaces fun item member =>
        inductionHypothesis item member (level + 1)
  | @object fields _ inductionHypothesis =>
      obtain ⟨lead, tail, leadSpaces, tailSpaces, shape⟩ :=
        exists_bracketed_of_block level '\x7b' '\x7d'
          (fields.map fun field =>
            fieldChars field.1 [' '] (field.2.indented (level + 1)))
      have gapSpaces : AllSpace [' '] := by
        simp [AllSpace, isSpace]
      rw [ofFields, indented, indentedFields_eq, shape]
      exact .ofNamed leadSpaces tailSpaces gapSpaces fun field member =>
        inductionHypothesis field member (level + 1)

namespace Textual

variable {value : Json}

/-- A value of texts is read back from its compact text. -/
theorem read?_text (textual : value.Textual) : read? value.text = some value :=
  textual.written_compact.read?_eq

/-- A value of texts is read back from its indented text. -/
theorem read?_indentedText (textual : value.Textual) :
    read? value.indentedText = some value :=
  (textual.written_indented 0).read?_eq

/-- A value of texts is read back from its indented text with a line break. -/
theorem read?_indentedText_append (textual : value.Textual) :
    read? (value.indentedText ++ "\n") = some value := by
  have lineBreak : AllSpace ['\n'] := by
    simp [AllSpace, isSpace]
  have shape :
      value.indentedText ++ "\n" =
        String.ofList (value.indented 0 ++ ['\n']) := by
    simp [indentedText, String.ofList_append]
  rw [shape]
  exact (textual.written_indented 0).read?_append lineBreak

end Textual

end LengthCalc.Json
