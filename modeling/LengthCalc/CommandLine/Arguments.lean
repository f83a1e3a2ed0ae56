namespace LengthCalc

/-!
# Arguments

How the words of a command line are understood.  Options may stand anywhere,
with their value in the same word or in the next one; the expression may begin
with a minus sign; after `--` every word is an operand.
-/

/-- What is asked for on a command line. -/
inductive Command where
  /-- The value of an expression, plainly or as JSON. -/
  | eval (expression : String) (target : Option String) (asJson : Bool)
  /-- The canonical text of an expression. -/
  | pretty (expression : String)
  /-- The tokens of an expression. -/
  | tokens (expression : String)
  /-- The table of the units. -/
  | units
  /-- A line session. -/
  | repl (target : Option String)
  deriving Repr, DecidableEq

/-- A command and the setting file that is asked for. -/
structure Invocation where
  config : Option String
  command : Command
  deriving Repr, DecidableEq

namespace Arguments

/-- Why a command line does not lead to a command. -/
inductive Ending where
  /-- Help is asked for. -/
  | help
  /-- The version is asked for. -/
  | version
  /-- The command line is not understood. -/
  | misuse
  deriving Repr, DecidableEq

/-- The options. -/
inductive Switch where
  | config
  | target
  | json
  | help
  | version
  deriving Repr, DecidableEq

/-- Whether an option has a value. -/
def Switch.takesValue : Switch → Bool
  | .config => true
  | .target => true
  | .json => false
  | .help => false
  | .version => false

/-- The options that a command knows and whether it has an operand. -/
structure Grammar where
  long : List (String × Switch)
  short : List (Char × Switch)
  hasOperand : Bool
  deriving Repr, DecidableEq

namespace Grammar

/-- What may stand before the name of the command. -/
def top : Grammar where
  long := [("config", .config), ("help", .help), ("version", .version)]
  short := [('h', .help), ('V', .version)]
  hasOperand := false

/-- The arguments of `eval`. -/
def eval : Grammar where
  long :=
    [("config", .config), ("to", .target), ("json", .json), ("help", .help)]
  short := [('t', .target), ('h', .help)]
  hasOperand := true

/-- The arguments of `pretty` and `tokens`. -/
def expression : Grammar where
  long := [("config", .config), ("help", .help)]
  short := [('h', .help)]
  hasOperand := true

/-- The arguments of `units`. -/
def plain : Grammar where
  long := [("config", .config), ("help", .help)]
  short := [('h', .help)]
  hasOperand := false

/-- The arguments of `repl`. -/
def session : Grammar where
  long := [("config", .config), ("to", .target), ("help", .help)]
  short := [('t', .target), ('h', .help)]
  hasOperand := false

/-- The grammar of the command with a name. -/
def ofName? : String → Option Grammar
  | "eval" => some eval
  | "pretty" => some expression
  | "tokens" => some expression
  | "units" => some plain
  | "repl" => some session
  | _ => none

end Grammar

/-- What has been read of the arguments of a command. -/
structure Collected where
  config : Option String := none
  target : Option String := none
  json : Bool := false
  operand : Option String := none
  /-- The option whose value has to come next. -/
  pending : Option Switch := none
  /-- A value in a word of its own; it is checked when the next option comes. -/
  late : Option (Switch × String) := none
  /-- Whether all further words are operands. -/
  onlyOperands : Bool := false
  deriving Repr, DecidableEq

namespace Collected

/-- Give an option its value; every option is given at most once. -/
def setValue
    (collected : Collected)
    (switch : Switch)
    (value : String) :
    Except Ending Collected :=
  match switch with
  | .config =>
      if collected.config.isSome || value.isEmpty then
        .error .misuse
      else
        .ok { collected with config := some value }
  | .target =>
      if collected.target.isSome then
        .error .misuse
      else
        .ok { collected with target := some value }
  | _ => .error .misuse

/-- Check the value that was given in a word of its own, if there is one. -/
def settle (collected : Collected) : Except Ending Collected :=
  match collected.late with
  | none => .ok collected
  | some (switch, value) => { collected with late := none }.setValue switch value

/-- Note an option without a value. -/
def setFlag
    (collected : Collected)
    (switch : Switch) :
    Except Ending Collected :=
  match switch with
  | .help => .error .help
  | .version => .error .version
  | .json =>
      if collected.json then
        .error .misuse
      else
        .ok { collected with json := true }
  | _ => .error .misuse

/-- Take a word as the operand. -/
def setOperand
    (grammar : Grammar)
    (collected : Collected)
    (word : String) :
    Except Ending Collected :=
  if collected.pending.isNone && grammar.hasOperand &&
      collected.operand.isNone then
    .ok { collected with operand := some word }
  else
    .error .misuse

/-- Take a word as the value that is due, or else as the operand. -/
def setWord
    (grammar : Grammar)
    (collected : Collected)
    (word : String) :
    Except Ending Collected :=
  match collected.pending with
  | some switch =>
      .ok { collected with late := some (switch, word), pending := none }
  | none => collected.setOperand grammar word

/-- Whether a word that is no option can be the operand. -/
def awaitsOperand (grammar : Grammar) (collected : Collected) : Bool :=
  grammar.hasOperand && collected.operand.isNone

/-- Be ready for one more option: the one before it has to be complete. -/
def beginOption (collected : Collected) : Except Ending Collected :=
  if collected.pending.isSome then .error .misuse else collected.settle

/-- Read the option of a long name, with the value in the same word. -/
def readLong
    (grammar : Grammar)
    (collected : Collected)
    (word : String)
    (name : String)
    (value : Option String) :
    Except Ending Collected :=
  match grammar.long.lookup name with
  | none =>
      if collected.awaitsOperand grammar then
        collected.setWord grammar word
      else
        .error .misuse
  | some switch =>
      match collected.beginOption with
      | .error ending => .error ending
      | .ok ready =>
          if switch.takesValue then
            match value with
            | some value => ready.setValue switch value
            | none => .ok { ready with pending := some switch }
          else if value.isSome then
            .error .misuse
          else
            ready.setFlag switch

/-- Read options of one letter each; the rest of the word may be a value. -/
def readLetters
    (grammar : Grammar)
    (collected : Collected) :
    List Char → Except Ending Collected
  | [] => .ok collected
  | letter :: rest =>
      match grammar.short.lookup letter with
      | none => .error .misuse
      | some switch =>
          match collected.beginOption with
          | .error ending => .error ending
          | .ok ready =>
              if switch.takesValue then
                match rest with
                | [] => .ok { ready with pending := some switch }
                | '=' :: value => ready.setValue switch (String.ofList value)
                | value => ready.setValue switch (String.ofList value)
              else
                match ready.setFlag switch with
                | .error ending => .error ending
                | .ok next => next.readLetters grammar rest

/-- Read one word. -/
def readWord
    (grammar : Grammar)
    (collected : Collected)
    (word : String) :
    Except Ending Collected :=
  if collected.onlyOperands then
    collected.setOperand grammar word
  else
    match word.toList with
    | ['-', '-'] => .ok { collected with onlyOperands := true }
    | '-' :: '-' :: rest =>
        let name := rest.takeWhile fun character => character != '='
        let value :=
          match rest.dropWhile fun character => character != '=' with
          | _ :: value => some (String.ofList value)
          | [] => none
        collected.readLong grammar word (String.ofList name) value
    | '-' :: letter :: rest =>
        let letters := letter :: rest
        if collected.awaitsOperand grammar &&
            letters.any fun letter =>
              (grammar.short.lookup letter).isNone then
          collected.setWord grammar word
        else
          collected.readLetters grammar letters
    | _ => collected.setWord grammar word

/-- Read all words of a command. -/
def readWords
    (grammar : Grammar)
    (collected : Collected)
    (words : List String) :
    Except Ending Collected :=
  match words.foldlM (readWord grammar) collected with
  | .error ending => .error ending
  | .ok all => all.beginOption

/-- The command with a name and its arguments, if nothing is missing. -/
def toCommand? (collected : Collected) (name : String) : Option Command :=
  match name, collected.operand with
  | "eval", some expression =>
      some (.eval expression collected.target collected.json)
  | "pretty", some expression => some (.pretty expression)
  | "tokens", some expression => some (.tokens expression)
  | "units", _ => some .units
  | "repl", _ => some (.repl collected.target)
  | _, _ => none

end Collected

/-- The answer to a request for help on the named commands. -/
def helpEnding : List String → Ending
  | [] => .help
  | [name] =>
      if name = "help" || (Grammar.ofName? name).isSome then .help else .misuse
  | _ => .misuse

/--
Read the name of a command and its arguments.  They come first; only then the
last value in front of the name is checked.
-/
def readCommand
    (collected : Collected)
    (grammar : Grammar)
    (name : String)
    (words : List String) :
    Except Ending Invocation :=
  match Collected.readWords grammar {} words with
  | .error ending => .error ending
  | .ok inner =>
      match inner.toCommand? name, collected.settle with
      | none, _ => .error .misuse
      | some _, .error ending => .error ending
      | some command, .ok outer =>
          .ok ⟨inner.config <|> outer.config, command⟩

/-- Read the words of a command line from where the command may be named. -/
def readFrom (collected : Collected) : List String → Except Ending Invocation
  | [] => .error .misuse
  | word :: rest =>
      let grammar? :=
        if collected.onlyOperands || collected.pending.isSome then
          none
        else
          Grammar.ofName? word
      match grammar? with
      | some grammar => readCommand collected grammar word rest
      | none =>
          if word = "help" && !collected.onlyOperands &&
              collected.pending.isNone then
            .error (helpEnding rest)
          else
            match collected.readWord .top word with
            | .error ending => .error ending
            | .ok next => readFrom next rest

end Arguments

/-- What the words of a command line ask for. -/
def Invocation.ofArguments
    (words : List String) :
    Except Arguments.Ending Invocation :=
  Arguments.readFrom {} words

end LengthCalc
