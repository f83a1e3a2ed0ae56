import LengthCalc.CommandLine.Run
import LengthCalc.Proofs.SessionLines
import LengthCalc.Proofs.SignedLeaves

namespace LengthCalc.Repl

/-!
# Whole sessions

What a session writes is told without its memory: all calculations that were
shown are known, and a list shows the newest of them.  The memory of a session
holds just these, which is what every line preserves.
-/

/-- A line that ends the session. -/
def Quits (line : String) : Prop :=
  ∃ name argument,
    IsCommand (trim line) name argument ∧ (name = "quit" ∨ name = "q")

/-- The target of a session and all calculations it has shown, newest first. -/
structure Past where
  target : LengthUnit
  shown : List String

/-- The lines that list the newest calculations, as many as are kept. -/
def Past.listing (past : Past) (limit : Nat) : List String :=
  (past.shown.take limit).mapIdx fun index text =>
    alignRight 3 (index + 1).repr ++ "  " ++ text

/-- What is written for a line, and the past behind it. -/
inductive Answer (calculator : Calculator) (limit : Nat) :
    Past → String → Past → List String → Prop where
  | blank
      {past : Past}
      {line : String} :
      trim line = "" →
      Answer calculator limit past line past []
  | calculated
      {past : Past}
      {line pretty result : String} :
      IsCalculation (trim line) →
      calculator.prettyReport (trim line) = .ok (pretty ++ "\n") →
      calculator.valueReport (trim line) past.target.code false =
        .ok (result ++ "\n") →
      Answer calculator limit past line
        { past with shown := (pretty ++ " = " ++ result) :: past.shown }
        [pretty ++ " = " ++ result]
  | refused
      {past : Past}
      {line : String}
      {failure : Failure} :
      IsCalculation (trim line) →
      calculator.valueReport (trim line) past.target.code false =
        .error failure →
      (∀ name, failure ≠ .conversion name) →
      Answer calculator limit past line past
        ["error: " ++ failure.message]
  | target
      {past : Past}
      {line code : String}
      {unit : LengthUnit} :
      IsCommand (trim line) "to" code →
      LengthUnit.ofCode? code = some unit →
      Answer calculator limit past line
        { past with target := unit }
        ["target unit: " ++ unit.code]
  | noTarget
      {past : Past}
      {line code : String} :
      IsCommand (trim line) "to" code →
      LengthUnit.ofCode? code = none →
      Answer calculator limit past line past
        ["error: " ++ (Failure.conversion code).message]
  | listed
      {past : Past}
      {line argument : String} :
      IsCommand (trim line) "history" argument →
      Answer calculator limit past line past (past.listing limit)
  | unknown
      {past : Past}
      {line name argument : String} :
      IsCommand (trim line) name argument →
      name ∉ ["quit", "q", "history", "to"] →
      Answer calculator limit past line past
        ["error: unknown command ':" ++ name ++ "'"]

/--
What is written for the lines of a session; nothing counts behind a line that
ends it.
-/
inductive Session (calculator : Calculator) (limit : Nat) :
    Past → List (Option String) → List String → Prop where
  | done
      {past : Past} :
      Session calculator limit past [] []
  | quit
      {past : Past}
      {line : String}
      (later : List (Option String)) :
      Quits line →
      Session calculator limit past (some line :: later) []
  | line
      {past next : Past}
      {line : String}
      {later : List (Option String)}
      {written rest : List String} :
      Answer calculator limit past line next written →
      Session calculator limit next later rest →
      Session calculator limit past (some line :: later) (written ++ rest)

/-- The memory of a session holds the newest calculations of its past. -/
structure Remembers
    (calculator : Calculator)
    (limit : Nat)
    (past : Past)
    (session : Repl) : Prop where
  target : session.target = past.target
  bound : session.history.limit = limit
  shown :
    session.history.entries.map (calculationLine calculator) =
      past.shown.take limit

section Run

variable {calculator : Calculator}
variable {limit : Nat}
variable {past next : Past}
variable {session : Repl}
variable {line : String}

namespace Remembers

/-- A session begins with its target and nothing to remember. -/
theorem start (target : LengthUnit) :
    Remembers calculator limit ⟨target, []⟩ (.start target limit) where
  target := rfl
  bound := rfl
  shown := by
    simp [Repl.start, History.empty]

/-- What is listed are the newest calculations. -/
theorem historyLines
    (remembers : Remembers calculator limit past session) :
    historyLines calculator session.history = past.listing limit := by
  rw [Past.listing, ← remembers.shown, Repl.historyLines]
  apply List.ext_getElem
  · simp
  · intro index _ _
    simp

/-- One more calculation is kept, in front of the others. -/
theorem push
    (remembers : Remembers calculator limit past session)
    (found : Calculation) :
    Remembers calculator limit
      { past with shown := calculationLine calculator found :: past.shown }
      { session with history := session.history.push found } where
  target := remembers.target
  bound := remembers.bound
  shown := by
    simp only [History.entries_push, List.map_take, List.map_cons,
      remembers.shown, remembers.bound]
    cases limit with
    | zero =>
        rfl
    | succ fewer =>
        simp [List.take_take]

end Remembers

/-- A session answers a line as its past says, and remembers the new past. -/
theorem step_of_answer
    {written : List String}
    (answer : Answer calculator limit past line next written)
    (remembers : Remembers calculator limit past session) :
    ∃ after,
      step calculator session (.ofLine line) = some (after, written) ∧
        Remembers calculator limit next after := by
  cases answer with
  | blank empty =>
      refine ⟨session, ?_, remembers⟩
      have request : Request.ofLine line = .blank := by
        simp [Request.ofLine, empty]
      rw [request]
      rfl
  | calculated expression pretty value =>
      obtain ⟨found, calculated, shown⟩ := calculation_of_reports pretty value
      rw [← shown]
      refine ⟨_, ?_, remembers.push found⟩
      rw [expression.ofLine]
      simp only [step, remembers.target, calculated]
  | refused expression value _ =>
      refine ⟨session, ?_, remembers⟩
      rw [expression.ofLine]
      simp only [step, remembers.target,
        calculation_of_valueReport_error value]
      rfl
  | @target code unit command found =>
      refine ⟨{ session with target := unit }, ?_, ?_⟩
      · rw [command.ofLine]
        simp [Request.ofCommand, step, LengthUnit.ofCode, found]
      · exact { remembers with target := rfl }
  | noTarget command missing =>
      refine ⟨session, ?_, remembers⟩
      rw [command.ofLine]
      simp [Request.ofCommand, step, LengthUnit.ofCode, missing, failureLine]
  | listed command =>
      refine ⟨session, ?_, remembers⟩
      rw [command.ofLine, ← remembers.historyLines]
      rfl
  | unknown command other =>
      refine ⟨session, ?_, remembers⟩
      simp only [List.mem_cons, List.not_mem_nil, or_false, not_or] at other
      rw [command.ofLine]
      simp [Request.ofCommand, step, other]

/-- A line that quits ends the session. -/
theorem step_of_quits
    (quits : Quits line)
    (session : Repl) :
    step calculator session (.ofLine line) = none := by
  obtain ⟨name, argument, command, name_quits⟩ := quits
  rw [command.ofLine, Request.ofCommand, if_pos name_quits]
  rfl

/-- A session writes what its past says. -/
theorem run_of_session
    {lines : List (Option String)}
    {output : List String}
    (told : Session calculator limit past lines output)
    (remembers : Remembers calculator limit past session) :
    run calculator session lines = ⟨output, true⟩ := by
  induction told generalizing session with
  | done =>
      rfl
  | quit later quits =>
      simp only [run, step_of_quits quits]
  | line answer _ inductionHypothesis =>
      obtain ⟨after, answered, remembersAfter⟩ :=
        step_of_answer answer remembers
      simp only [run, answered, inductionHypothesis remembersAfter]

/-- Every line that does not end the session is answered. -/
theorem exists_answer
    (calculator : Calculator)
    (limit : Nat)
    (past : Past)
    (line : String) :
    Quits line ∨
      ∃ next written, Answer calculator limit past line next written := by
  rcases text_cases (trim line) with
      empty | ⟨name, argument, command⟩ | expression
  · exact .inr ⟨_, _, .blank empty⟩
  · by_cases known : name ∈ ["quit", "q", "history", "to"]
    · simp only [List.mem_cons, List.not_mem_nil, or_false] at known
      rcases known with rfl | rfl | rfl | rfl
      · exact .inl ⟨_, _, command, .inl rfl⟩
      · exact .inl ⟨_, _, command, .inr rfl⟩
      · exact .inr ⟨_, _, .listed command⟩
      · cases found : LengthUnit.ofCode? argument with
        | none =>
            exact .inr ⟨_, _, .noTarget command found⟩
        | some unit =>
            exact .inr ⟨_, _, .target command found⟩
    · exact .inr ⟨_, _, .unknown command known⟩
  · cases calculated :
        calculation calculator past.target (trim line) with
    | error failure =>
        exact .inr ⟨_, _, .refused expression
          (valueReport_error_of_calculation calculated)
          (calculation_ne_conversion calculated)⟩
    | ok found =>
        obtain ⟨pretty, value⟩ := reports_of_calculation calculated
        exact .inr ⟨_, _, .calculated expression pretty value⟩

/-- Every list of lines that are texts makes a session. -/
theorem exists_session
    (calculator : Calculator)
    (limit : Nat)
    (past : Past)
    {lines : List (Option String)}
    (readable : none ∉ lines) :
    ∃ output, Session calculator limit past lines output := by
  induction lines generalizing past with
  | nil =>
      exact ⟨[], .done⟩
  | cons first later inductionHypothesis =>
      cases first with
      | none =>
          exact (readable (by simp)).elim
      | some line =>
          rcases exists_answer calculator limit past line with
              quits | ⟨next, written, answer⟩
          · exact ⟨[], .quit later quits⟩
          · obtain ⟨rest, told⟩ :=
              inductionHypothesis next fun member => readable (by simp [member])
            exact ⟨written ++ rest, .line answer told⟩

/-- There is one output for the lines of a session. -/
theorem session_unique
    {lines : List (Option String)}
    {one other : List String}
    (told : Session calculator limit past lines one)
    (toldOther : Session calculator limit past lines other)
    (remembers : Remembers calculator limit past session) :
    one = other := by
  have ran := run_of_session told remembers
  rw [run_of_session toldOther remembers] at ran
  cases ran
  rfl

end Run

/-- A session can ask room for its history and gets it. -/
def HasRoom (limit memory : Nat) : Prop :=
  limit ≤ Invocation.historyRoom ∧
    Invocation.calculationSize * limit ≤ memory

instance (limit memory : Nat) : Decidable (HasRoom limit memory) :=
  inferInstanceAs (Decidable (_ ∧ _))

/-- With room for its history a session writes its transcript. -/
theorem runRepl_of_hasRoom
    {limit memory : Nat}
    (room : HasRoom limit memory)
    {calculator : Calculator}
    {target : LengthUnit}
    {input : ByteArray}
    {output : List String}
    (ran :
      run calculator (.start target limit) (linesOf input) = ⟨output, true⟩) :
    Invocation.runRepl calculator target limit input memory =
      { written := unlines output } := by
  obtain ⟨countable, given⟩ := room
  simp only [Invocation.runRepl, ran, if_neg (Nat.not_lt.mpr countable),
    if_neg (Nat.not_lt.mpr given), ↓reduceIte]

/-- Without room for its history a session fails before its first line. -/
theorem runRepl_of_not_hasRoom
    {limit memory : Nat}
    (noRoom : ¬ HasRoom limit memory)
    (calculator : Calculator)
    (target : LengthUnit)
    (input : ByteArray) :
    ∃ code,
      code ≠ 0 ∧
        Invocation.runRepl calculator target limit input memory =
          { code := code } := by
  by_cases countable : limit ≤ Invocation.historyRoom
  · have refused : memory < Invocation.calculationSize * limit :=
      Nat.lt_of_not_le fun given => noRoom ⟨countable, given⟩
    refine ⟨Invocation.noMemoryCode, by decide, ?_⟩
    rw [Invocation.runRepl, if_neg (Nat.not_lt.mpr countable),
      if_pos refused]
  · refine ⟨Invocation.noRoomCode, by decide, ?_⟩
    rw [Invocation.runRepl, if_pos (Nat.lt_of_not_le countable)]

/--
A run of a session that gets room for its history writes what its lines tell:
there is one output for them, it is what the run writes, and it exists whenever
all lines are texts.  Lines behind one that ends the session may be anything.
A run that does not get this room fails and writes nothing, whatever its lines.
-/
theorem runRepl_session
    (calculator : Calculator)
    (target : LengthUnit)
    (limit memory : Nat)
    (input : ByteArray) :
    (HasRoom limit memory →
        ∀ output,
          Session calculator limit ⟨target, []⟩ (linesOf input) output →
          Invocation.runRepl calculator target limit input memory =
            { written := unlines output }) ∧
      (∀ one other,
        Session calculator limit ⟨target, []⟩ (linesOf input) one →
        Session calculator limit ⟨target, []⟩ (linesOf input) other →
        one = other) ∧
      (none ∉ linesOf input →
        ∃ output,
          Session calculator limit ⟨target, []⟩ (linesOf input) output) ∧
      (¬ HasRoom limit memory →
        ∃ code,
          code ≠ 0 ∧
            Invocation.runRepl calculator target limit input memory =
              { code := code }) := by
  refine ⟨?_, ?_, ?_, ?_⟩
  · intro room output told
    exact runRepl_of_hasRoom room (run_of_session told (.start target))
  · intro one other told toldOther
    exact session_unique told toldOther (.start target)
  · intro readable
    exact exists_session calculator limit ⟨target, []⟩ readable
  · intro noRoom
    exact runRepl_of_not_hasRoom noRoom calculator target input

/-- A line that is read and converted is answered with both texts. -/
theorem Answer.of_convert
    {calculator : Calculator}
    {limit : Nat}
    {past : Past}
    {line pretty value : String}
    {expression : Expression}
    {result : Measurement}
    (isCalculation : IsCalculation (trim line))
    (read : Expression.ofText (trim line) = .ok expression)
    (converted : expression.convert past.target = .ok result)
    (written : calculator.pretty expression = pretty)
    (valued : calculator.resultText result = value) :
    Answer calculator limit past line
      { past with shown := (pretty ++ " = " ++ value) :: past.shown }
      [pretty ++ " = " ++ value] := by
  have calculated :
      calculation calculator past.target (trim line) =
        .ok ⟨expression, result⟩ := by
    simp [calculation, Calculator.analyze, read, calculate_code, converted,
      Except.map]
  obtain ⟨ofPretty, ofResult⟩ := reports_of_calculation calculated
  rw [written] at ofPretty
  rw [valued] at ofResult
  exact .calculated isCalculation ofPretty ofResult

/-- A session that shows more calculations than are kept of it. -/
def forgetful : ByteArray :=
  ("1mm + 1mm\n \n1mm 2mm\n:to km\n:to cm\n" ++
    "1in\n1cm\n:history\n:back\n:q\n1mm\n").toUTF8

/-- What it writes if two calculations are kept. -/
def forgetfulLines : List String :=
  ["1mm + 1mm = 2mm",
    "error: Expected space, ')', '-' or '+' at pos 4: `1mm []2mm`",
    "error: " ++ (Failure.conversion "km").message,
    "target unit: cm",
    "1in = 2.54cm",
    "1cm = 1cm",
    "  1  1cm = 1cm",
    "  2  1in = 2.54cm",
    "error: unknown command ':back'"]

/-- One of a unit is read as a measurement. -/
theorem ofText_one (unit : LengthUnit) :
    Expression.ofText (trim ("1" ++ unit.code)) =
      .ok (.ofAmount .one unit) := by
  have scanned :
      tokenize (trim ("1" ++ unit.code)) = .ok [.number .one, .unit unit] := by
    cases unit <;> rfl
  have form : ChainForm _ (.ofAmount .one unit) :=
    .term (.measurement .one unit)
  exact (Expression.ofText_eq_ok_iff _ _).mpr
    ⟨_, scanned, form, Nat.zero_le _⟩

/-- The line with the sum is read and added up. -/
theorem answer_sum :
    Answer ⟨{}⟩ 2 ⟨.millimeter, []⟩ "1mm + 1mm"
      ⟨.millimeter, ["1mm + 1mm = 2mm"]⟩
      ["1mm + 1mm = 2mm"] := by
  have scanned :
      tokenize (trim "1mm + 1mm") =
        .ok [.number .one, .unit .millimeter, .plus,
          .number .one, .unit .millimeter] :=
    rfl
  have form :=
    ChainForm.operation .plus (.term (.measurement .one .millimeter))
      (.measurement .one .millimeter)
  have read :=
    (Expression.ofText_eq_ok_iff _ _).mpr ⟨_, scanned, form, by decide⟩
  have converted :
      (Operator.plus.join (.ofAmount .one .millimeter)
          (.ofAmount .one .millimeter)).convert .millimeter =
        .ok ⟨⟨2, 0, by decide, Decimal.zero_scale_le⟩, .millimeter⟩ := by
    rw [Expression.convert, Expression.convert?, Expression.totals?_eq]
    rfl
  exact @Answer.of_convert ⟨{}⟩ 2 ⟨.millimeter, []⟩ _ "1mm + 1mm" "2mm" _ _
    ⟨by decide, by decide⟩ read converted
    (by decide +kernel) (by decide +kernel)

/-- The forgetful session has the lines that the rules of a session give it. -/
theorem session_forgetful :
    Session ⟨{}⟩ 2 ⟨.millimeter, []⟩ (linesOf forgetful) forgetfulLines := by
  have lines :
      linesOf forgetful =
        [some "1mm + 1mm", some " ", some "1mm 2mm", some ":to km",
          some ":to cm", some "1in", some "1cm", some ":history",
          some ":back", some ":q", some "1mm"] := by
    decide +kernel
  -- The state is the target and what was shown, the newest first.
  have blank :
      Answer ⟨{}⟩ 2 ⟨.millimeter, ["1mm + 1mm = 2mm"]⟩ " "
        ⟨.millimeter, ["1mm + 1mm = 2mm"]⟩ [] :=
    .blank (by decide)
  have misplaced :
      Answer ⟨{}⟩ 2 ⟨.millimeter, ["1mm + 1mm = 2mm"]⟩ "1mm 2mm"
        ⟨.millimeter, ["1mm + 1mm = 2mm"]⟩
        ["error: Expected space, ')', '-' or '+' at pos 4: `1mm []2mm`"] :=
    @Answer.refused _ _ _ _ (.lexical "1mm 2mm" 4 (.misplaced .afterUnit))
      ⟨by decide, by decide⟩ rfl (by simp)
  have noTarget :
      Answer ⟨{}⟩ 2 ⟨.millimeter, ["1mm + 1mm = 2mm"]⟩ ":to km"
        ⟨.millimeter, ["1mm + 1mm = 2mm"]⟩
        ["error: " ++ (Failure.conversion "km").message] :=
    .noTarget (.of_split rfl (by decide) (by decide)) (by decide)
  have target :
      Answer ⟨{}⟩ 2 ⟨.millimeter, ["1mm + 1mm = 2mm"]⟩ ":to cm"
        ⟨.centimeter, ["1mm + 1mm = 2mm"]⟩
        ["target unit: cm"] :=
    @Answer.target _ _ _ _ "cm" .centimeter
      (.of_split rfl (by decide) (by decide)) (by decide)
  have inch :
      Answer ⟨{}⟩ 2 ⟨.centimeter, ["1mm + 1mm = 2mm"]⟩ "1in"
        ⟨.centimeter, ["1in = 2.54cm", "1mm + 1mm = 2mm"]⟩
        ["1in = 2.54cm"] := by
    have converted :
        (Expression.ofAmount .one .inch).convert .centimeter =
          .ok ⟨⟨254, 2, by decide, Decimal.two_scale_le⟩, .centimeter⟩ := by
      rw [Expression.convert, Expression.convert?, Expression.totals?_eq]
      rfl
    exact @Answer.of_convert ⟨{}⟩ 2 ⟨.centimeter, _⟩ _ "1in" "2.54cm" _ _
      ⟨by decide, by decide⟩ (ofText_one .inch) converted
      (by decide +kernel) (by decide +kernel)
  have centimeter :
      Answer ⟨{}⟩ 2 ⟨.centimeter, ["1in = 2.54cm", "1mm + 1mm = 2mm"]⟩ "1cm"
        ⟨.centimeter, ["1cm = 1cm", "1in = 2.54cm", "1mm + 1mm = 2mm"]⟩
        ["1cm = 1cm"] := by
    have converted :
        (Expression.ofAmount .one .centimeter).convert .centimeter =
          .ok ⟨.one, .centimeter⟩ := by
      rw [Expression.convert, Expression.convert?, Expression.totals?_eq]
      rfl
    exact @Answer.of_convert ⟨{}⟩ 2 ⟨.centimeter, _⟩ _ "1cm" "1cm" _ _
      ⟨by decide, by decide⟩ (ofText_one .centimeter) converted
      (by decide +kernel) (by decide +kernel)
  have listed :
      Answer ⟨{}⟩ 2
        ⟨.centimeter, ["1cm = 1cm", "1in = 2.54cm", "1mm + 1mm = 2mm"]⟩
        ":history"
        ⟨.centimeter, ["1cm = 1cm", "1in = 2.54cm", "1mm + 1mm = 2mm"]⟩
        ["  1  1cm = 1cm", "  2  1in = 2.54cm"] :=
    @Answer.listed _ _ _ _ "" (.of_split rfl (by decide) (by decide))
  have unknown :
      Answer ⟨{}⟩ 2
        ⟨.centimeter, ["1cm = 1cm", "1in = 2.54cm", "1mm + 1mm = 2mm"]⟩
        ":back"
        ⟨.centimeter, ["1cm = 1cm", "1in = 2.54cm", "1mm + 1mm = 2mm"]⟩
        ["error: unknown command ':back'"] :=
    @Answer.unknown _ _ _ _ "back" ""
      (.of_split rfl (by decide) (by decide)) (by decide)
  have quits : Quits ":q" :=
    ⟨"q", "", .of_split rfl (by decide) (by decide), .inr rfl⟩
  rw [lines]
  exact .line answer_sum <| .line blank <| .line misplaced <|
    .line noTarget <| .line target <| .line inch <| .line centimeter <|
    .line listed <| .line unknown <| .quit [some "1mm"] quits

/-- The memory of two calculations is enough for it, and no less is. -/
theorem runRepl_session_forgetful :
    Invocation.runRepl ⟨{}⟩ .millimeter 2 forgetful 96 =
        { written := unlines forgetfulLines } ∧
      ∃ code,
        code ≠ 0 ∧
          Invocation.runRepl ⟨{}⟩ .millimeter 2 forgetful 95 =
            { code := code } := by
  obtain ⟨written, -⟩ := runRepl_session ⟨{}⟩ .millimeter 2 96 forgetful
  obtain ⟨-, -, -, refused⟩ :=
    runRepl_session ⟨{}⟩ .millimeter 2 95 forgetful
  exact ⟨written (by decide) forgetfulLines session_forgetful,
    refused (by decide)⟩

/-- A session that asks for another target and then ends. -/
def retargeting : ByteArray :=
  ":to cm\n:q\n1mm\n".toUTF8

/-- The session without calculations has one line, for its new target. -/
theorem session_retargeting (calculator : Calculator) (limit : Nat) :
    Session calculator limit ⟨.millimeter, []⟩ (linesOf retargeting)
      ["target unit: cm"] := by
  have lines :
      linesOf retargeting = [some ":to cm", some ":q", some "1mm"] := by
    decide +kernel
  have target :
      Answer calculator limit ⟨.millimeter, []⟩ ":to cm" ⟨.centimeter, []⟩
        ["target unit: cm"] :=
    @Answer.target _ _ _ _ "cm" .centimeter
      (.of_split rfl (by decide) (by decide)) (by decide)
  have quits : Quits ":q" :=
    ⟨"q", "", .of_split rfl (by decide) (by decide), .inr rfl⟩
  rw [lines]
  exact .line target (.quit [some "1mm"] quits)

/--
A history that is larger than what can be asked for, or only larger than what
can be addressed, ends the same session before its first line.
-/
theorem runRepl_without_room :
    (∀ limit,
        Session ⟨{}⟩ limit ⟨.millimeter, []⟩ (linesOf retargeting)
          ["target unit: cm"]) ∧
      Invocation.runRepl ⟨{}⟩ .millimeter (10 ^ 18) retargeting =
        { code := Invocation.noRoomCode } ∧
      Invocation.runRepl ⟨{}⟩ .millimeter (10 ^ 13) retargeting =
        { code := Invocation.noMemoryCode } ∧
      Invocation.runRepl ⟨{}⟩ .millimeter (10 ^ 18) retargeting ≠
        { written := unlines ["target unit: cm"] } := by
  have noRoom :
      Invocation.runRepl ⟨{}⟩ .millimeter (10 ^ 18) retargeting =
        { code := Invocation.noRoomCode } := by
    rw [Invocation.runRepl, if_pos (by decide)]
  have noMemory :
      Invocation.runRepl ⟨{}⟩ .millimeter (10 ^ 13) retargeting =
        { code := Invocation.noMemoryCode } := by
    rw [Invocation.runRepl, if_neg (by decide), if_pos (by decide)]
  refine ⟨session_retargeting ⟨{}⟩, noRoom, noMemory, ?_⟩
  rw [noRoom]
  decide

end LengthCalc.Repl
