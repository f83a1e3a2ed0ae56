import LengthCalc.Proofs.ParserCalls
import Mathlib.Data.List.Chain

namespace LengthCalc.Parser

/-!
# A parser that is used again

A parser may be asked for one expression after the other, whatever the earlier
readings have come to.  It only moves forward in its tokens, and the brackets
that it counts as open are among those that it has taken, also after a failure,
where the count is not put back.
-/

/-- The brackets that are open and those that may still be opened. -/
def load (parser : Parser) : Nat :=
  parser.depth + parser.rest.count .openBracket

namespace Call

/-- The load of a call; a group has its bracket taken but not yet counted. -/
def load : Call → Nat
  | .group parser => parser.load + 1
  | call => call.parser.load

@[simp] theorem load_chain
    (place : ChainPlace)
    (parsed : Option Expression)
    (parser : Parser) :
    (chain place parsed parser).load = parser.load :=
  rfl

@[simp] theorem load_term (parser : Parser) :
    (term parser).load = parser.load :=
  rfl

@[simp] theorem load_group (parser : Parser) :
    (group parser).load = parser.load + 1 :=
  rfl

end Call

namespace Event

/-- The load at an event. -/
def load : Event → Nat
  | .enter call => call.load
  | .leave call => call.reply.parser.load

@[simp] theorem load_enter (call : Call) : (enter call).load = call.load :=
  rfl

/-- From one event to a later one no token comes back and no load is added. -/
structure Leads (earlier later : Event) : Prop where
  rest : later.parser.rest <:+ earlier.parser.rest
  load : later.load ≤ earlier.load

namespace Leads

/-- Every event leads to itself. -/
@[refl] theorem refl (event : Event) : Leads event event where
  rest := List.suffix_rfl
  load := Nat.le_refl _

/-- What an event leads to may lead on. -/
theorem trans
    {first second third : Event}
    (before : Leads first second)
    (after : Leads second third) :
    Leads first third where
  rest := after.rest.trans before.rest
  load := Nat.le_trans after.load before.load

instance : Trans Leads Leads Leads :=
  ⟨trans⟩

end Leads

/-- Calls that take place one after the other between two events. -/
def Linked (start : Event) : List Call → (stop : Event) → Prop
  | [], stop => Leads start stop
  | call :: later, stop =>
      Leads start (.enter call) ∧ Linked (.leave call) later stop

/-- The load at an event is at least that of the parser. -/
theorem load_parser_le (event : Event) : event.parser.load ≤ event.load := by
  cases event with
  | leave call => exact Nat.le_refl _
  | enter call =>
      cases call with
      | group parser => exact Nat.le_succ _
      | _ => exact Nat.le_refl _

namespace Leads

variable {earlier later : Event}

/-- No load is added where no bracket is counted. -/
theorem of_depth_le
    (rest : later.parser.rest <:+ earlier.parser.rest)
    (depth : later.parser.depth ≤ earlier.parser.depth)
    (counted : later.load = later.parser.load) :
    Leads earlier later where
  rest := rest
  load := by
    have fewer := rest.sublist.count_le .openBracket
    have bound := earlier.load_parser_le
    rw [counted]
    unfold Parser.load at bound ⊢
    omega

/-- Where the parser is as another call has left it, the load is the same. -/
theorem of_reply
    {inner : Call}
    (same : later.parser = inner.reply.parser)
    (counted : later.load = later.parser.load) :
    Leads (.leave inner) later where
  rest := by
    rw [same]
    exact List.suffix_rfl
  load := by
    rw [counted, same]
    exact Nat.le_refl _

end Leads

end Event

open Event

/-- Reading a measurement leaves the end of the tokens, at the same depth. -/
theorem measurement_leaves (amount : Decimal) (parser : Parser) :
    (measurement amount parser).parser.rest <:+ parser.rest ∧
      (measurement amount parser).parser.depth = parser.depth := by
  unfold measurement
  split <;> simp_all

/-- Closing a group leaves the end of the tokens, at the same depth. -/
theorem close_leaves (inner : Expression) (parser : Parser) :
    (close inner parser).parser.rest <:+ parser.rest ∧
      (close inner parser).parser.depth = parser.depth := by
  unfold close
  split <;> simp_all

/-- Calls that are linked lead from event to event. -/
theorem Event.Linked.isChain
    {start stop : Event}
    {made : List Call}
    (linked : Linked start made stop)
    (each : ∀ call ∈ made, call.events.IsChain Leads) :
    (start :: (made.flatMap Call.events ++ [stop])).IsChain Leads := by
  induction made generalizing start with
  | nil =>
      have leads : Leads start stop := linked
      simpa using leads
  | cons call later inductionHypothesis =>
      obtain ⟨begins, goesOn⟩ := linked
      have behind := inductionHypothesis goesOn fun inner member =>
        each inner (List.mem_cons_of_mem call member)
      have ofCall := each call List.mem_cons_self
      rw [Call.events_eq] at ofCall
      have shape :
          start :: ((call :: later).flatMap Call.events ++ [stop]) =
            (start :: .enter call :: call.calls.flatMap Call.events) ++
              .leave call :: (later.flatMap Call.events ++ [stop]) := by
        simp [call.events_eq]
      rw [shape, List.isChain_split]
      exact ⟨List.isChain_cons_cons.mpr ⟨begins, ofCall⟩, behind⟩

namespace Call

/-- The calls that a call makes take place between its two events. -/
theorem Does.linked
    {call : Call}
    {made : List Call}
    {given : Reply}
    (does : Does call made given)
    {stop : Event}
    (stops : stop.parser = given.parser)
    (counted : stop.load = stop.parser.load) :
    Linked (.enter call) made stop := by
  cases does with
  | chainEnds | misplaced | termMissing | notTerm =>
      refine .of_depth_le ?_ ?_ counted <;> simp [stops]
  | operator | number =>
      refine ⟨.of_depth_le ?_ ?_ rfl, .of_reply stops counted⟩ <;> simp
  | termRefused parsed expected opens read =>
      refine ⟨.of_depth_le ?_ ?_ rfl, .of_reply ?_ counted⟩
      · simp
      · simp
      · rw [stops, reply, read]
  | termJoined parsed expected opens read =>
      refine ⟨.of_depth_le ?_ ?_ rfl, .of_depth_le ?_ ?_ rfl,
        .of_reply stops counted⟩ <;>
        simp [reply, read]
  | openBracket later depth =>
      refine ⟨⟨by simp, ?_⟩, .of_reply stops counted⟩
      simp [Parser.load, Nat.add_assoc]
  | measurement amount parser =>
      obtain ⟨rest, depth⟩ := measurement_leaves amount parser
      exact .of_depth_le (stops ▸ rest) (stops ▸ Nat.le_of_eq depth) counted
  | tooDeep rest depth =>
      refine ⟨by simp [stops], ?_⟩
      rw [counted, stops]
      simp [Parser.load, Nat.add_right_comm]
  | contentRefused read =>
      refine ⟨⟨by simp, ?_⟩, .of_reply ?_ counted⟩
      · simp [Parser.load, Nat.add_right_comm]
      · rw [stops, reply, read]
  | contentRead read =>
      refine ⟨⟨by simp, ?_⟩, .of_depth_le ?_ ?_ rfl, .of_reply stops counted⟩
      · simp [Parser.load, Nat.add_right_comm]
      · simp [reply, read]
      · simp [reply, read]
  | close inner parser =>
      obtain ⟨rest, depth⟩ := close_leaves inner parser
      exact .of_depth_le (stops ▸ rest) (stops ▸ Nat.le_of_eq depth) counted

/-- During a call, one event leads to the next. -/
theorem isChain_events (call : Call) : call.events.IsChain Leads := by
  induction call using calls_induction with
  | step call inductionHypothesis =>
      have linked : Linked (.enter call) call.calls (.leave call) :=
        call.does.linked rfl rfl
      rw [events_eq]
      exact linked.isChain inductionHypothesis

end Call

/-- The readings of a parser are linked up to where they leave it. -/
theorem linked_readings
    (parser : Parser)
    (readings : Nat)
    {start : Event}
    (begins : Leads start (.enter parser.readingCall)) :
    Linked start (parser.readingCalls readings)
      (.enter (parser.after readings).readingCall) := by
  induction readings generalizing parser start with
  | zero => exact begins
  | succ readings inductionHypothesis =>
      exact ⟨begins, inductionHypothesis _
        (.of_reply parser.parse_leaves rfl)⟩

/-- Over all readings, every event leads to every later one. -/
theorem pairwise_eventsOfReadings (parser : Parser) (readings : Nat) :
    (Event.enter parser.readingCall ::
        parser.eventsOfReadings readings).Pairwise Leads := by
  have linked := parser.linked_readings readings (.refl _)
  have steps := linked.isChain fun call _ => call.isChain_events
  rw [List.isChain_iff_pairwise, ← List.cons_append] at steps
  exact (List.pairwise_append.mp steps).1

/-- How many of some tokens a parser has taken. -/
def position (tokens : List Token) (parser : Parser) : Nat :=
  tokens.length - parser.rest.length

/--
A parser that stands in some tokens: those behind its position are left, and no
more brackets count as open than were opened in front of it.
-/
structure StandsIn (tokens : List Token) (parser : Parser) : Prop where
  position_le : position tokens parser ≤ tokens.length
  rest : parser.rest = tokens.drop (position tokens parser)
  depth_le :
    parser.depth ≤ (tokens.take (position tokens parser)).count .openBracket

/-- Every parser of a reading stands in the tokens it began with. -/
theorem standsIn_of_leads
    {tokens : List Token}
    {event : Event}
    (leads : Leads (.enter (ofTokens tokens).readingCall) event) :
    StandsIn tokens event.parser := by
  have suffix : event.parser.rest <:+ tokens := leads.rest
  have rest : event.parser.rest = tokens.drop (position tokens event.parser) :=
    List.suffix_iff_eq_drop.mp suffix
  refine ⟨Nat.sub_le _ _, rest, ?_⟩
  have load := Nat.le_trans event.load_parser_le leads.load
  have split :
      tokens.count .openBracket =
        (tokens.take (position tokens event.parser)).count .openBracket +
          event.parser.rest.count .openBracket := by
    rw [rest, ← List.count_append, List.take_append_drop]
  have start :
      (Event.enter (ofTokens tokens).readingCall).load =
        0 + tokens.count .openBracket :=
    rfl
  rw [start, Parser.load] at load
  omega

/-- A reading never goes back. -/
theorem position_le_of_leads
    {tokens : List Token}
    {earlier later : Event}
    (leads : Leads earlier later) :
    position tokens earlier.parser ≤ position tokens later.parser :=
  Nat.sub_le_sub_left leads.rest.length_le _

/-- A complete reading that succeeds takes all tokens and keeps the depth. -/
theorem parse_ok_leaves
    {parser : Parser}
    {expression : Expression}
    (accepted : parser.parse.outcome = .ok expression) :
    parser.parse.parser = ⟨[], parser.depth⟩ := by
  unfold parse at accepted ⊢
  rcases read : chain .start none parser with ⟨fault | result, rest, depth⟩
  · simp [read] at accepted
  · obtain ⟨taken, took, -, -⟩ := chain_sound parser .start read
    have kept := took.depth
    cases rest with
    | nil => simpa [read] using kept
    | cons token later => simp [read] at accepted

/-- Each reading begins where the one before it has left the parser. -/
theorem parse_of_parseRepeatedly
    {parser : Parser}
    {times earlier : Nat}
    {outcome : Except SyntaxFault Expression}
    (found : (parser.parseRepeatedly times)[earlier]? = some outcome) :
    (parser.after earlier).parse.outcome = outcome ∧
      parser.after (earlier + 1) = (parser.after earlier).parse.parser := by
  induction times generalizing parser earlier with
  | zero => cases found
  | succ times inductionHypothesis =>
      cases earlier with
      | zero => exact ⟨Option.some.inj found, rfl⟩
      | succ earlier =>
          exact @inductionHypothesis parser.parse.parser earlier found

mutual

/-- A term has a number with its unit. -/
theorem exists_measurement_of_termForm
    {tokens : List Token}
    {expression : Expression}
    (form : TermForm tokens expression) :
    ∃ amount unit, [.number amount, .unit unit] <:+: tokens := by
  match form with
  | .measurement amount unit => exact ⟨amount, unit, List.infix_rfl⟩
  | @TermForm.group content inner chain =>
      obtain ⟨amount, unit, within⟩ := exists_measurement_of_chainForm chain
      exact ⟨amount, unit,
        List.infix_cons (within.trans (List.prefix_append _ _).isInfix)⟩

/-- The tokens of a chain have a number with its unit among them. -/
theorem exists_measurement_of_chainForm
    {tokens : List Token}
    {expression : Expression}
    (form : ChainForm tokens expression) :
    ∃ amount unit, [.number amount, .unit unit] <:+: tokens := by
  match form with
  | .term single => exact exists_measurement_of_termForm single
  | .operation operator chain last =>
      obtain ⟨amount, unit, within⟩ := exists_measurement_of_chainForm chain
      exact ⟨amount, unit, within.trans (List.prefix_append _ _).isInfix⟩

end

/--
However often a parser is asked for an expression, and whatever its readings
come to:

* it never goes back in its tokens, and the brackets that it counts as open are
  among those in front of its position;
* where the content of a group was read, a bracket is counted as open, so that
  one can be taken off;
* a chain that is read has at least one number with its unit, and leaves the
  depth as it was;
* a reading that succeeds ends behind the last token, with the depth that it
  began with.
-/
theorem reuse_consistent (tokens : List Token) (times : Nat) :
    ((ofTokens tokens).eventsOfReadings times).Pairwise
        (fun earlier later =>
          position tokens earlier.parser ≤ position tokens later.parser) ∧
      (∀ event ∈ (ofTokens tokens).eventsOfReadings times,
        StandsIn tokens event.parser) ∧
      (∀ (parser : Parser) inner next,
        chain .start none { parser with depth := parser.depth + 1 } =
            ⟨.ok inner, next⟩ →
        0 < next.depth) ∧
      (∀ (parser : Parser) expression next,
        chain .start none parser = ⟨.ok expression, next⟩ →
        next.depth = parser.depth ∧
          ∃ taken,
            parser.rest = taken ++ next.rest ∧
              ∃ amount unit, [.number amount, .unit unit] <:+: taken) ∧
      ∀ earlier expression,
        ((ofTokens tokens).parseRepeatedly times)[earlier]? =
            some (.ok expression) →
        (ofTokens tokens).after (earlier + 1) =
          ⟨[], ((ofTokens tokens).after earlier).depth⟩ := by
  obtain ⟨begins, leads⟩ :=
    List.pairwise_cons.mp ((ofTokens tokens).pairwise_eventsOfReadings times)
  refine ⟨leads.imp position_le_of_leads, ?_, ?_, ?_, ?_⟩
  · exact fun event member => standsIn_of_leads (begins event member)
  · intro parser inner next read
    obtain ⟨taken, took, -, -⟩ := chain_sound _ .start read
    rw [took.depth]
    exact Nat.succ_pos parser.depth
  · intro parser expression next read
    obtain ⟨taken, took, form, -⟩ := chain_sound parser .start read
    exact ⟨took.depth, taken, took.rest, exists_measurement_of_chainForm form⟩
  · intro earlier expression found
    obtain ⟨accepted, leaves⟩ := parse_of_parseRepeatedly found
    rw [leaves, parse_ok_leaves accepted]

end LengthCalc.Parser
