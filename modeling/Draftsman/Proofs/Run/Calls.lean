/-
Which tools a run calls.

What a run was given falls into turns: the model is asked, and tools may be called before
it is asked again.  A tool is called only because the reply of its turn uses it and it is
there, and then it is called once, by the name and with the input of that reply.

The calls can be told from the steps that a run has kept.  A step records a call if its
action is the name of a tool, and every call is recorded but one that was under way when
the run was called off, with which the run is over.
-/
import Draftsman.Proofs.Agent.Registry
import Draftsman.Proofs.Run.Heard

namespace Draftsman

/-! ### Turns -/

/-- What came of calling tools until the model is asked again. -/
def callsAhead : List Event → List (Response (Except ToolFault String))
  | .tool response :: rest => response :: callsAhead rest
  | _ => []

/-- What came of asking the model, and of calling tools before it was asked again. -/
structure Turn where
  answer : Response (Except Failure String)
  calls : List (Response (Except ToolFault String))

/-- The turns of a run, given everything that it was given. -/
def turns : List Event → List Turn
  | [] => []
  | .model answer :: rest => ⟨answer, callsAhead rest⟩ :: turns rest
  | .tool _ :: rest => turns rest

/-- The call that the reply of a turn asks for. -/
def Turn.call? (turn : Turn) : Option Invocation :=
  match turn.answer with
  | .returned (.ok reply) _ =>
    match Reply.decision reply with
    | .ok (.act _ tool input) => some (tool, input)
    | _ => none
  | _ => none

/-- The calls that began in a turn. -/
def Turn.invocations (turn : Turn) : List Invocation :=
  (turn.calls.filter Response.started).flatMap fun _ => turn.call?.toList

/-- The call that was under way in a turn when the run was called off. -/
def Turn.interrupted? (turn : Turn) : Option Invocation :=
  match turn.calls with
  | [.interrupted] => turn.call?
  | _ => none

/-- The call that was under way when the run was called off. -/
def interruptedCall? (events : List Event) : Option Invocation :=
  (turns events).getLast?.bind Turn.interrupted?

/-- The calls that are recorded in steps. -/
def recordedCalls (r : Registry) (steps : List Step) : List Invocation :=
  (steps.filter fun step => r.contains step.action).map fun step => (step.action, step.input)

/--
Whether a tool was called in a turn only as its reply asks for it: a turn without a reply,
and one whose reply cannot be read, concludes or uses a tool that is not there, has no
call, and no turn has two.
-/
def Turn.AsAsked (agent : Agent) (turn : Turn) : Prop :=
  turn.invocations = [] ∨
    ∃ reply cancelled thought tool input, turn.answer = .returned (.ok reply) cancelled ∧
      Reply.decision reply = .ok (.act thought tool input) ∧
      agent.registry.contains tool = true ∧ turn.invocations = [(tool, input)]

/-- What the calls of a run have to do with the replies, and with the steps that it kept. -/
structure CallsMatch (agent : Agent) (id : Uuid) (events : List Event) (run : Run) : Prop where
  /-- The calls are those of the turns, one turn after the other. -/
  turned : run.invocations = (turns events).flatMap Turn.invocations
  asked : ∀ turn ∈ turns events, turn.AsAsked agent
  /-- The calls are those that are recorded, and after them the one that was interrupted. -/
  recorded : run.invocations
    = recordedCalls agent.registry run.steps ++ (interruptedCall? events).toList
  /-- A run whose call was interrupted is over, and was called off. -/
  interrupted : (interruptedCall? events).isSome = true → run.stage = .failed (.cancelled id)

variable {agent : Agent} {id : Uuid} {task : String}

theorem callsAhead_append (before : List Event) {after : List Event}
    (asking : callsAhead after = []) : callsAhead (before ++ after) = callsAhead before := by
  induction before with
  | nil => exact asking
  | cons event rest ih =>
    cases event with
    | model response => rfl
    | tool response => exact congrArg (response :: ·) ih

/-- Turns follow one another where the model is asked. -/
theorem turns_append (before : List Event) {after : List Event} (asking : callsAhead after = []) :
    turns (before ++ after) = turns before ++ turns after := by
  induction before with
  | nil => rfl
  | cons event rest ih =>
    cases event with
    | model response =>
      simp only [List.cons_append, turns, callsAhead_append rest asking, ih]
    | tool response => exact ih

/-! ### Turns and rounds -/

/-- A round as a turn. -/
def Round.turn : Round agent → Turn
  | .silent cancelled => ⟨.timedOut cancelled, []⟩
  | .unread reply cancelled .. => ⟨.returned (.ok reply) cancelled, []⟩
  | .refused reply _ cancelled .. => ⟨.returned (.ok reply) cancelled, []⟩
  | .used reply _ result cancelled .. =>
    ⟨.returned (.ok reply) false, [responseOf result cancelled]⟩

theorem responseOf_started (result : Option (Except ToolFault String)) (cancelled : Bool) :
    (responseOf result cancelled).started = true := by
  cases result <;> rfl

theorem callsAhead_eventsOf (rounds : List (Round agent)) {rest : List Event}
    (asking : callsAhead rest = []) : callsAhead (eventsOf rounds ++ rest) = [] := by
  cases rounds with
  | nil => exact asking
  | cons round more =>
    rw [eventsOf_cons]
    cases round <;> rfl

/-- The turns of rounds are these rounds as turns. -/
theorem turns_eventsOf (rounds : List (Round agent)) {rest : List Event}
    (asking : callsAhead rest = []) :
    turns (eventsOf rounds ++ rest) = rounds.map Round.turn ++ turns rest := by
  induction rounds with
  | nil => rfl
  | cons round more ih =>
    have one : turns round.events = [round.turn] := by cases round <;> rfl
    rw [eventsOf_cons, List.append_assoc, turns_append _ (callsAhead_eventsOf more asking), one, ih]
    rfl

theorem Turn.call?_of_said {reply : String} {use : ToolUse} {cancelled : Bool}
    (said : Reply.decision reply = .ok use.decision)
    (calls : List (Response (Except ToolFault String))) :
    Turn.call? ⟨.returned (.ok reply) cancelled, calls⟩ = some (use.tool, use.input) := by
  simp only [Turn.call?, said, ToolUse.decision]

/-- The calls of a round are those that began in its turn. -/
theorem Round.turn_invocations (round : Round agent) :
    round.turn.invocations = round.invocations := by
  cases round with
  | silent cancelled => rfl
  | unread reply cancelled fault said => rfl
  | refused reply use cancelled said missing => rfl
  | used reply use result cancelled said found =>
    simp [Round.turn, Round.invocations, Turn.invocations, responseOf_started,
      Turn.call?_of_said said]

theorem Round.turn_asAsked (round : Round agent) : round.turn.AsAsked agent := by
  rw [Turn.AsAsked, Round.turn_invocations]
  cases round with
  | silent cancelled => exact Or.inl rfl
  | unread reply cancelled fault said => exact Or.inl rfl
  | refused reply use cancelled said missing => exact Or.inl rfl
  | used reply use result cancelled said found =>
    exact Or.inr ⟨reply, false, use.thought, use.tool, use.input, rfl, said, found, rfl⟩

/-- No call is interrupted in a round. -/
theorem Round.turn_interrupted? (round : Round agent) : round.turn.interrupted? = none := by
  cases round with
  | silent cancelled => rfl
  | unread reply cancelled fault said => rfl
  | refused reply use cancelled said missing => rfl
  | used reply use result cancelled said found => cases result <;> rfl

/-- The steps of rounds record the calls of these rounds. -/
theorem recordedCalls_stepsOf (rounds : List (Round agent)) :
    recordedCalls agent.registry (stepsOf rounds) = rounds.flatMap Round.invocations := by
  induction rounds with
  | nil => rfl
  | cons round rest ih =>
    have one : recordedCalls agent.registry round.query.step?.toList = round.invocations := by
      cases round with
      | silent cancelled => rfl
      | unread reply cancelled fault said => rfl
      | refused reply use cancelled said missing =>
        simp [recordedCalls, Round.query, Query.step?, Round.invocations, ToolUse.observed, missing]
      | used reply use result cancelled said found =>
        simp [recordedCalls, Round.query, Query.step?, Round.invocations, ToolUse.observed, found]
    rw [List.flatMap_cons, ← ih, ← one, stepsOf_cons]
    simp [recordedCalls]

/-! ### The calls of a run -/

theorem flatMap_turn_invocations (rounds : List (Round agent)) :
    (rounds.map Round.turn).flatMap Turn.invocations = rounds.flatMap Round.invocations := by
  simp only [List.flatMap_map, Round.turn_invocations]

/-- The calls of a run that is at the end of a round. -/
theorem CallsMatch.of_rounds (rounds : List (Round agent)) {run : Run}
    (steps : run.steps = stepsOf rounds)
    (invocations : run.invocations = rounds.flatMap Round.invocations) :
    CallsMatch agent id (eventsOf rounds) run := by
  have turned : turns (eventsOf rounds) = rounds.map Round.turn := by
    have all : turns (eventsOf rounds ++ []) = rounds.map Round.turn ++ [] :=
      turns_eventsOf rounds rfl
    rwa [List.append_nil, List.append_nil] at all
  have whole : interruptedCall? (eventsOf rounds) = none := by
    rw [interruptedCall?, turned, List.getLast?_map]
    cases rounds.getLast? with
    | none => rfl
    | some round => exact round.turn_interrupted?
  refine ⟨?_, ?_, ?_, ?_⟩
  · rw [turned, flatMap_turn_invocations, invocations]
  · rw [turned]
    intro turn mem
    obtain ⟨round, -, rfl⟩ := List.mem_map.mp mem
    exact round.turn_asAsked
  · rw [whole, steps, recordedCalls_stepsOf, invocations]
    exact (List.append_nil _).symm
  · rw [whole]
    exact nofun

/-- The calls of a run that is in the middle of a turn, or that has ended there. -/
theorem CallsMatch.of_turn (rounds : List (Round agent)) {rest : List Event} {run : Run}
    {turn : Turn} (begun : turns rest = [turn]) (asking : callsAhead rest = [])
    (recorded : recordedCalls agent.registry run.steps = rounds.flatMap Round.invocations)
    (invocations : run.invocations = rounds.flatMap Round.invocations ++ turn.invocations)
    (asked : turn.AsAsked agent) (only : turn.invocations = turn.interrupted?.toList)
    (interrupted : turn.interrupted?.isSome = true → run.stage = .failed (.cancelled id)) :
    CallsMatch agent id (eventsOf rounds ++ rest) run := by
  have turned : turns (eventsOf rounds ++ rest) = rounds.map Round.turn ++ [turn] := by
    rw [turns_eventsOf rounds asking, begun]
  have last : interruptedCall? (eventsOf rounds ++ rest) = turn.interrupted? := by
    rw [interruptedCall?, turned, List.getLast?_concat]
    rfl
  refine ⟨?_, ?_, ?_, ?_⟩
  · rw [turned, List.flatMap_append, flatMap_turn_invocations, invocations, List.flatMap_singleton]
  · rw [turned]
    intro other mem
    rcases List.mem_append.mp mem with early | late
    · obtain ⟨round, -, rfl⟩ := List.mem_map.mp early
      exact round.turn_asAsked
    · rw [List.mem_singleton.mp late]
      exact asked
  · rw [last, recorded, invocations, only]
  · rw [last]
    exact interrupted

/-- The calls of a run that has ended in the middle of a turn, or waits, without a call in it. -/
theorem CallsMatch.of_idle (rounds : List (Round agent)) {rest : List Event} {run : Run}
    {turn : Turn} (begun : turns rest = [turn]) (asking : callsAhead rest = [])
    (recorded : recordedCalls agent.registry run.steps = rounds.flatMap Round.invocations)
    (invocations : run.invocations = rounds.flatMap Round.invocations)
    (idle : turn.invocations = []) (whole : turn.interrupted? = none) :
    CallsMatch agent id (eventsOf rounds ++ rest) run := by
  refine .of_turn rounds begun asking recorded ?_ (Or.inl idle) ?_ ?_
  · rw [invocations, idle, List.append_nil]
  · rw [idle, whole]
    rfl
  · rw [whole]
    exact nofun

/-- The calls of every run, wherever it stands. -/
theorem Course.callsMatch (orderly : agent.registry.Orderly) {events : List Event} {run : Run}
    (c : Course agent id task events run) : CallsMatch agent id events run := by
  cases c.standing with
  | head rounds bound => exact .of_rounds rounds rfl rfl
  | headOff rounds bound => exact .of_rounds rounds rfl rfl
  | exhausted rounds full => exact .of_rounds rounds rfl rfl
  | unasked rounds bound =>
    exact .of_idle rounds rfl rfl (recordedCalls_stepsOf rounds) rfl rfl rfl
  | askedOff rounds bound =>
    exact .of_idle rounds rfl rfl (recordedCalls_stepsOf rounds) rfl rfl rfl
  | modelFailed rounds failure cancelled bound =>
    exact .of_idle rounds rfl rfl (recordedCalls_stepsOf rounds) rfl rfl rfl
  | concluded rounds reply thought answer cancelled said bound =>
    refine .of_idle rounds rfl rfl ?_ rfl rfl rfl
    -- The step with the answer records no call, since no tool has the name of its action.
    have final : agent.registry.contains (Step.final thought answer).action = false :=
      orderly.not_contains_finalAction
    have steps : ((askedAfter id task rounds).conclude thought answer reply).steps
        = stepsOf rounds ++ [Step.final thought answer] := rfl
    rw [steps, ← recordedCalls_stepsOf]
    simp [recordedCalls, final]
  | uncalled rounds reply use rest said found late bound =>
    rcases late with rfl | rfl
    · exact .of_idle rounds rfl rfl (recordedCalls_stepsOf rounds) rfl rfl rfl
    · exact .of_idle rounds rfl rfl (recordedCalls_stepsOf rounds) rfl rfl rfl
  | awaitingTool rounds reply use said found bound =>
    exact .of_idle rounds rfl rfl (recordedCalls_stepsOf rounds) rfl rfl rfl
  | calledOff rounds reply use said found bound =>
    let turn : Turn := ⟨.returned (.ok reply) false, [.interrupted]⟩
    have call : turn.call? = some (use.tool, use.input) := Turn.call?_of_said said _
    have invocations : turn.invocations = [(use.tool, use.input)] := by
      show [Response.interrupted].flatMap (fun _ => turn.call?.toList) = _
      rw [call]
      rfl
    have only : turn.invocations = turn.interrupted?.toList := by
      show _ = turn.call?.toList
      rw [invocations, call]
      rfl
    have asked : turn.AsAsked agent :=
      Or.inr ⟨reply, false, use.thought, use.tool, use.input, rfl, said, found, invocations⟩
    have called : ((actingAfter id task rounds reply use).noteCalled use true).cancel.invocations
        = rounds.flatMap Round.invocations ++ turn.invocations := by
      rw [invocations]
      rfl
    exact .of_turn rounds rfl rfl (recordedCalls_stepsOf rounds) called asked only fun _ => rfl

/--
**Every call of a run was asked for, and is recorded unless it was interrupted.**  The
calls of a run are those that its steps record, in the same order, and at most one more
after them, which was under way when the run was called off.  No turn has two calls, and
none has a call that its reply does not ask for.  And whatever surrounds a run, the calls
that are heard of it as they begin are these calls.
-/
theorem calls_match_steps {tools : List Tool} (built : Registry.ofList tools = .ok agent.registry)
    (id : Uuid) (task : String) :
    (∀ events run, Course agent id task events run → CallsMatch agent id events run) ∧
    ∀ (m : Type → Type) [Monad m] [LawfulMonad m] (s : Surroundings m) (cancelled : Bool),
      let start := Run.start agent id task cancelled
      (fun last => (last.1, last.2.calls)) <$>
          (start.drive s.listening agent agent.limits.responses).run ⟨[], []⟩
        = (fun ended => (ended, ended.invocations)) <$>
            start.drive s agent agent.limits.responses := by
  have orderly := Registry.ofList_orderly built
  refine ⟨fun _ _ c => c.callsMatch orderly, ?_⟩
  intro m _ _ s cancelled start
  rw [listening_start, Functor.map_map]

/-- Of two calls the one that was interrupted is not recorded, nor is that of an unknown tool. -/
theorem calls_match_steps_look :
    ∃ events run, Course (.looking 3) .nil "draw" events run ∧
      run.invocations = [("look", ""), ("look", "up")] ∧
      recordedCalls (Agent.looking 3).registry run.steps = [("look", "")] ∧
      interruptedCall? events = some ("look", "up") ∧ run.stage = .failed (.cancelled .nil) := by
  have built : Registry.ofList [⟨"look", "Looks around.", fun _ _ => .immediate (.ok "")⟩]
      = .ok (Agent.looking 3).registry := rfl
  have c : Course (.looking 3) .nil "draw"
      [.model (.returned (.ok "Action: look") false), .tool (.returned (.ok "") false),
        .model (.returned (.ok "Action: peek") false),
        .model (.returned (.ok "Action: look\nAction Input: up") false), .tool .interrupted] _ :=
    (((((Course.start false).model rfl (.returned (.ok "Action: look") false)).tool rfl
      (.returned (.ok "") false)).model rfl (.returned (.ok "Action: peek") false)).model rfl
      (.returned (.ok "Action: look\nAction Input: up") false)).tool rfl .interrupted
  have matched := (calls_match_steps built .nil "draw").1 _ _ c
  exact ⟨_, _, c, matched.turned, rfl, rfl, matched.interrupted rfl⟩

end Draftsman
