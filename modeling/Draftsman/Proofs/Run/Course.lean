/-
What a run can come to.

A run is given one response after another.  `Course` relates the list of everything a
run was given to the run that has come of it, and assumes nothing about where the
responses come from: a model may write anything, fail or take too long, a tool may do
the same, and the run may be called off at any point.  A statement about all courses is
therefore one about every model, every tool and every moment of calling off.

The loop of a run goes round in *rounds*: the model is asked, and something comes of it
that does not end the run.  `headOf` spells out the run that has gone through a list of
rounds, field by field, and `Course.standing` says that every run is such a run, or one
that is at most one asking and one call further on.  That is the only place where the
moves of a run are taken apart; everything else about runs is read off the rounds.
-/
import Draftsman.Agent.World

namespace Draftsman

open Draftsman.Text (trimmed blankString)

/-! ### Courses -/

/-- What a run is given. -/
inductive Event where
  /-- What came of asking the model. -/
  | model (response : Response (Except Failure String))
  /-- What came of calling a tool. -/
  | tool (response : Response (Except ToolFault String))

/-- The runs on a task, each with everything that it was given since it began. -/
inductive Course (agent : Agent) (id : Uuid) (task : String) : List Event → Run → Prop
  | start (cancelled : Bool) : Course agent id task [] (Run.start agent id task cancelled)
  | model {events : List Event} {run : Run} (before : Course agent id task events run)
      (awaited : run.stage = .awaitingModel) (response : Response (Except Failure String)) :
      Course agent id task (events ++ [.model response]) (run.onModel agent response)
  | tool {events : List Event} {run : Run} {use : ToolUse}
      (before : Course agent id task events run) (awaited : run.stage = .awaitingTool use)
      (response : Response (Except ToolFault String)) :
      Course agent id task (events ++ [.tool response]) (run.onTool agent use response)

/-- The steps that were recorded for an action: all but the one with the answer. -/
def Run.actionSteps (run : Run) : List Step :=
  match run.stage with
  | .finished _ => run.steps.dropLast
  | _ => run.steps

/-- A conclusion adds the answer to the steps for actions. -/
theorem Run.conclude_actionSteps (run : Run) (thought answer reply : String) :
    (run.conclude thought answer reply).actionSteps = run.steps := List.dropLast_concat

/-- A result is left only of a run that is finished. -/
theorem Run.finished_of_outcome? {agent : Agent} {run : Run} {startedAt finishedAt : Instant}
    {result : RunResult} (outcome : run.outcome? agent startedAt finishedAt = some (.ok result)) :
    run.stage = .finished result.finalAnswer ∧ result.steps = run.steps ∧
      result.totalSteps = run.steps.length := by
  unfold Run.outcome? at outcome
  split at outcome
  · rename_i answer finished
    cases outcome
    exact ⟨finished, rfl, rfl⟩
  · cases outcome
  · cases outcome

/-- A failure is left only of a run that has failed. -/
theorem Run.failed_of_outcome? {agent : Agent} {run : Run} {startedAt finishedAt : Instant}
    {left : RunFailure} (outcome : run.outcome? agent startedAt finishedAt = some (.error left)) :
    run.stage = .failed left.failure ∧ left.steps = run.steps ∧
      left.iterations = run.iterations := by
  unfold Run.outcome? at outcome
  split at outcome
  · cases outcome
  · rename_i failure failed
    cases outcome
    exact ⟨failed, rfl, rfl⟩
  · cases outcome

/-- What a reply decides that uses a tool. -/
def ToolUse.decision (use : ToolUse) : Reply.Decision := .act use.thought use.tool use.input

/-! ### What the model is told -/

/-- What became of a question to the model that did not end the run. -/
inductive Query where
  /-- The model took too long. -/
  | silent
  /-- The reply decided nothing. -/
  | unread (reply : String)
  /-- The reply used a tool, and this step was recorded. -/
  | acted (reply : String) (step : Step)
  deriving DecidableEq, Repr

/--
What a query adds to the conversation.  A reply that used a tool is cut before the first
observation in it, and there are no blanks around what is kept of a reply.
-/
def Query.messages : Query → List Message
  | .silent => []
  | .unread reply =>
    (if blankString reply then [] else [⟨.assistant, trimmed reply⟩]) ++
      [⟨.user, formatReminder⟩]
  | .acted reply step =>
    [⟨.assistant, trimmed (String.ofList (Reply.stripObservation reply.toList))⟩,
      ⟨.user, s!"Observation: {step.observation}"⟩]

/-- The step that was recorded, if there was one. -/
def Query.step? : Query → Option Step
  | .acted _ step => some step
  | _ => none

/-- What the model is told before it replies for the first time. -/
def opening (agent : Agent) (task : String) : List Message :=
  [⟨.system, systemPrompt agent.registry agent.limits.instructions⟩, ⟨.user, task⟩]

/-- What the model is told after some queries. -/
def conversationAfter (agent : Agent) (task : String) (queries : List Query) : List Message :=
  opening agent task ++ queries.flatMap Query.messages

/-! ### Rounds -/

/-- What is observed of a call; there is no result when the call takes too long. -/
def observationOf (limits : Limits) (use : ToolUse) :
    Option (Except ToolFault String) → String
  | some result => Run.outcomeText result
  | none => Run.timeoutText limits use.tool

/-- What comes of a call; there is no result when the call takes too long. -/
def responseOf (result : Option (Except ToolFault String)) (cancelled : Bool) :
    Response (Except ToolFault String) :=
  match result with
  | some result => .returned result cancelled
  | none => .timedOut cancelled

/-- The step that is recorded when a tool was to be used. -/
def ToolUse.observed (use : ToolUse) (observation : String) : Step :=
  ⟨use.thought, use.tool, use.input, observation⟩

/-- One time round the loop; `cancelled` says whether the run has been called off by its end. -/
inductive Round (agent : Agent) where
  /-- The model took too long. -/
  | silent (cancelled : Bool)
  /-- The reply decided nothing. -/
  | unread (reply : String) (cancelled : Bool) (fault : Reply.Fault)
      (said : Reply.decision reply = .error fault)
  /-- The reply used a tool that is not there. -/
  | refused (reply : String) (use : ToolUse) (cancelled : Bool)
      (said : Reply.decision reply = .ok use.decision)
      (missing : agent.registry.contains use.tool = false)
  /-- The reply used a tool, which was called. -/
  | used (reply : String) (use : ToolUse) (result : Option (Except ToolFault String))
      (cancelled : Bool) (said : Reply.decision reply = .ok use.decision)
      (found : agent.registry.contains use.tool = true)

namespace Round

variable {agent : Agent}

/-- What the run was given in a round. -/
def events : Round agent → List Event
  | silent cancelled => [.model (.timedOut cancelled)]
  | unread reply cancelled .. => [.model (.returned (.ok reply) cancelled)]
  | refused reply _ cancelled .. => [.model (.returned (.ok reply) cancelled)]
  | used reply _ result cancelled .. =>
    [.model (.returned (.ok reply) false), .tool (responseOf result cancelled)]

/-- What became of the question that a round began with. -/
def query : Round agent → Query
  | silent _ => .silent
  | unread reply .. => .unread reply
  | refused reply use .. =>
    .acted reply (use.observed (Run.unknownToolText agent.registry use.tool))
  | used reply use result .. => .acted reply (use.observed (observationOf agent.limits use result))

/-- The calls of tools in a round. -/
def invocations : Round agent → List Invocation
  | used _ use .. => [(use.tool, use.input)]
  | _ => []

end Round

section Rounds

variable {agent : Agent}

/-- The queries of some rounds. -/
def queriesOf (rounds : List (Round agent)) : List Query := rounds.map Round.query

/-- The steps that were recorded in some rounds. -/
def stepsOf (rounds : List (Round agent)) : List Step :=
  (queriesOf rounds).filterMap Query.step?

/-- Everything that the run was given in some rounds. -/
def eventsOf (rounds : List (Round agent)) : List Event := rounds.flatMap Round.events

@[simp] theorem queriesOf_append (before after : List (Round agent)) :
    queriesOf (before ++ after) = queriesOf before ++ queriesOf after := List.map_append ..

@[simp] theorem queriesOf_singleton (round : Round agent) :
    queriesOf [round] = [round.query] := rfl

@[simp] theorem queriesOf_length (rounds : List (Round agent)) :
    (queriesOf rounds).length = rounds.length := List.length_map ..

@[simp] theorem stepsOf_append (before after : List (Round agent)) :
    stepsOf (before ++ after) = stepsOf before ++ stepsOf after := by simp [stepsOf]

@[simp] theorem eventsOf_append (before after : List (Round agent)) :
    eventsOf (before ++ after) = eventsOf before ++ eventsOf after := List.flatMap_append ..

@[simp] theorem eventsOf_singleton (round : Round agent) : eventsOf [round] = round.events := by
  simp [eventsOf]

theorem eventsOf_cons (round : Round agent) (rounds : List (Round agent)) :
    eventsOf (round :: rounds) = round.events ++ eventsOf rounds := List.flatMap_cons ..

theorem stepsOf_cons (round : Round agent) (rounds : List (Round agent)) :
    stepsOf (round :: rounds) = round.query.step?.toList ++ stepsOf rounds := by
  cases h : round.query.step? <;> simp [stepsOf, queriesOf, h]

theorem conversationAfter_append (task : String) (before after : List Query) :
    conversationAfter agent task (before ++ after)
      = conversationAfter agent task before ++ after.flatMap Query.messages := by
  simp [conversationAfter]

end Rounds

/-! ### A run that has gone through some rounds -/

/-- The first `count` conversations that the model is sent, each after the queries before it. -/
def sentFirst (agent : Agent) (task : String) (queries : List Query) (count : Nat) :
    List (List Message) :=
  (List.range count).map fun k => conversationAfter agent task (queries.take k)

@[simp] theorem sentFirst_length (agent : Agent) (task : String) (queries : List Query)
    (count : Nat) : (sentFirst agent task queries count).length = count := by simp [sentFirst]

theorem sentFirst_succ (agent : Agent) (task : String) (queries : List Query) :
    sentFirst agent task queries (queries.length + 1)
      = sentFirst agent task queries queries.length ++ [conversationAfter agent task queries] := by
  simp [sentFirst, List.range_succ]

/-- What comes later does not change what was sent before. -/
theorem sentFirst_append (agent : Agent) (task : String) (queries more : List Query) {count : Nat}
    (early : count ≤ queries.length + 1) :
    sentFirst agent task (queries ++ more) count = sentFirst agent task queries count := by
  unfold sentFirst
  refine List.map_congr_left fun k hk => ?_
  have hk' := List.mem_range.mp hk
  rw [List.take_append_of_le_length (by omega)]

/-- The run that is to ask the model again after some rounds. -/
def headOf {agent : Agent} (id : Uuid) (task : String) (rounds : List (Round agent)) : Run where
  id
  messages := conversationAfter agent task (queriesOf rounds)
  steps := stepsOf rounds
  iterations := .ofNat rounds.length
  stage := .awaitingModel
  conversations := sentFirst agent task (queriesOf rounds) rounds.length
  invocations := rounds.flatMap Round.invocations
  reported := stepsOf rounds

/-- The run that has asked the model again after some rounds. -/
def askedAfter {agent : Agent} (id : Uuid) (task : String) (rounds : List (Round agent)) : Run :=
  (headOf id task rounds).noteAsked true

/-- The run that is to call a tool because of a reply after some rounds. -/
def actingAfter {agent : Agent} (id : Uuid) (task : String) (rounds : List (Round agent))
    (reply : String) (use : ToolUse) : Run :=
  { (askedAfter id task rounds).say .assistant
      (trimmed (String.ofList (Reply.stripObservation reply.toList))) with
    stage := .awaitingTool use }

@[simp] theorem headOf_asked {agent : Agent} (id : Uuid) (task : String)
    (rounds : List (Round agent)) :
    (headOf id task rounds).conversations.length = rounds.length := by simp [headOf]

theorem askedAfter_conversations {agent : Agent} (id : Uuid) (task : String)
    (rounds : List (Round agent)) :
    (askedAfter id task rounds).conversations
      = sentFirst agent task (queriesOf rounds) (rounds.length + 1) := by
  have all := sentFirst_succ agent task (queriesOf rounds)
  rw [queriesOf_length] at all
  exact all.symm

@[simp] theorem askedAfter_asked {agent : Agent} (id : Uuid) (task : String)
    (rounds : List (Round agent)) :
    (askedAfter id task rounds).conversations.length = rounds.length + 1 := by
  rw [askedAfter_conversations, sentFirst_length]

/-- One round more adds what the round holds, and nothing else. -/
theorem headOf_concat {agent : Agent} (id : Uuid) (task : String) (rounds : List (Round agent))
    (round : Round agent) :
    headOf id task (rounds ++ [round])
      = { askedAfter id task rounds with
          messages := (headOf id task rounds).messages ++ round.query.messages
          steps := (headOf id task rounds).steps ++ round.query.step?.toList
          iterations := (headOf id task rounds).iterations + 1
          invocations := (headOf id task rounds).invocations ++ round.invocations
          reported := (headOf id task rounds).reported ++ round.query.step?.toList } := by
  have step : stepsOf [round] = round.query.step?.toList := by
    cases h : round.query.step? <;> simp [stepsOf, h]
  have sent : sentFirst agent task (queriesOf (rounds ++ [round])) (rounds ++ [round]).length
      = (askedAfter id task rounds).conversations := by
    rw [askedAfter_conversations, queriesOf_append, List.length_append]
    exact sentFirst_append agent task _ _ (by simp)
  rw [headOf, sent]
  simp [headOf, askedAfter, Run.noteAsked, step, conversationAfter_append, UInt32.ofNat_add]

/-- Whether the model is asked again does not depend on what the run waited for. -/
theorem next_stage (agent : Agent) (cancelled : Bool) (run : Run) (stage : Stage) :
    Run.next agent cancelled { run with stage } = run.next agent cancelled := by
  unfold Run.next Run.cancel Run.fail
  split <;> rfl

/--
A reply that uses a tool is said up to the first observation in it and without blanks around
it, whatever becomes of the use.
-/
theorem Run.act_eq (agent : Agent) (use : ToolUse) (reply : String) (cancelled : Bool) (run : Run) :
    run.act agent use reply cancelled =
      let told := run.say .assistant (trimmed (String.ofList (Reply.stripObservation reply.toList)))
      if agent.registry.contains use.tool then
        if cancelled then told.cancel else { told with stage := .awaitingTool use }
      else told.observe agent use (unknownToolText agent.registry use.tool) cancelled := by
  unfold act keptReply
  by_cases found : agent.registry.contains use.tool = true
  · simp [found]
  · simp [found]

section Moves

variable {agent : Agent} (id : Uuid) (task : String) (rounds : List (Round agent))

/-! ### What the moves of a run make of rounds -/

theorem onModel_silent (cancelled : Bool) :
    (headOf id task rounds).onModel agent (.timedOut cancelled)
      = (headOf id task (rounds ++ [.silent cancelled])).next agent cancelled := by
  rw [headOf_concat]
  simp [Run.onModel, Response.started, askedAfter, Run.noteAsked, Run.spend, headOf,
    Round.query, Round.invocations, Query.messages, Query.step?]

theorem onModel_unread {reply : String} {fault : Reply.Fault} (cancelled : Bool)
    (said : Reply.decision reply = .error fault) :
    (headOf id task rounds).onModel agent (.returned (.ok reply) cancelled)
      = (headOf id task (rounds ++ [.unread reply cancelled fault said])).next agent cancelled := by
  rw [headOf_concat]
  simp only [Run.onModel, Run.onReply, said, Run.remind]
  split <;> rename_i blank <;>
    simp [Response.started, askedAfter, Run.noteAsked, Run.spend, Run.say, headOf,
      Round.query, Round.invocations, Query.messages, Query.step?, blank]

theorem onModel_refused {reply : String} {use : ToolUse} (cancelled : Bool)
    (said : Reply.decision reply = .ok use.decision)
    (missing : agent.registry.contains use.tool = false) :
    (headOf id task rounds).onModel agent (.returned (.ok reply) cancelled)
      = (headOf id task (rounds ++ [.refused reply use cancelled said missing])).next agent
          cancelled := by
  rw [headOf_concat]
  simp only [Run.onModel, Run.onReply, said, ToolUse.decision, Run.act_eq, missing]
  simp [Response.started, askedAfter, Run.noteAsked, Run.spend, Run.say, Run.record, Run.observe,
    headOf, Round.query, Round.invocations, Query.messages, Query.step?,
    ToolUse.observed]

theorem onModel_act {reply : String} {use : ToolUse} (cancelled : Bool)
    (said : Reply.decision reply = .ok use.decision)
    (found : agent.registry.contains use.tool = true) :
    (headOf id task rounds).onModel agent (.returned (.ok reply) cancelled)
      = if cancelled then (actingAfter id task rounds reply use).cancel
        else actingAfter id task rounds reply use := by
  simp only [Run.onModel, Run.onReply, said, ToolUse.decision, Run.act_eq, found]
  cases cancelled <;>
    simp [Response.started, actingAfter, askedAfter, Run.noteAsked, Run.say, Run.cancel, Run.fail]

theorem onTool_used {reply : String} {use : ToolUse} (result : Option (Except ToolFault String))
    (cancelled : Bool) (said : Reply.decision reply = .ok use.decision)
    (found : agent.registry.contains use.tool = true) :
    (actingAfter id task rounds reply use).onTool agent use (responseOf result cancelled)
      = (headOf id task (rounds ++ [.used reply use result cancelled said found])).next agent
          cancelled := by
  rw [headOf_concat, ← next_stage agent cancelled _ (.awaitingTool use)]
  cases result <;>
    simp [responseOf, Run.onTool, Response.started, actingAfter, askedAfter, Run.noteAsked,
      Run.noteCalled, Run.spend, Run.say, Run.record, Run.observe, headOf, Round.query,
      Round.invocations, Query.messages, Query.step?, ToolUse.observed, observationOf]

end Moves

/-! ### Every run is at most one asking and one call ahead of its rounds -/

/-- Where a run can stand after everything that it was given. -/
inductive Standing (agent : Agent) (id : Uuid) (task : String) : List Event → Run → Prop
  /-- The model is to be asked again. -/
  | head (rounds : List (Round agent))
      (bound : rounds.length < agent.limits.maxIterations.toNat) :
      Standing agent id task (eventsOf rounds) (headOf id task rounds)
  /-- The run was found to be called off at the end of a round. -/
  | headOff (rounds : List (Round agent))
      (bound : rounds.length ≤ agent.limits.maxIterations.toNat) :
      Standing agent id task (eventsOf rounds) (headOf id task rounds).cancel
  /-- There is nothing left of the budget at the end of a round. -/
  | exhausted (rounds : List (Round agent))
      (full : rounds.length = agent.limits.maxIterations.toNat) :
      Standing agent id task (eventsOf rounds)
        ((headOf id task rounds).fail (.budgetExhausted id agent.limits.maxIterations))
  /-- The run was called off before the model was asked. -/
  | unasked (rounds : List (Round agent))
      (bound : rounds.length < agent.limits.maxIterations.toNat) :
      Standing agent id task (eventsOf rounds ++ [.model .prevented]) (headOf id task rounds).cancel
  /-- The run was called off while the model was being asked. -/
  | askedOff (rounds : List (Round agent))
      (bound : rounds.length < agent.limits.maxIterations.toNat) :
      Standing agent id task (eventsOf rounds ++ [.model .interrupted])
        (askedAfter id task rounds).cancel
  /-- The model failed. -/
  | modelFailed (rounds : List (Round agent)) (failure : Failure) (cancelled : Bool)
      (bound : rounds.length < agent.limits.maxIterations.toNat) :
      Standing agent id task (eventsOf rounds ++ [.model (.returned (.error failure) cancelled)])
        ((askedAfter id task rounds).fail failure)
  /-- The reply concluded. -/
  | concluded (rounds : List (Round agent)) (reply thought answer : String) (cancelled : Bool)
      (said : Reply.decision reply = .ok (.conclude thought answer))
      (bound : rounds.length < agent.limits.maxIterations.toNat) :
      Standing agent id task (eventsOf rounds ++ [.model (.returned (.ok reply) cancelled)])
        ((askedAfter id task rounds).conclude thought answer reply)
  /-- The reply used a tool, and the run was called off before the call could be made. -/
  | uncalled (rounds : List (Round agent)) (reply : String) (use : ToolUse) (events : List Event)
      (said : Reply.decision reply = .ok use.decision)
      (found : agent.registry.contains use.tool = true)
      (late : events = [.model (.returned (.ok reply) true)] ∨
        events = [.model (.returned (.ok reply) false), .tool .prevented])
      (bound : rounds.length < agent.limits.maxIterations.toNat) :
      Standing agent id task (eventsOf rounds ++ events)
        (actingAfter id task rounds reply use).cancel
  /-- The reply used a tool, which is to be called. -/
  | awaitingTool (rounds : List (Round agent)) (reply : String) (use : ToolUse)
      (said : Reply.decision reply = .ok use.decision)
      (found : agent.registry.contains use.tool = true)
      (bound : rounds.length < agent.limits.maxIterations.toNat) :
      Standing agent id task (eventsOf rounds ++ [.model (.returned (.ok reply) false)])
        (actingAfter id task rounds reply use)
  /-- The run was called off while the tool was at work. -/
  | calledOff (rounds : List (Round agent)) (reply : String) (use : ToolUse)
      (said : Reply.decision reply = .ok use.decision)
      (found : agent.registry.contains use.tool = true)
      (bound : rounds.length < agent.limits.maxIterations.toNat) :
      Standing agent id task
        (eventsOf rounds ++ [.model (.returned (.ok reply) false), .tool .interrupted])
        ((actingAfter id task rounds reply use).noteCalled use true).cancel

section Standing

variable {agent : Agent} {id : Uuid} {task : String}

/-- As long as a run keeps to its limit, no round is lost to the width of its counter. -/
theorem toNat_ofNat_rounds (rounds : List (Round agent))
    (bound : rounds.length ≤ agent.limits.maxIterations.toNat) :
    (UInt32.ofNat rounds.length).toNat = rounds.length :=
  UInt32.toNat_ofNat_of_lt' (Nat.lt_of_le_of_lt bound agent.limits.maxIterations.toNat_lt)

/-- At the end of a round it is decided whether the model is asked again. -/
theorem Standing.next (rounds : List (Round agent)) (cancelled : Bool)
    (bound : rounds.length ≤ agent.limits.maxIterations.toNat) :
    Standing agent id task (eventsOf rounds) ((headOf id task rounds).next agent cancelled) := by
  have spent : agent.limits.maxIterations ≤ (headOf id task rounds).iterations
      ↔ rounds.length = agent.limits.maxIterations.toNat := by
    show _ ≤ UInt32.ofNat rounds.length ↔ _
    rw [UInt32.le_iff_toNat_le, toNat_ofNat_rounds rounds bound]
    omega
  unfold Run.next
  simp only [spent]
  by_cases off : cancelled = true
  · rw [if_pos off]
    exact .headOff rounds bound
  · rw [if_neg off]
    by_cases full : rounds.length = agent.limits.maxIterations.toNat
    · rw [if_pos full]
      exact .exhausted rounds full
    · rw [if_neg full]
      exact .head rounds (by omega)

/-- Whatever the model answers, a run that has asked it stands somewhere. -/
theorem Standing.model (rounds : List (Round agent))
    (bound : rounds.length < agent.limits.maxIterations.toNat)
    (response : Response (Except Failure String)) :
    Standing agent id task (eventsOf rounds ++ [.model response])
      ((headOf id task rounds).onModel agent response) := by
  -- A round that is complete adds its events to those of the rounds before it.
  have further : ∀ (round : Round agent) (cancelled : Bool), round.events = [.model response] →
      Standing agent id task (eventsOf rounds ++ [.model response])
        ((headOf id task (rounds ++ [round])).next agent cancelled) := by
    intro round cancelled given
    have here : Standing agent id task _ _ :=
      .next (rounds ++ [round]) cancelled (by rw [List.length_append]; exact bound)
    simpa [given] using here
  cases response with
  | prevented => exact .unasked rounds bound
  | interrupted => exact .askedOff rounds bound
  | timedOut cancelled =>
    rw [onModel_silent]
    exact further _ _ rfl
  | returned value cancelled =>
    cases value with
    | error failure => exact .modelFailed rounds failure cancelled bound
    | ok reply =>
      cases said : Reply.decision reply with
      | error fault =>
        rw [onModel_unread id task rounds cancelled said]
        exact further _ _ rfl
      | ok decision =>
        cases decision with
        | conclude thought answer =>
          have here : Standing agent id task _ _ :=
            .concluded rounds reply thought answer cancelled said bound
          simpa [Run.onModel, Run.onReply, said, Response.started, askedAfter] using here
        | act thought tool input =>
          let use : ToolUse := ⟨thought, tool, input⟩
          have chosen : Reply.decision reply = .ok use.decision := said
          by_cases found : agent.registry.contains tool = true
          · rw [onModel_act id task rounds cancelled chosen found]
            cases cancelled with
            | true => exact .uncalled rounds reply use _ chosen found (Or.inl rfl) bound
            | false => exact .awaitingTool rounds reply use chosen found bound
          · rw [onModel_refused id task rounds cancelled chosen (by simpa using found)]
            exact further _ _ rfl

/-- Whatever a tool answers, a run that has called it stands somewhere. -/
theorem Standing.tool (rounds : List (Round agent)) {reply : String} {use : ToolUse}
    (said : Reply.decision reply = .ok use.decision)
    (found : agent.registry.contains use.tool = true)
    (bound : rounds.length < agent.limits.maxIterations.toNat)
    (response : Response (Except ToolFault String)) :
    Standing agent id task
      (eventsOf rounds ++ [.model (.returned (.ok reply) false)] ++ [.tool response])
      ((actingAfter id task rounds reply use).onTool agent use response) := by
  have observed : ∀ (result : Option (Except ToolFault String)) (cancelled : Bool),
      response = responseOf result cancelled →
      Standing agent id task
        (eventsOf rounds ++ [.model (.returned (.ok reply) false)] ++ [.tool response])
        ((actingAfter id task rounds reply use).onTool agent use response) := by
    rintro result cancelled rfl
    rw [onTool_used id task rounds result cancelled said found]
    have here : Standing agent id task _ _ :=
      .next (rounds ++ [.used reply use result cancelled said found]) cancelled
        (by rw [List.length_append]; exact bound)
    simpa [Round.events] using here
  cases response with
  | prevented =>
    have here : Standing agent id task _ _ :=
      .uncalled rounds reply use _ said found (Or.inr rfl) bound
    simpa [Run.onTool, Response.started, Run.noteCalled] using here
  | interrupted =>
    have here : Standing agent id task _ _ := .calledOff rounds reply use said found bound
    simpa [Run.onTool, Response.started] using here
  | timedOut cancelled => exact observed none cancelled rfl
  | returned result cancelled => exact observed (some result) cancelled rfl

/-- **Every run stands somewhere.**  What a run is follows from the rounds it has gone through. -/
theorem Course.standing {events : List Event} {run : Run} (c : Course agent id task events run) :
    Standing agent id task events run := by
  induction c with
  | start cancelled => exact .next [] cancelled (Nat.zero_le _)
  | model before awaited response ih =>
    cases ih with
    | head rounds bound => exact .model rounds bound response
    | _ => cases awaited
  | tool before awaited response ih =>
    cases ih with
    | awaitingTool rounds reply use said found bound =>
      cases awaited
      exact .tool rounds said found bound response
    | _ => cases awaited

end Standing

/-! ### Small agents -/

/-- An agent that has no tools. -/
def Agent.withoutTools (maxIterations : UInt32) : Agent :=
  ⟨.empty, { Limits.default with maxIterations }, "scripted"⟩

/-- An agent with one tool, which finds nothing. -/
def Agent.looking (maxIterations : UInt32) : Agent :=
  ⟨⟨[⟨"look", "Looks around.", fun _ _ => .immediate (.ok "")⟩]⟩,
    { Limits.default with maxIterations }, "scripted"⟩

end Draftsman
