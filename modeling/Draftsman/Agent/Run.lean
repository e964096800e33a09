/-
A run: a model that works on a task with tools until it has an answer.

The model is sent the conversation and replies.  If its reply uses a tool, the tool
is called, and what it returns is added to the conversation as an observation.  If
the reply concludes, the run is finished.  A reply that decides nothing, a tool that
is not there, fails or takes too long, and a model that takes too long, all use up
one iteration, and the model is asked again.  Everything else ends the run: a model
that fails, a run that is called off, and too many iterations.

A run is a value, and goes on by one response at a time: `Run.onModel` takes what
came of asking the model, `Run.onTool` what came of calling a tool.  Beside what the
run needs it keeps what has happened: the conversations that the model was sent, the
tools that were called, and the steps as they were reported.
-/
import Draftsman.Agent.Limits
import Draftsman.Agent.Message
import Draftsman.Agent.Prompt
import Draftsman.Transcript.Report

namespace Draftsman

open Draftsman.Text (trimmed blankString)

/-! ### Where a run is -/

/-- Where a run is. -/
inductive Phase where
  | running
  | awaitingModel
  | awaitingTool
  | finished
  | failed
  deriving DecidableEq, Repr

/-- The phases that may follow on a phase. -/
def Phase.successors : Phase → List Phase
  | .running => [.awaitingModel, .awaitingTool, .finished, .failed]
  | .awaitingModel => [.running, .failed]
  | .awaitingTool => [.running, .failed]
  | .finished => []
  | .failed => []

/-- Whether one phase may follow on another. -/
def Phase.mayBecome (phase next : Phase) : Bool := phase.successors.contains next

/-- Whether a run is over. -/
def Phase.isTerminal (phase : Phase) : Bool := phase == .finished || phase == .failed

/-- A use of a tool, as the model decided it. -/
structure ToolUse where
  thought : String
  tool : String
  input : String
  deriving DecidableEq, Repr

/-- What a run waits for, or how it ended. -/
inductive Stage where
  | awaitingModel
  | awaitingTool (use : ToolUse)
  | finished (answer : String)
  | failed (failure : Failure)
  deriving DecidableEq, Repr

/-- The phase of a stage. -/
def Stage.phase : Stage → Phase
  | .awaitingModel => .awaitingModel
  | .awaitingTool _ => .awaitingTool
  | .finished _ => .finished
  | .failed _ => .failed

/-- What stays the same during a run. -/
structure Agent where
  registry : Registry
  limits : Limits
  /-- The name of the provider of the model. -/
  provider : String

/-- A run under way or at its end. -/
structure Run where
  id : Uuid
  messages : List Message
  steps : List Step
  iterations : UInt32
  stage : Stage
  /-- The conversations that the model was sent, the first one first. -/
  conversations : List (List Message)
  /-- The calls of tools that were begun, the first one first. -/
  invocations : List Invocation
  /-- The steps as they were reported, the first one first. -/
  reported : List Step
  deriving Repr

namespace Run

/-! ### The parts of a move -/

/-- Ends a run with a failure. -/
def fail (run : Run) (failure : Failure) : Run := { run with stage := .failed failure }

/-- Ends a run that was called off. -/
def cancel (run : Run) : Run := run.fail (.cancelled run.id)

/-- Adds a message to the conversation. -/
def say (run : Run) (role : Role) (content : String) : Run :=
  { run with messages := run.messages ++ [⟨role, content⟩] }

/-- Records a step, and reports it. -/
def record (run : Run) (step : Step) : Run :=
  { run with steps := run.steps ++ [step], reported := run.reported ++ [step] }

/-- Uses up an iteration. -/
def spend (run : Run) : Run := { run with iterations := run.iterations + 1 }

/-- Asks the model, unless the run has been called off or has no iterations left. -/
def next (agent : Agent) (cancelled : Bool) (run : Run) : Run :=
  if cancelled then run.cancel
  else if agent.limits.maxIterations ≤ run.iterations then
    run.fail (.budgetExhausted run.id agent.limits.maxIterations)
  else { run with stage := .awaitingModel }

/-- The run that has just begun on a task. -/
def start (agent : Agent) (id : Uuid) (task : String) (cancelled : Bool) : Run :=
  next agent cancelled
    { id
      messages :=
        [⟨.system, systemPrompt agent.registry agent.limits.instructions⟩, ⟨.user, task⟩]
      steps := []
      iterations := 0
      stage := .awaitingModel
      conversations := []
      invocations := []
      reported := [] }

/-! ### Observations -/

/-- What is observed when a tool is not there. -/
def unknownToolText (r : Registry) (name : String) : String :=
  s!"Error: unknown tool '{name}'. Available tools: {nameListing r}"

/-- What is observed when a tool takes too long. -/
def timeoutText (limits : Limits) (name : String) : String :=
  s!"Error: tool '{name}' timed out after {wholeSeconds limits.toolTimeout}s"

/-- What is observed when a tool returns or fails. -/
def outcomeText : Except ToolFault String → String
  | .ok output => if blankString output then "(no output)" else output
  | .error fault => s!"Error: {fault.message}"

/-- Adds what was observed to the conversation, records the step, and goes on. -/
def observe (agent : Agent) (use : ToolUse) (observation : String) (cancelled : Bool) (run : Run) :
    Run :=
  (((run.say .user s!"Observation: {observation}").record
    ⟨use.thought, use.tool, use.input, observation⟩).spend).next agent cancelled

/-! ### Replies of the model -/

/-- The reply with which a run comes to its end. -/
def conclude (thought answer reply : String) (run : Run) : Run :=
  let run := (run.say .assistant (trimmed reply)).record (Step.final thought answer)
  { run with stage := .finished answer }

/-- The reply without what a model made up as an observation, and without blanks around it. -/
def keptReply (reply : String) : String :=
  trimmed (String.ofList (Reply.stripObservation reply.toList))

/-- A reply that uses a tool. -/
def act (agent : Agent) (use : ToolUse) (reply : String) (cancelled : Bool) (run : Run) : Run :=
  let run := run.say .assistant (keptReply reply)
  if !agent.registry.contains use.tool then
    run.observe agent use (unknownToolText agent.registry use.tool) cancelled
  else if cancelled then run.cancel
  else { run with stage := .awaitingTool use }

/-- A reply that decides nothing; a blank one is not added to the conversation. -/
def remind (agent : Agent) (reply : String) (cancelled : Bool) (run : Run) : Run :=
  let run := if blankString reply then run else run.say .assistant (trimmed reply)
  ((run.say .user formatReminder).spend).next agent cancelled

/-- A reply. -/
def onReply (agent : Agent) (reply : String) (cancelled : Bool) (run : Run) : Run :=
  match Reply.decision reply with
  | .ok (.conclude thought answer) => run.conclude thought answer reply
  | .ok (.act thought tool input) => run.act agent ⟨thought, tool, input⟩ reply cancelled
  | .error _ => run.remind agent reply cancelled

/-! ### Responses -/

/-- Notes that the model was sent the conversation, if it was. -/
def noteAsked (begun : Bool) (run : Run) : Run :=
  if begun then { run with conversations := run.conversations ++ [run.messages] } else run

/-- Notes that a tool was called, if it was. -/
def noteCalled (use : ToolUse) (begun : Bool) (run : Run) : Run :=
  if begun then { run with invocations := run.invocations ++ [(use.tool, use.input)] } else run

/-- Takes what came of asking the model. -/
def onModel (agent : Agent) (response : Response (Except Failure String)) (run : Run) : Run :=
  let run := run.noteAsked response.started
  match response with
  | .prevented => run.cancel
  | .interrupted => run.cancel
  | .timedOut cancelled => run.spend.next agent cancelled
  | .returned (.error failure) _ => run.fail failure
  | .returned (.ok reply) cancelled => run.onReply agent reply cancelled

/-- Takes what came of calling a tool. -/
def onTool (agent : Agent) (use : ToolUse) (response : Response (Except ToolFault String))
    (run : Run) : Run :=
  let run := run.noteCalled use response.started
  match response with
  | .prevented => run.cancel
  | .interrupted => run.cancel
  | .timedOut cancelled => run.observe agent use (timeoutText agent.limits use.tool) cancelled
  | .returned outcome cancelled => run.observe agent use (outcomeText outcome) cancelled

/-! ### What is left of a run -/

/-- The result of a finished run, or its failure; none while it is under way. -/
def outcome? (agent : Agent) (startedAt finishedAt : Instant) (run : Run) :
    Option (Except RunFailure RunResult) :=
  match run.stage with
  | .finished answer =>
    some (.ok
      { runId := run.id
        steps := run.steps
        finalAnswer := answer
        totalSteps := run.steps.length
        provider := agent.provider
        startedAt
        finishedAt })
  | .failed failure =>
    some (.error
      { runId := run.id
        failure
        steps := run.steps
        provider := agent.provider
        iterations := run.iterations })
  | _ => none

end Run

end Draftsman
