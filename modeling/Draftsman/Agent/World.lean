/-
Runs among what surrounds them.

`Run.drive` takes a run to its end, asking for a response whenever the run waits for
one; where the responses come from is left open.  A model that is a function of what
it was asked makes a closed world, in which a run needs nothing from outside.
-/
import Draftsman.Agent.Run

namespace Draftsman

/-- Where the responses come from that a run waits for. -/
structure Surroundings (m : Type → Type) where
  /-- Sends a conversation to the model; the run has not noted it yet. -/
  ask : Run → m (Response (Except Failure String))
  /-- Calls a tool. -/
  call : Run → ToolUse → m (Response (Except ToolFault String))
  /-- Takes notice of a step as it is recorded; the first step has the number 1. -/
  report : (number : Nat) → Step → m Unit

/-- Reports the steps that one move of a run has recorded. -/
def Run.reportSince {m : Type → Type} [Monad m] (s : Surroundings m) (before after : Run) :
    m Unit :=
  ((after.reported.zipIdx 1).drop before.reported.length).forM fun (step, number) =>
    s.report number step

/-- Takes a run to its end, or as far as `fuel` responses take it. -/
def Run.drive {m : Type → Type} [Monad m] (s : Surroundings m) (agent : Agent) :
    (fuel : Nat) → Run → m Run
  | 0, run => pure run
  | fuel + 1, run =>
    match run.stage with
    | .awaitingModel => do
      let next := run.onModel agent (← s.ask run)
      run.reportSince s next
      next.drive s agent fuel
    | .awaitingTool use => do
      let next := run.onTool agent use (← s.call run use)
      run.reportSince s next
      next.drive s agent fuel
    | _ => pure run

/--
How many responses a run can take: every iteration takes one of the model and at
most one of a tool, and one more may end the run.
-/
def Limits.responses (l : Limits) : Nat := 2 * l.maxIterations.toNat + 2

/-- What a call of a tool of the agent comes to. -/
def Agent.callTool (agent : Agent) (run : Run) (use : ToolUse) :
    Response (Except ToolFault String) :=
  match agent.registry.call? run.invocations use.tool use.input with
  | some c => c.await agent.limits.toolTimeout
  | none => .prevented

/-! ### A closed world -/

/-- A model, as a function of the conversations it was sent before and the one it is sent. -/
structure Model where
  reply : (earlier : List (List Message)) → (conversation : List Message) →
    Call (Except Failure String)

/-- The surroundings of a run in a closed world. -/
def Model.surroundings (model : Model) (agent : Agent) : Surroundings Id where
  ask run := (model.reply run.conversations run.messages).await agent.limits.providerTimeout
  call run use := agent.callTool run use
  report _ _ := ()

/-- A whole run in a closed world. -/
def Agent.runWith (agent : Agent) (model : Model) (id : Uuid) (task : String) (cancelled : Bool) :
    Run :=
  Id.run <|
    (Run.start agent id task cancelled).drive (model.surroundings agent) agent
      agent.limits.responses

end Draftsman
