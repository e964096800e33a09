/-
What a run records.

A run records a step for every action and one for its answer, and reports each of them as
it is recorded.  What is observed in a step for an action is never blank, whatever the tool
has returned and however it has failed, and the action is never empty; so the last step of
a result is the only one that has nothing to show.

Whoever listens to a run hears of each step once, and in the order in which they are kept.
-/
import Draftsman.Proofs.Run.Conversation
import Draftsman.Proofs.Run.FinalStep
import Draftsman.Proofs.Run.Heard
import Draftsman.Proofs.Run.KeptCall
import Draftsman.Proofs.Text.Blank

namespace Draftsman

open Draftsman.Text (blankString blankString_append)

variable {agent : Agent} {id : Uuid} {task : String}

/-! ### Observations -/

theorem unknownToolText_solid (r : Registry) (name : String) :
    blankString (Run.unknownToolText r name) = false := by
  show blankString ("Error: unknown tool '" ++ name ++ "'. Available tools: " ++ nameListing r)
    = false
  have solid : blankString "Error: unknown tool '" = false := rfl
  simp only [blankString_append, solid, Bool.false_and]

theorem timeoutText_solid (limits : Limits) (name : String) :
    blankString (Run.timeoutText limits name) = false := by
  show blankString ("Error: tool '" ++ name ++ "' timed out after "
    ++ toString (wholeSeconds limits.toolTimeout) ++ "s") = false
  have solid : blankString "Error: tool '" = false := rfl
  simp only [blankString_append, solid, Bool.false_and]

/-- Whatever a tool has returned, and however it has failed, there is something to be seen. -/
theorem outcomeText_solid (outcome : Except ToolFault String) :
    blankString (Run.outcomeText outcome) = false := by
  cases outcome with
  | ok output =>
    by_cases blank : blankString output = true
    · rw [Run.outcomeText, if_pos blank]
      rfl
    · rw [Run.outcomeText, if_neg blank]
      exact Bool.eq_false_iff.mpr blank
  | error fault =>
    show blankString ("Error: " ++ fault.message) = false
    have solid : blankString "Error: " = false := rfl
    rw [blankString_append, solid, Bool.false_and]

theorem observationOf_solid (limits : Limits) (use : ToolUse)
    (result : Option (Except ToolFault String)) :
    blankString (observationOf limits use result) = false := by
  cases result with
  | none => exact timeoutText_solid limits use.tool
  | some outcome => exact outcomeText_solid outcome

/-! ### Steps -/

/-- A step that names an action, and tells what was observed. -/
structure Step.Telling (step : Step) : Prop where
  action : step.action ≠ ""
  observation : blankString step.observation = false

/-- A reply that uses a tool names it. -/
theorem ToolUse.named {reply : String} {use : ToolUse}
    (said : Reply.decision reply = .ok use.decision) : use.tool ≠ "" :=
  ((Reply.decision_eq_act_iff _ _ _).mp ⟨use.thought, said⟩).1

/-- The steps of rounds tell what was done and what was observed. -/
theorem telling_stepsOf {rounds : List (Round agent)} {step : Step}
    (mem : step ∈ stepsOf rounds) : step.Telling := by
  obtain ⟨query, asked, recorded⟩ := List.mem_filterMap.mp mem
  obtain ⟨round, -, rfl⟩ := List.mem_map.mp asked
  cases round with
  | silent cancelled => cases recorded
  | unread reply cancelled fault said => cases recorded
  | refused reply use cancelled said missing =>
    cases recorded
    exact ⟨ToolUse.named said, unknownToolText_solid _ _⟩
  | used reply use result cancelled said found =>
    cases recorded
    exact ⟨ToolUse.named said, observationOf_solid _ _ _⟩

/-- What the steps of a run tell, and what is left of them when it is over. -/
structure Recorded (agent : Agent) (run : Run) : Prop where
  /-- The steps are those that were reported, in the order in which they were. -/
  reported : run.steps = run.reported
  /-- Every step for an action names it, and tells what was observed. -/
  actions : ∀ step ∈ run.actionSteps, step.Telling
  /-- A result has all steps, and the last one of them has the answer and nothing to tell. -/
  result : ∀ startedAt finishedAt result,
    run.outcome? agent startedAt finishedAt = some (.ok result) →
    result.steps = run.reported ∧ result.totalSteps = result.steps.length ∧
      (∀ step ∈ result.steps.dropLast, step.Telling) ∧
      ∃ last, result.steps.getLast? = some last ∧ last.action = "Final Answer" ∧
        last.input = result.finalAnswer ∧ last.observation = ""
  /-- A failure has all steps, and every one of them has something to tell. -/
  failure : ∀ startedAt finishedAt failure,
    run.outcome? agent startedAt finishedAt = some (.error failure) →
    failure.steps = run.reported ∧ failure.report.steps = failure.steps ∧
      failure.report.totalSteps = failure.steps.length ∧ ∀ step ∈ failure.steps, step.Telling

theorem Course.recorded {events : List Event} {run : Run} (c : Course agent id task events run) :
    Recorded agent run := by
  obtain ⟨rounds, accounted⟩ := c.accountedBy
  have actions : ∀ step ∈ run.actionSteps, step.Telling := by
    intro step mem
    rw [accounted.actionSteps_eq] at mem
    exact telling_stepsOf mem
  have reported := c.id_reported.2
  refine ⟨reported.symm, actions, ?_, ?_⟩
  · intro startedAt finishedAt result left
    obtain ⟨finished, kept, total⟩ := Run.finished_of_outcome? left
    obtain ⟨thought, steps⟩ := c.finished_steps finished
    rw [kept, reported, total]
    refine ⟨rfl, rfl, ?_, Step.final thought result.finalAnswer, ?_, rfl, rfl, rfl⟩
    · rw [steps, List.dropLast_concat]
      exact actions
    · rw [steps, List.getLast?_concat]
  · intro startedAt finishedAt failure left
    obtain ⟨failed, kept, -⟩ := Run.failed_of_outcome? left
    unfold Run.actionSteps at actions
    rw [failed] at actions
    rw [kept, reported]
    exact ⟨rfl, kept, congrArg List.length kept, actions⟩

/--
**A run keeps what it reports, and what it keeps tells something.**  Whatever the model
writes and whatever becomes of its tools, every step for an action names the action and
tells what was observed; only the last step of a result, which has the answer, does not.
And whatever surrounds a run, the steps that are heard of it are the steps that it keeps.
-/
theorem transcript_tells (agent : Agent) (id : Uuid) (task : String) :
    (∀ events run, Course agent id task events run → Recorded agent run) ∧
    ∀ (m : Type → Type) [Monad m] [LawfulMonad m] (s : Surroundings m) (cancelled : Bool),
      let start := Run.start agent id task cancelled
      (fun last => (last.1, last.2.steps)) <$>
          (start.drive s.listening agent agent.limits.responses).run ⟨[], []⟩
        = (fun ended => (ended, ended.steps.zipIdx 1)) <$>
            start.drive s agent agent.limits.responses := by
  refine ⟨fun _ _ c => c.recorded, ?_⟩
  intro m _ _ s cancelled start
  rw [listening_start, Functor.map_map]

/-- A tool that returns nothing, and a tool that is not there, both leave something to be seen. -/
theorem transcript_tells_look :
    ∃ run result, Course (.looking 3) .nil "draw"
        [.model (.returned (.ok "Action: look") false), .tool (.returned (.ok "\n") false),
          .model (.returned (.ok "Action: peek") false),
          .model (.returned (.ok "Final Answer: done") false)] run ∧
      run.outcome? (.looking 3) ⟨0, 0⟩ ⟨1, 0⟩ = some (.ok result) ∧ result.totalSteps = 3 ∧
      result.steps.map Step.observation
        = ["(no output)", "Error: unknown tool 'peek'. Available tools: look", ""] ∧
      ∀ step ∈ result.steps.dropLast, step.Telling := by
  have c : Course (.looking 3) .nil "draw"
      [.model (.returned (.ok "Action: look") false), .tool (.returned (.ok "\n") false),
        .model (.returned (.ok "Action: peek") false),
        .model (.returned (.ok "Final Answer: done") false)] _ :=
    ((((Course.start false).model rfl (.returned (.ok "Action: look") false)).tool rfl
      (.returned (.ok "\n") false)).model rfl (.returned (.ok "Action: peek") false)).model rfl
      (.returned (.ok "Final Answer: done") false)
  have told := ((transcript_tells _ _ _).1 _ _ c).result ⟨0, 0⟩ ⟨1, 0⟩ _ rfl
  exact ⟨_, _, c, rfl, told.2.1, rfl, told.2.2.1⟩

end Draftsman
