/-
What is heard of a run by those who surround it.

A run notes the steps that it has reported and the calls that it has made, as if it were
looking over its own shoulder.  Here somebody else listens: the steps are taken down as they
are told, and the calls as they begin.  Whatever surrounds the run, the two accounts agree,
so that what is shown of the notes of a run holds of what it really does.

`Run.onModel_adds` and `Run.onTool_adds` say what one response adds to the notes.
-/
import Draftsman.Proofs.Run.Cancellation

namespace Draftsman

open Draftsman.Text (blankString)

variable {agent : Agent} {id : Uuid} {task : String}

/-! ### What one response adds to a run -/

/-- Whether the model is asked again makes a difference to what a run waits for, and to no more. -/
theorem Run.next_eq (run : Run) (cancelled : Bool) :
    run.next agent cancelled = { run with stage := (run.next agent cancelled).stage } := by
  unfold Run.next
  split
  · rfl
  · split <;> rfl

@[simp] theorem Run.next_steps (run : Run) (cancelled : Bool) :
    (run.next agent cancelled).steps = run.steps := by rw [Run.next_eq]

@[simp] theorem Run.next_reported (run : Run) (cancelled : Bool) :
    (run.next agent cancelled).reported = run.reported := by rw [Run.next_eq]

@[simp] theorem Run.next_invocations (run : Run) (cancelled : Bool) :
    (run.next agent cancelled).invocations = run.invocations := by rw [Run.next_eq]

@[simp] theorem Run.noteAsked_steps (run : Run) (begun : Bool) :
    (run.noteAsked begun).steps = run.steps := by
  cases begun <;> rfl

@[simp] theorem Run.noteAsked_reported (run : Run) (begun : Bool) :
    (run.noteAsked begun).reported = run.reported := by
  cases begun <;> rfl

@[simp] theorem Run.noteAsked_invocations (run : Run) (begun : Bool) :
    (run.noteAsked begun).invocations = run.invocations := by
  cases begun <;> rfl

/-- One run has come of another by recording and reporting some steps and making some calls. -/
structure Adds (more : List Step) (calls : List Invocation) (run next : Run) : Prop where
  steps : next.steps = run.steps ++ more
  reported : next.reported = run.reported ++ more
  invocations : next.invocations = run.invocations ++ calls

/-- What came of asking the model adds one step at most, and no call. -/
theorem Run.onModel_adds (agent : Agent) (run : Run) (response : Response (Except Failure String)) :
    Adds (run.stepInHand agent (.model response)).toList [] run (run.onModel agent response) := by
  cases response with
  | prevented => constructor <;> simp [Run.onModel, Run.stepInHand, cancel, fail]
  | interrupted => constructor <;> simp [Run.onModel, Run.stepInHand, cancel, fail]
  | timedOut cancelled => constructor <;> simp [Run.onModel, Run.stepInHand, spend]
  | returned value cancelled =>
    cases value with
    | error failure => constructor <;> simp [Run.onModel, Run.stepInHand, fail]
    | ok reply =>
      cases said : Reply.decision reply with
      | error fault =>
        by_cases blank : blankString reply = true <;> constructor <;>
          simp [Run.onModel, onReply, said, remind, blank, Run.stepInHand, spend, say]
      | ok decision =>
        cases decision with
        | conclude thought answer =>
          constructor <;>
            simp [Run.onModel, onReply, said, conclude, Run.stepInHand, record, say]
        | act thought tool input =>
          cases found : agent.registry.contains tool <;> cases cancelled <;> constructor <;>
            simp [Run.onModel, onReply, said, act, found, observe, Run.stepInHand,
              record, say, spend, cancel, fail]

/-- What came of calling a tool adds the call if it began, and its step if it was observed. -/
theorem Run.onTool_adds (agent : Agent) {run : Run} {use : ToolUse}
    (awaited : run.stage = .awaitingTool use) (response : Response (Except ToolFault String)) :
    Adds (run.stepInHand agent (.tool response)).toList
      (if response.started then [(use.tool, use.input)] else []) run
      (run.onTool agent use response) := by
  cases response <;> constructor <;>
    simp [Run.onTool, observe, Run.stepInHand, awaited, noteCalled, Response.started, record, say,
      spend, cancel, fail, ToolUse.observed]

/-! ### Listening -/

/-- What has been heard of a run. -/
structure Heard where
  /-- The steps that were told, with their numbers. -/
  steps : List (Step × Nat)
  /-- The calls of tools that began. -/
  calls : List Invocation

/-- What is to be heard of a run, going by its own notes. -/
def Run.told (run : Run) : Heard := ⟨run.reported.zipIdx 1, run.invocations⟩

section Listening

variable {m : Type → Type} [Monad m]

/-- Surroundings that take down what they hear. -/
def Surroundings.listening (s : Surroundings m) : Surroundings (StateT Heard m) where
  ask run := StateT.lift (s.ask run)
  call run use := fun heard =>
    (fun response =>
      (response, { heard with
        calls := heard.calls ++ if response.started then [(use.tool, use.input)] else [] })) <$>
      s.call run use
  report number step := fun heard =>
    (fun _ => ((), { heard with steps := heard.steps ++ [(step, number)] })) <$>
      s.report number step

@[simp] theorem listening_ask [LawfulMonad m] (s : Surroundings m) (run : Run) (heard : Heard) :
    (s.listening.ask run).run heard = (fun response => (response, heard)) <$> s.ask run := by
  simp [Surroundings.listening]

@[simp] theorem listening_call (s : Surroundings m) (run : Run) (use : ToolUse) (heard : Heard) :
    (s.listening.call run use).run heard
      = (fun response =>
          (response, { heard with
            calls := heard.calls ++ if response.started then [(use.tool, use.input)] else [] })) <$>
          s.call run use := rfl

@[simp] theorem listening_report (s : Surroundings m) (number : Nat) (step : Step)
    (heard : Heard) :
    (s.listening.report number step).run heard
      = (fun _ => ((), { heard with steps := heard.steps ++ [(step, number)] })) <$>
          s.report number step := rfl

variable [LawfulMonad m]

/-- Steps that are told one after the other are heard in that order. -/
theorem listening_forM (s : Surroundings m) (steps : List (Step × Nat)) (heard : Heard) :
    (steps.forM fun (step, number) => s.listening.report number step).run heard
      = (fun _ => ((), { heard with steps := heard.steps ++ steps })) <$>
          steps.forM fun (step, number) => s.report number step := by
  simp only [List.forM_eq_forM]
  induction steps generalizing heard with
  | nil => simp
  | cons first rest ih =>
    rw [List.forM_cons, List.forM_cons, StateT.run_bind, listening_report]
    simp [ih]

/-- After a move all is heard that is to be heard of it, if its calls have been heard before. -/
theorem listening_reportSince (s : Surroundings m) {run next : Run} {more : List Step}
    {calls : List Invocation} (adds : Adds more calls run next) :
    (run.reportSince s.listening next).run { run.told with calls := run.told.calls ++ calls }
      = (fun _ => ((), next.told)) <$> run.reportSince s next := by
  have all : next.reported.zipIdx 1
      = run.reported.zipIdx 1 ++ more.zipIdx (1 + run.reported.length) := by
    rw [adds.reported, List.zipIdx_append]
  unfold Run.reportSince Run.told
  rw [all, adds.invocations, List.drop_left' (List.length_zipIdx ..)]
  exact listening_forM s _ _

/-- Whatever surrounds a run, all is heard of it that is to be heard. -/
theorem listening_drive (agent : Agent) (s : Surroundings m) (fuel : Nat) (run : Run) :
    (run.drive s.listening agent fuel).run run.told
      = (fun ended => (ended, ended.told)) <$> run.drive s agent fuel := by
  induction fuel generalizing run with
  | zero => simp [Run.drive]
  | succ fuel ih =>
    rcases run.stage.over_or_waiting with ended | awaited | ⟨use, awaited⟩
    · rw [drive_over s.listening ended, drive_over s ended]
      simp
    · have heard : ∀ response,
          (run.reportSince s.listening (run.onModel agent response)).run run.told
            = (fun _ => ((), (run.onModel agent response).told)) <$>
              run.reportSince s (run.onModel agent response) := by
        intro response
        have adds := listening_reportSince s (run.onModel_adds agent response)
        rwa [List.append_nil] at adds
      simp [Run.drive, awaited, heard, ih]
    · have heard := fun response =>
        listening_reportSince s (Run.onTool_adds agent awaited response)
      simp [Run.drive, awaited, heard, ih]

/-- What is heard of a run from its beginning are the steps and the calls that it has noted. -/
theorem listening_start (s : Surroundings m) (cancelled : Bool) :
    ((Run.start agent id task cancelled).drive s.listening agent agent.limits.responses).run
        ⟨[], []⟩
      = (fun ended => (ended, ⟨ended.steps.zipIdx 1, ended.invocations⟩)) <$>
          (Run.start agent id task cancelled).drive s agent agent.limits.responses := by
  have heard := listening_drive agent s agent.limits.responses (Run.start agent id task cancelled)
  have fresh : (Run.start agent id task cancelled).told = ⟨[], []⟩ := by
    simp [Run.told, Run.start]
  obtain ⟨ended, same⟩ : ∃ ended : m (EndedRun agent id task), _ := start_ends s cancelled
  rw [fresh] at heard
  rw [heard, ← same, Functor.map_map, Functor.map_map]
  refine congrArg (· <$> ended) (funext fun last => ?_)
  obtain ⟨-, events, c⟩ := last.property
  rw [Run.told, c.id_reported.2]

end Listening

end Draftsman
