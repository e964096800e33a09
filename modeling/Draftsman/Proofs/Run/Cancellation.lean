/-
What becomes of a run that is called off.

A run learns that it was called off only from the responses that it is given, and from
what it finds when it looks.  Here it is watched from outside: beside the run stands
whether it has been called off by now, which may happen at any moment, and whether the
call that it waits for has begun.  A call begins only if the run has not been called off
by then; a call that has begun may still return, take too long, or be given up.

From the moment in which it is called off, a run takes one response at most, and then it
is over.  What that response leaves behind depends on the response alone, and is spelled
out by `Run.stepInHand` and `Event.endingOf`.
-/
import Mathlib.Logic.Relation
import Draftsman.Proofs.Run.Budget

namespace Draftsman

/-! ### Runs that are watched -/

/-- A run, whether it has been called off, and whether the call that it waits for has begun. -/
structure Watch where
  run : Run
  off : Bool
  begun : Bool

/-- Whether a call can come to a response, given what there is to be seen from outside. -/
def Response.Fits {α : Type} (off begun : Bool) : Response α → Prop
  | .prevented => off = true ∧ begun = false
  | .interrupted => off = true ∧ begun = true
  | .timedOut cancelled => begun = true ∧ cancelled = off
  | .returned _ cancelled => begun = true ∧ cancelled = off

/-- The next thing to be seen of a run. -/
inductive Watch.Step (agent : Agent) : Watch → Watch → Prop
  /-- The run is called off. -/
  | callOff (w : Watch) : Step agent w { w with off := true }
  /-- The call begins that the run waits for. -/
  | commence (w : Watch) (waiting : w.run.stage.phase.isTerminal = false) (on : w.off = false)
      (fresh : w.begun = false) : Step agent w { w with begun := true }
  /-- The run takes what came of asking the model. -/
  | model (w : Watch) (awaited : w.run.stage = .awaitingModel)
      (response : Response (Except Failure String)) (fits : response.Fits w.off w.begun) :
      Step agent w ⟨w.run.onModel agent response, w.off, false⟩
  /-- The run takes what came of calling a tool. -/
  | tool (w : Watch) (use : ToolUse) (awaited : w.run.stage = .awaitingTool use)
      (response : Response (Except ToolFault String)) (fits : response.Fits w.off w.begun) :
      Step agent w ⟨w.run.onTool agent use response, w.off, false⟩

/-- What can be seen later on. -/
def Watch.Later (agent : Agent) : Watch → Watch → Prop := Relation.ReflTransGen (Watch.Step agent)

/-- The run on a task as it begins; it may have been called off before. -/
def Watch.start (agent : Agent) (id : Uuid) (task : String) (off : Bool) : Watch :=
  ⟨Run.start agent id task off, off, false⟩

/-- What can be seen of the runs on a task. -/
def Watched (agent : Agent) (id : Uuid) (task : String) (w : Watch) : Prop :=
  ∃ off, (Watch.start agent id task off).Later agent w

/-- Whether the run is over. -/
def Watch.Over (w : Watch) : Prop := w.run.stage.phase.isTerminal = true

/-- The conversations that the model has been sent, the one of a call under way included. -/
def Watch.asked (w : Watch) : List (List Message) :=
  match w.run.stage with
  | .awaitingModel => (w.run.noteAsked w.begun).conversations
  | _ => w.run.conversations

/-- The calls of tools that have begun, the one under way included. -/
def Watch.called (w : Watch) : List Invocation :=
  match w.run.stage with
  | .awaitingTool use => (w.run.noteCalled use w.begun).invocations
  | _ => w.run.invocations

/-! ### The response in hand -/

/-- How a run ends that has been called off, given the response in hand. -/
def Event.endingOf (id : Uuid) : Event → Stage
  | .model (.returned (.error failure) _) => .failed failure
  | .model (.returned (.ok reply) _) =>
    match Reply.decision reply with
    | .ok (.conclude _ answer) => .finished answer
    | _ => .failed (.cancelled id)
  | _ => .failed (.cancelled id)

/-- The step that is recorded of the response in hand although the run has been called off. -/
def Run.stepInHand (agent : Agent) (run : Run) : Event → Option Step
  | .model (.returned (.ok reply) _) =>
    match Reply.decision reply with
    | .ok (.conclude thought answer) => some (Step.final thought answer)
    | .ok (.act thought tool input) =>
      if agent.registry.contains tool then none
      else some ⟨thought, tool, input, Run.unknownToolText agent.registry tool⟩
    | .error _ => none
  | .tool response =>
    match run.stage, response with
    | .awaitingTool use, .returned outcome _ => some (use.observed (Run.outcomeText outcome))
    | .awaitingTool use, .timedOut _ =>
      some (use.observed (Run.timeoutText agent.limits use.tool))
    | _, _ => none
  | _ => none

/-- Whether a response is the one that a run waits for. -/
def Watch.Awaits (w : Watch) : Event → Prop
  | .model response => w.run.stage = .awaitingModel ∧ response.Fits w.off w.begun
  | .tool response => ∃ use, w.run.stage = .awaitingTool use ∧ response.Fits w.off w.begun

/-- What a run makes of the response in hand after it has been called off. -/
structure SettledBy (agent : Agent) (event : Event) (w w' : Watch) : Prop where
  off : w'.off = true
  id : w'.run.id = w.run.id
  stage : w'.run.stage = event.endingOf w.run.id
  steps : w'.run.steps = w.run.steps ++ (w.run.stepInHand agent event).toList
  asked : w'.asked = w.asked
  called : w'.called = w.called

variable {agent : Agent} {id : Uuid} {task : String}

/-- A run that has been called off does not ask the model again, whatever is left of its budget. -/
theorem Run.next_off (run : Run) : run.next agent true = run.cancel := rfl

/-- A reply that comes after the run has been called off. -/
theorem settled_reply {w : Watch} (off : w.off = true) (begun : w.begun = true)
    (awaited : w.run.stage = .awaitingModel) (reply : String) :
    SettledBy agent (.model (.returned (.ok reply) true)) w
      ⟨w.run.onModel agent (.returned (.ok reply) true), w.off, false⟩ := by
  cases said : Reply.decision reply with
  | error fault =>
    by_cases blank : Text.blankString reply = true <;> constructor <;>
      simp [off, awaited, begun, said, blank, Run.onModel, Run.onReply, Run.remind, Run.next_off,
        Run.spend, Run.say, Response.started, Run.noteAsked, Run.cancel, Run.fail, Event.endingOf,
        Run.stepInHand, Watch.asked, Watch.called]
  | ok decision =>
    cases decision with
    | conclude thought answer =>
      constructor <;>
        simp [off, awaited, begun, said, Run.onModel, Run.onReply, Run.conclude, Run.record,
          Run.say, Response.started, Run.noteAsked, Event.endingOf, Run.stepInHand, Watch.asked,
          Watch.called]
    | act thought tool input =>
      cases found : agent.registry.contains tool <;> constructor <;>
        simp [off, awaited, begun, said, found, Run.onModel, Run.onReply, Run.act, Run.observe,
          Run.next_off, Run.spend, Run.record, Run.say, Response.started, Run.noteAsked,
          Run.cancel, Run.fail, Event.endingOf, Run.stepInHand, Watch.asked, Watch.called]

/-- What came of asking the model comes after the run has been called off. -/
theorem settled_model {w : Watch} (off : w.off = true) (awaited : w.run.stage = .awaitingModel)
    (response : Response (Except Failure String)) (fits : response.Fits w.off w.begun) :
    SettledBy agent (.model response) w ⟨w.run.onModel agent response, w.off, false⟩ := by
  rw [off] at fits
  cases response with
  | returned value cancelled =>
    obtain ⟨begun, rfl⟩ := fits
    cases value with
    | ok reply => exact settled_reply off begun awaited reply
    | error failure =>
      constructor <;>
        simp [off, awaited, begun, Run.onModel, Response.started, Run.noteAsked, Run.fail,
          Event.endingOf, Run.stepInHand, Watch.asked, Watch.called]
  | _ =>
    constructor <;>
      simp_all [Response.Fits, Run.onModel, Response.started, Run.noteAsked, Run.cancel, Run.fail,
        Run.next_off, Run.spend, Event.endingOf, Run.stepInHand, Watch.asked, Watch.called]

/-- What came of calling a tool comes after the run has been called off. -/
theorem settled_tool {w : Watch} {use : ToolUse} (off : w.off = true)
    (awaited : w.run.stage = .awaitingTool use) (response : Response (Except ToolFault String))
    (fits : response.Fits w.off w.begun) :
    SettledBy agent (.tool response) w ⟨w.run.onTool agent use response, w.off, false⟩ := by
  rw [off] at fits
  cases response <;> constructor <;>
    simp_all [Response.Fits, Run.onTool, Run.observe, Response.started, Run.noteCalled, Run.cancel,
      Run.fail, Run.next_off, Run.spend, Run.record, Run.say, Event.endingOf, Run.stepInHand,
      Watch.asked, Watch.called, ToolUse.observed]

/-! ### A run that has been called off -/

/-- Whatever a run has in hand when it is called off, it is over with it. -/
theorem Event.endingOf_isTerminal (id : Uuid) (event : Event) :
    (event.endingOf id).phase.isTerminal = true := by
  unfold Event.endingOf
  split
  · rfl
  · split <;> rfl
  · rfl

theorem SettledBy.ended {event : Event} {w w' : Watch} (settled : SettledBy agent event w w') :
    w'.Over := by
  rw [Watch.Over, settled.stage]
  exact event.endingOf_isTerminal _

/-- Nothing more can be seen of a run that has been called off and is over. -/
theorem Watch.Step.eq_of_over {w w' : Watch} (step : w.Step agent w') (off : w.off = true)
    (ended : w.Over) : w' = w := by
  cases step with
  | callOff => rw [← off]
  | commence _ on => exact absurd (off.symm.trans on) nofun
  | model awaited => exact absurd ended (by rw [Watch.Over, awaited]; exact nofun)
  | tool use awaited => exact absurd ended (by rw [Watch.Over, awaited]; exact nofun)

/-- A run that has been called off stays as it is until it is settled by a response. -/
theorem Watch.Step.settled {w w' : Watch} (step : w.Step agent w') (off : w.off = true) :
    w' = w ∨ ∃ event, w.Awaits event ∧ SettledBy agent event w w' := by
  cases step with
  | callOff => exact Or.inl (by rw [← off])
  | commence _ on => exact absurd (off.symm.trans on) nofun
  | model awaited response fits =>
    exact Or.inr ⟨.model response, ⟨awaited, fits⟩, settled_model off awaited response fits⟩
  | tool use awaited response fits =>
    exact Or.inr ⟨.tool response, ⟨use, awaited, fits⟩, settled_tool off awaited response fits⟩

/-- A run that has been called off takes one response at most. -/
theorem Watch.Later.settled {w w' : Watch} (later : w.Later agent w') (off : w.off = true) :
    w' = w ∨ ∃ event, w.Awaits event ∧ SettledBy agent event w w' := by
  induction later with
  | refl => exact Or.inl rfl
  | tail _ step ih =>
    obtain rfl | ⟨event, awaits, settled⟩ := ih
    · exact step.settled off
    · rw [step.eq_of_over settled.off settled.ended]
      exact Or.inr ⟨event, awaits, settled⟩

/-- Nothing keeps a run that has been called off from coming to its end. -/
theorem Watch.over_or_ends (w : Watch) (off : w.off = true) :
    w.Over ∨ ∃ w', w.Step agent w' ∧ w'.Over := by
  rcases w.run.stage.over_or_waiting with ended | awaited | ⟨use, awaited⟩
  · exact Or.inl ended
  · cases begun : w.begun with
    | false => exact Or.inr ⟨_, .model w awaited .prevented ⟨off, begun⟩, rfl⟩
    | true => exact Or.inr ⟨_, .model w awaited .interrupted ⟨off, begun⟩, rfl⟩
  · cases begun : w.begun with
    | false => exact Or.inr ⟨_, .tool w use awaited .prevented ⟨off, begun⟩, rfl⟩
    | true => exact Or.inr ⟨_, .tool w use awaited .interrupted ⟨off, begun⟩, rfl⟩

/-! ### Watched runs and courses -/

/-- A run that is watched has gone through a course. -/
theorem Watched.course {w : Watch} (watched : Watched agent id task w) :
    ∃ events, Course agent id task events w.run := by
  obtain ⟨off, later⟩ := watched
  induction later with
  | refl => exact ⟨[], .start off⟩
  | tail _ step ih =>
    obtain ⟨events, c⟩ := ih
    cases step with
    | callOff => exact ⟨events, c⟩
    | commence => exact ⟨events, c⟩
    | model awaited response => exact ⟨_, c.model awaited response⟩
    | tool use awaited response => exact ⟨_, c.tool awaited response⟩

/-- Runs that can be watched up to a response, and are over if they have been called off. -/
def Watchable (agent : Agent) (id : Uuid) (task : String) (run : Run) : Prop :=
  ∃ off, Watched agent id task ⟨run, off, false⟩ ∧ (off = true → run.stage.phase.isTerminal = true)

/-- What surrounds a run that is under way can come to any response. -/
theorem Watchable.comes_to {α : Type} {run : Run} (watchable : Watchable agent id task run)
    (waiting : run.stage.phase.isTerminal = false) (response : Response α) :
    ∃ off begun, Watched agent id task ⟨run, off, begun⟩ ∧ response.Fits off begun := by
  obtain ⟨off, ⟨first, seen⟩, ended⟩ := watchable
  cases off with
  | true => exact absurd ((ended rfl).symm.trans waiting) nofun
  | false =>
    have begins : (Watch.start agent id task first).Later agent ⟨run, false, true⟩ :=
      seen.tail (.commence _ waiting rfl rfl)
    have calledOff : (Watch.start agent id task first).Later agent ⟨run, true, true⟩ :=
      begins.tail (.callOff _)
    have returns : ∀ cancelled, ∃ off begun, Watched agent id task ⟨run, off, begun⟩ ∧
        begun = true ∧ cancelled = off := by
      intro cancelled
      cases cancelled with
      | false => exact ⟨false, true, ⟨first, begins⟩, rfl, rfl⟩
      | true => exact ⟨true, true, ⟨first, calledOff⟩, rfl, rfl⟩
    cases response with
    | prevented => exact ⟨true, false, ⟨first, seen.tail (.callOff _)⟩, rfl, rfl⟩
    | interrupted => exact ⟨true, true, ⟨first, calledOff⟩, rfl, rfl⟩
    | timedOut cancelled => exact returns cancelled
    | returned value cancelled => exact returns cancelled

/-- Every course can be watched. -/
theorem Course.watchable {events : List Event} {run : Run} (c : Course agent id task events run) :
    Watchable agent id task run := by
  induction c with
  | start cancelled =>
    refine ⟨cancelled, ⟨cancelled, .refl⟩, ?_⟩
    rintro rfl
    rfl
  | model before awaited response ih =>
    obtain ⟨off, begun, ⟨first, later⟩, fits⟩ := ih.comes_to (by rw [awaited]; rfl) response
    refine ⟨off, ⟨first, later.tail (.model _ awaited response fits)⟩, fun calledOff => ?_⟩
    exact (settled_model (w := ⟨_, off, begun⟩) calledOff awaited response fits).ended
  | tool before awaited response ih =>
    obtain ⟨off, begun, ⟨first, later⟩, fits⟩ := ih.comes_to (by rw [awaited]; rfl) response
    refine ⟨off, ⟨first, later.tail (.tool _ _ awaited response fits)⟩, fun calledOff => ?_⟩
    exact (settled_tool (w := ⟨_, off, begun⟩) calledOff awaited response fits).ended

/-- A run keeps its identifier, and the steps that it keeps are those it has reported. -/
theorem Course.id_reported {events : List Event} {run : Run} (c : Course agent id task events run) :
    run.id = id ∧ run.reported = run.steps := by
  cases c.standing <;> exact ⟨rfl, rfl⟩

/-! ### How a run ends that is called off -/

/-- What becomes of a run that has been called off: what is seen of it later, and how it ends. -/
structure CalledOff (agent : Agent) (id : Uuid) (w w' : Watch) : Prop where
  /-- The model is not asked again. -/
  asked : w'.asked = w.asked
  /-- No tool is called any more. -/
  called : w'.called = w.called
  /-- One response is taken at most, and the run ends with it as it must. -/
  response : w' = w ∨ ∃ event, w.Awaits event ∧
    w'.run.stage = event.endingOf id ∧
    w'.run.steps = w.run.steps ++ (w.run.stepInHand agent event).toList
  /-- The run is over, or nothing keeps it from coming to its end. -/
  ends : w'.Over ∨ ∃ later, w'.Step agent later ∧ later.Over
  /-- If it has failed, then with the steps that it has reported. -/
  reported : ∀ startedAt finishedAt failure,
    w'.run.outcome? agent startedAt finishedAt = some (.error failure) →
      failure.steps = w'.run.reported

/--
**A run that is called off takes what it has in hand, and is over.**  From that moment
on neither the model is asked nor a tool is called, and at most one step is recorded,
that of the response in hand.  The run is finished if this is a reply that concludes,
fails with the failure of the model if it is one, and has been called off in every
other case.  A run that was called off before it began does nothing at all.  Every
course of a run is among the runs that are watched here.
-/
theorem called_off_ends (agent : Agent) (id : Uuid) (task : String) :
    (∀ events run, Course agent id task events run → Watchable agent id task run) ∧
    (∀ w, (Watch.start agent id task true).Later agent w →
      w.run.stage = .failed (.cancelled id) ∧ w.run.steps = [] ∧ w.asked = [] ∧ w.called = []) ∧
    ∀ w w', Watched agent id task w → w.off = true → w.Later agent w' →
      CalledOff agent id w w' := by
  refine ⟨fun events run c => c.watchable, ?_, ?_⟩
  · intro w later
    obtain rfl | ⟨event, awaits, -⟩ := later.settled rfl
    · exact ⟨rfl, rfl, rfl, rfl⟩
    · cases event with
      | model response => exact nomatch awaits.1
      | tool response => exact nomatch awaits.choose_spec.1
  · intro w w' watched off later
    obtain ⟨first, before⟩ := watched
    obtain ⟨events, c⟩ := Watched.course ⟨first, before⟩
    obtain ⟨events', c'⟩ := Watched.course ⟨first, before.trans later⟩
    have still : w'.off = true := by
      obtain rfl | ⟨event, -, settled⟩ := later.settled off
      · exact off
      · exact settled.off
    have steps : ∀ startedAt finishedAt failure,
        w'.run.outcome? agent startedAt finishedAt = some (.error failure) →
          failure.steps = w'.run.reported := by
      intro startedAt finishedAt failure h
      rw [c'.id_reported.2]
      unfold Run.outcome? at h
      split at h <;> cases h
      rfl
    obtain rfl | ⟨event, awaits, settled⟩ := later.settled off
    · exact ⟨rfl, rfl, Or.inl rfl, Watch.over_or_ends _ off, steps⟩
    · refine ⟨settled.asked, settled.called, Or.inr ⟨event, awaits, ?_, settled.steps⟩,
        Or.inl settled.ended, steps⟩
      rw [settled.stage, c.id_reported.1]

/-- A run is called off during the last call that its budget allows: the call still counts. -/
theorem called_off_ends_look :
    ∃ w w', Watched (.looking 1) .nil "draw" w ∧ w.off = true ∧ w.Later (.looking 1) w' ∧
      w'.run.stage = .failed (.cancelled .nil) ∧ w'.run.iterations = 1 ∧
      w'.run.steps.length = 1 ∧ w'.called = [("look", "")] ∧ w'.asked.length = 1 := by
  let waiting : Run := (Run.start (.looking 1) .nil "draw" false).onModel (.looking 1)
    (.returned (.ok "Action: look") false)
  have watched : Watched (.looking 1) .nil "draw" ⟨waiting, true, true⟩ :=
    ⟨false, .tail (.tail (.tail (.single (.commence _ rfl rfl rfl))
      (.model _ rfl (.returned (.ok "Action: look") false) ⟨rfl, rfl⟩))
      (.commence _ rfl rfl rfl)) (.callOff _)⟩
  have later : (Watch.mk waiting true true).Later (.looking 1)
      ⟨waiting.onTool (.looking 1) ⟨"", "look", ""⟩ (.returned (.ok "") true), true, false⟩ :=
    .single (.tool _ ⟨"", "look", ""⟩ rfl (.returned (.ok "") true) ⟨rfl, rfl⟩)
  have ended := (called_off_ends (.looking 1) .nil "draw").2.2 _ _ watched rfl later
  refine ⟨_, _, watched, rfl, later, rfl, rfl, rfl, ?_, ?_⟩
  · rw [ended.called]
    rfl
  · rw [ended.asked]
    rfl

end Draftsman
