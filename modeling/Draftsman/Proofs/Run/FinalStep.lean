/-
Which steps pass for the one with the answer.

A step is taken for the one with the answer because of what its action is called.  No
tool can be called so, but a reply can ask for a tool that is not there, and the step
that is then recorded has the name the reply made up.  Such a reply is the only way in
which a step for an action comes to be taken for the answer.  A run that was given none
has its answer in the last step of a result, and nowhere else.
-/
import Draftsman.Proofs.Agent.Registry
import Draftsman.Proofs.Run.Course

namespace Draftsman

/-! ### Replies that name the action of an answer -/

/-- Whether the model wrote a reply that uses a tool with the name of the last action. -/
def Event.namesAnswer : Event → Bool
  | .model (.returned (.ok reply) _) =>
    match Reply.decision reply with
    | .ok (.act _ name _) => name == finalAction
    | _ => false
  | _ => false

theorem Event.namesAnswer_use {reply : String} {use : ToolUse}
    (said : Reply.decision reply = .ok use.decision) (cancelled : Bool) :
    Event.namesAnswer (.model (.returned (.ok reply) cancelled)) = (use.tool == finalAction) := by
  simp only [Event.namesAnswer, said, ToolUse.decision]

theorem Event.namesAnswer_tool (response : Response (Except ToolFault String)) :
    Event.namesAnswer (.tool response) = false := rfl

/-- Nothing that the run was given names the action of an answer for a tool. -/
def Plain (events : List Event) : Prop := ∀ event ∈ events, event.namesAnswer = false

/-- What the steps of a run have to do with replies that name the action of an answer. -/
structure AnswerMarked (agent : Agent) (events : List Event) (run : Run) : Prop where
  /-- No step for an action passes for the answer, unless a reply named it so. -/
  actions : (∀ step ∈ run.actionSteps, step.isFinal = false) ↔ Plain events
  /-- A result ends with its answer, behind the steps for actions. -/
  ends : ∀ startedAt finishedAt result,
    run.outcome? agent startedAt finishedAt = some (.ok result) →
    ∃ thought, result.steps = run.actionSteps ++ [Step.final thought result.finalAnswer]
  /-- The last step of a result and no other passes for the answer, unless a reply named one so. -/
  last : ∀ startedAt finishedAt result,
    run.outcome? agent startedAt finishedAt = some (.ok result) →
    ((∀ (k : Nat) (h : k < result.steps.length),
      result.steps[k].isFinal = true ↔ k + 1 = result.steps.length) ↔ Plain events)
  /-- The steps that used a tool are all but the last one, unless a reply named one so. -/
  toolSteps : ∀ startedAt finishedAt result,
    run.outcome? agent startedAt finishedAt = some (.ok result) →
    (result.toolSteps = result.steps.dropLast ↔ Plain events)
  /-- No step of a failed run passes for the answer, unless a reply named one so. -/
  failed : ∀ startedAt finishedAt failure,
    run.outcome? agent startedAt finishedAt = some (.error failure) →
    ((∀ step ∈ failure.steps, step.isFinal = false) ↔ Plain events)

variable {agent : Agent} {id : Uuid} {task : String}

/-! ### Rounds -/

/-- A round records a step that passes for the answer exactly if its reply named it so. -/
theorem plain_round (round : Round agent) :
    Plain round.events ↔ ∀ step ∈ round.query.step?, step.isFinal = false := by
  unfold Plain
  cases round with
  | silent cancelled => simp [Round.query, Query.step?, Round.events, Event.namesAnswer]
  | unread reply cancelled fault said =>
    simp [Round.query, Query.step?, Round.events, Event.namesAnswer, said]
  | refused reply use cancelled said missing =>
    simp [Round.query, Query.step?, Round.events, Event.namesAnswer_use said, Step.isFinal,
      ToolUse.observed]
  | used reply use result cancelled said found =>
    simp [Round.query, Query.step?, Round.events, Event.namesAnswer_use said, Step.isFinal,
      ToolUse.observed, Event.namesAnswer_tool]

theorem plain_append (before after : List Event) :
    Plain (before ++ after) ↔ Plain before ∧ Plain after := List.forall_mem_append

theorem plain_eventsOf (rounds : List (Round agent)) :
    Plain (eventsOf rounds) ↔ ∀ step ∈ stepsOf rounds, step.isFinal = false := by
  induction rounds with
  | nil => exact iff_of_true nofun nofun
  | cons round rest ih =>
    rw [eventsOf_cons, stepsOf_cons, plain_append, plain_round, ih, List.forall_mem_append]
    simp

/-- A reply that uses a tool that is there does not name the action of an answer. -/
theorem Event.namesAnswer_found (orderly : agent.registry.Orderly) {reply : String} {use : ToolUse}
    (said : Reply.decision reply = .ok use.decision)
    (found : agent.registry.contains use.tool = true) (cancelled : Bool) :
    Event.namesAnswer (.model (.returned (.ok reply) cancelled)) = false := by
  rw [Event.namesAnswer_use said, beq_eq_false_iff_ne]
  intro same
  rw [same, orderly.not_contains_finalAction] at found
  cases found

/-- What a run was given beyond its rounds does not name the action of an answer. -/
theorem Course.plain_iff (orderly : agent.registry.Orderly) {events : List Event} {run : Run}
    (c : Course agent id task events run) :
    Plain events ↔ ∀ step ∈ run.actionSteps, step.isFinal = false := by
  -- The steps for actions are those of the rounds, so that it is enough to look at the rest.
  have further : ∀ (rounds : List (Round agent)) (rest : List Event), Plain rest →
      (Plain (eventsOf rounds ++ rest) ↔ ∀ step ∈ stepsOf rounds, step.isFinal = false) := by
    intro rounds rest plain
    rw [plain_append, plain_eventsOf, and_iff_left plain]
  cases c.standing with
  | head rounds bound => exact plain_eventsOf rounds
  | headOff rounds bound => exact plain_eventsOf rounds
  | exhausted rounds full => exact plain_eventsOf rounds
  | unasked rounds bound => exact further rounds _ (by simp [Plain, Event.namesAnswer])
  | askedOff rounds bound => exact further rounds _ (by simp [Plain, Event.namesAnswer])
  | modelFailed rounds failure cancelled bound =>
    exact further rounds _ (by simp [Plain, Event.namesAnswer])
  | concluded rounds reply thought answer cancelled said bound =>
    rw [Run.conclude_actionSteps]
    exact further rounds _ (by simp [Plain, Event.namesAnswer, said])
  | uncalled rounds reply use rest said found late bound =>
    have plain := Event.namesAnswer_found orderly said found
    refine further rounds _ ?_
    rcases late with rfl | rfl
    · simp [Plain, plain]
    · simp [Plain, plain, Event.namesAnswer_tool]
  | awaitingTool rounds reply use said found bound =>
    have plain := Event.namesAnswer_found orderly said found
    exact further rounds _ (by simp [Plain, plain])
  | calledOff rounds reply use said found bound =>
    have plain := Event.namesAnswer_found orderly said found
    exact further rounds _ (by simp [Plain, plain, Event.namesAnswer_tool])

/-- A finished run has recorded its answer behind the steps for actions. -/
theorem Course.finished_steps {events : List Event} {run : Run}
    (c : Course agent id task events run) {answer : String}
    (finished : run.stage = .finished answer) :
    ∃ thought, run.steps = run.actionSteps ++ [Step.final thought answer] := by
  cases c.standing with
  | concluded rounds reply thought other cancelled said bound =>
    cases finished
    refine ⟨thought, ?_⟩
    rw [Run.conclude_actionSteps]
    rfl
  | _ => cases finished

/-! ### Lists of steps that end with an answer -/

theorem Step.final_isFinal (thought answer : String) : (Step.final thought answer).isFinal = true :=
  beq_self_eq_true _

/-- The steps but the last one are no answers if each position but the last one is none. -/
theorem isFinal_iff_last (steps : List Step) (thought answer : String) :
    (∀ (k : Nat) (h : k < (steps ++ [Step.final thought answer]).length),
      (steps ++ [Step.final thought answer])[k].isFinal = true
        ↔ k + 1 = (steps ++ [Step.final thought answer]).length)
      ↔ ∀ step ∈ steps, step.isFinal = false := by
  constructor
  · intro last step mem
    obtain ⟨k, hk, rfl⟩ := List.getElem_of_mem mem
    have here := last k (by simp; omega)
    rw [List.getElem_append_left hk] at here
    rw [Bool.eq_false_iff, ne_eq, here]
    simp
    omega
  · intro plain k hk
    rw [List.length_append, List.length_singleton] at hk ⊢
    by_cases early : k < steps.length
    · rw [List.getElem_append_left early, plain _ (List.getElem_mem early)]
      simp
      omega
    · have same : k = steps.length := by omega
      subst same
      simp [Step.final_isFinal]

theorem filter_isFinal_iff (steps : List Step) (thought answer : String) :
    (steps ++ [Step.final thought answer]).filter (fun s => !s.isFinal)
        = (steps ++ [Step.final thought answer]).dropLast
      ↔ ∀ step ∈ steps, step.isFinal = false := by
  have none : [Step.final thought answer].filter (fun s => !s.isFinal) = [] :=
    List.filter_cons_of_neg (by simp [Step.final_isFinal])
  rw [List.dropLast_concat, List.filter_append, none, List.append_nil, List.filter_eq_self]
  simp only [Bool.not_eq_true']

/-! ### The answer of a run -/

/--
**Only replies that name the action of an answer blur where the answer is.**  If none of
the replies that a run was given uses a tool of that name, the last step of its result and
no other passes for the answer, and no step of a run without a result does.  If one does,
neither is true.
-/
theorem answer_marked_iff_plain {tools : List Tool}
    (built : Registry.ofList tools = .ok agent.registry) {events : List Event} {run : Run}
    (c : Course agent id task events run) : AnswerMarked agent events run := by
  have plain := c.plain_iff (Registry.ofList_orderly built)
  have ends : ∀ startedAt finishedAt result,
      run.outcome? agent startedAt finishedAt = some (.ok result) →
      ∃ thought, result.steps = run.actionSteps ++ [Step.final thought result.finalAnswer] := by
    intro startedAt finishedAt result h
    unfold Run.outcome? at h
    split at h
    · rename_i answer finished
      cases h
      exact c.finished_steps finished
    · cases h
    · cases h
  refine ⟨plain.symm, ends, ?_, ?_, ?_⟩
  · intro startedAt finishedAt result h
    obtain ⟨thought, steps⟩ := ends startedAt finishedAt result h
    rw [plain, ← isFinal_iff_last run.actionSteps thought result.finalAnswer]
    simp only [steps]
  · intro startedAt finishedAt result h
    obtain ⟨thought, steps⟩ := ends startedAt finishedAt result h
    rw [plain, ← filter_isFinal_iff run.actionSteps thought result.finalAnswer, ← steps]
    rfl
  · intro startedAt finishedAt failure h
    have steps : failure.steps = run.actionSteps := by
      unfold Run.outcome? at h
      unfold Run.actionSteps
      split at h
      · cases h
      · rename_i failed
        cases h
        rw [failed]
      · cases h
    rw [plain, steps]

/-- Asking for a tool that is not there leaves the answer where it is. -/
theorem answer_marked_iff_plain_look :
    ∃ run result, Course (.withoutTools 3) .nil "draw"
        [.model (.returned (.ok "Action: look") false),
          .model (.returned (.ok "Final Answer: done") false)] run ∧
      run.outcome? (.withoutTools 3) ⟨0, 0⟩ ⟨1, 0⟩ = some (.ok result) ∧
      result.steps.length = 2 ∧ result.toolSteps = result.steps.dropLast := by
  have c : Course (.withoutTools 3) .nil "draw"
      [.model (.returned (.ok "Action: look") false),
        .model (.returned (.ok "Final Answer: done") false)] _ :=
    ((Course.start false).model rfl (.returned (.ok "Action: look") false)).model rfl
      (.returned (.ok "Final Answer: done") false)
  have built : Registry.ofList [] = .ok (Agent.withoutTools 3).registry := rfl
  have plain : Plain [.model (.returned (.ok "Action: look") false),
      .model (.returned (.ok "Final Answer: done") false)] :=
    List.forall_mem_cons.mpr ⟨rfl, List.forall_mem_cons.mpr ⟨rfl, nofun⟩⟩
  have marked := answer_marked_iff_plain built c
  exact ⟨_, _, c, rfl, rfl, (marked.toolSteps ⟨0, 0⟩ ⟨1, 0⟩ _ rfl).mpr plain⟩

/-- A reply can ask for a tool by the name of the last action; its step then passes for the last. -/
theorem not_toolSteps_eq_dropLast :
    ¬ ∀ (agent : Agent) (tools : List Tool) (id : Uuid) (task : String) (events : List Event)
      (run : Run) (startedAt finishedAt : Instant) (result : RunResult),
      Registry.ofList tools = .ok agent.registry → Course agent id task events run →
      run.outcome? agent startedAt finishedAt = some (.ok result) →
      result.toolSteps = result.steps.dropLast := by
  intro claimed
  have c : Course (.withoutTools 3) .nil "draw"
      [.model (.returned (.ok "Action: Final Answer\nAction Input: 42") false),
        .model (.returned (.ok "Final Answer: done") false)] _ :=
    ((Course.start false).model rfl
      (.returned (.ok "Action: Final Answer\nAction Input: 42") false)).model rfl
      (.returned (.ok "Final Answer: done") false)
  have same := claimed _ [] _ _ _ _ ⟨0, 0⟩ ⟨1, 0⟩ _ rfl c rfl
  have lengths := congrArg List.length same
  cases lengths

end Draftsman
