/-
A run ends, and spends what it says it spends.

Every round uses up one iteration, and a run goes through no more rounds than its limit
allows.  From that follow the books of a run: how often its model was asked, what its
iterations were used up on, and what it means that they ran out.  It follows as well
that the number of responses a run can take is bounded, so that `Run.drive` always has
fuel enough to take it to its end.
-/
import Draftsman.Proofs.Run.Course

namespace Draftsman

/-! ### Counting what a run was given -/

/-- Whether the model was asked. -/
def Event.isAsking : Event → Bool
  | .model response => response.started
  | .tool _ => false

/-- Whether the model took too long. -/
def Event.isSilence : Event → Bool
  | .model (.timedOut _) => true
  | _ => false

/-- Whether the model wrote a reply that decides nothing. -/
def Event.isUnread : Event → Bool
  | .model (.returned (.ok reply) _) =>
    match Reply.decision reply with
    | .error _ => true
    | .ok _ => false
  | _ => false

@[simp] theorem Event.isUnread_tool (response : Response (Except ToolFault String)) :
    Event.isUnread (.tool response) = false := rfl

theorem Event.isUnread_of_ok {reply : String} {decision : Reply.Decision}
    (said : Reply.decision reply = .ok decision) (cancelled : Bool) :
    Event.isUnread (.model (.returned (.ok reply) cancelled)) = false := by
  simp only [Event.isUnread, said]

variable {agent : Agent} {id : Uuid} {task : String}

/-- The model is asked once in a round. -/
theorem asked_eventsOf (rounds : List (Round agent)) :
    (eventsOf rounds).countP Event.isAsking = rounds.length := by
  induction rounds with
  | nil => rfl
  | cons round rest ih =>
    have once : round.events.countP Event.isAsking = 1 := by
      cases round <;> simp [Round.events, Event.isAsking, Response.started, List.countP_cons]
    rw [eventsOf_cons, List.countP_append, once, ih, List.length_cons, Nat.add_comm]

/-- A round records a step, or is spent on an unreadable reply or on none at all. -/
theorem spent_eventsOf (rounds : List (Round agent)) :
    (stepsOf rounds).length + (eventsOf rounds).countP Event.isUnread
      + (eventsOf rounds).countP Event.isSilence = rounds.length := by
  induction rounds with
  | nil => rfl
  | cons round rest ih =>
    have one : round.query.step?.toList.length + round.events.countP Event.isUnread
        + round.events.countP Event.isSilence = 1 := by
      cases round with
      | silent cancelled => rfl
      | unread reply cancelled fault said =>
        simp [Round.events, Round.query, Query.step?, Event.isUnread, Event.isSilence, said]
      | refused reply use cancelled said missing =>
        simp [Round.events, Round.query, Query.step?, Event.isUnread_of_ok said, Event.isSilence]
      | used reply use result cancelled said found =>
        simp [Round.events, Round.query, Query.step?, Event.isUnread_of_ok said, Event.isSilence]
    rw [eventsOf_cons, stepsOf_cons, List.countP_append, List.countP_append, List.length_append,
      List.length_cons]
    omega

/-- A run takes at most two responses in a round. -/
theorem eventsOf_length_le (rounds : List (Round agent)) :
    (eventsOf rounds).length ≤ 2 * rounds.length := by
  induction rounds with
  | nil => exact Nat.le_refl _
  | cons round rest ih =>
    have few : round.events.length ≤ 2 := by cases round <;> simp [Round.events]
    rw [eventsOf_cons, List.length_append, List.length_cons]
    omega

/-! ### The books of a run -/

/-- What the counts of a run have to do with one another, and with what the run was given. -/
structure Balanced (agent : Agent) (id : Uuid) (events : List Event) (run : Run) : Prop where
  /-- The conversations that were sent are the times that the model was asked. -/
  asked : run.conversations.length = events.countP Event.isAsking
  askedBound : run.conversations.length ≤ agent.limits.maxIterations.toNat
  /-- Every iteration went into a step, an unreadable reply or a wait that was in vain. -/
  spent : run.iterations.toNat = run.actionSteps.length + events.countP Event.isUnread
    + events.countP Event.isSilence
  spentBound : run.iterations ≤ agent.limits.maxIterations
  /-- The run cannot take responses for ever. -/
  short : events.length ≤ 2 * agent.limits.maxIterations.toNat
  /-- The last question of a finished run used up no iteration. -/
  finished : ∀ answer, run.stage = .finished answer →
    run.conversations.length = run.iterations.toNat + 1
  /-- A run whose budget is exhausted has spent all of it, unless its model said so. -/
  exhausted : ∀ other limit, run.stage = .failed (.budgetExhausted other limit) →
    (∃ cancelled, events.getLast? =
      some (.model (.returned (.error (.budgetExhausted other limit)) cancelled))) ∨
    (other = id ∧ limit = agent.limits.maxIterations ∧
      run.iterations = agent.limits.maxIterations ∧
      run.conversations.length = agent.limits.maxIterations.toNat)

/-- The books of a run that has gone through some rounds and was given `rest` since. -/
theorem Balanced.of_rounds (rounds : List (Round agent)) {rest : List Event} {run : Run}
    (asked : run.conversations.length = rounds.length + rest.countP Event.isAsking)
    (spent : run.iterations = .ofNat rounds.length)
    (steps : run.actionSteps = stepsOf rounds)
    (unread : rest.countP Event.isUnread = 0) (silence : rest.countP Event.isSilence = 0)
    (askedBound : rounds.length + rest.countP Event.isAsking ≤ agent.limits.maxIterations.toNat)
    (short : 2 * rounds.length + rest.length ≤ 2 * agent.limits.maxIterations.toNat)
    (finished : ∀ answer, run.stage = .finished answer → rest.countP Event.isAsking = 1)
    (exhausted : ∀ other limit, run.stage = .failed (.budgetExhausted other limit) →
      (∃ cancelled, rest.getLast? =
        some (.model (.returned (.error (.budgetExhausted other limit)) cancelled))) ∨
      (other = id ∧ limit = agent.limits.maxIterations ∧
        rounds.length = agent.limits.maxIterations.toNat ∧ rest = [])) :
    Balanced agent id (eventsOf rounds ++ rest) run := by
  have inBounds : rounds.length ≤ agent.limits.maxIterations.toNat := by omega
  have iterations : run.iterations.toNat = rounds.length := by
    rw [spent, toNat_ofNat_rounds rounds inBounds]
  refine ⟨?_, ?_, ?_, ?_, ?_, ?_, ?_⟩
  · rw [asked, List.countP_append, asked_eventsOf]
  · rw [asked]
    exact askedBound
  · rw [iterations, steps, List.countP_append, List.countP_append, unread, silence]
    exact (spent_eventsOf rounds).symm
  · rw [UInt32.le_iff_toNat_le, iterations]
    exact inBounds
  · have := eventsOf_length_le rounds
    rw [List.length_append]
    omega
  · intro answer h
    rw [asked, iterations, finished answer h]
  · intro other limit h
    rcases exhausted other limit h with ⟨cancelled, last⟩ | ⟨rfl, rfl, full, rfl⟩
    · exact Or.inl ⟨cancelled, by rw [List.getLast?_append, last]; rfl⟩
    · refine Or.inr ⟨rfl, rfl, ?_, ?_⟩
      · exact UInt32.toNat_inj.mp (iterations.trans full)
      · rw [asked, full]
        rfl

/-- The books of a run that was called off before its model was asked again, or later. -/
theorem Balanced.of_cancelled (rounds : List (Round agent)) {rest : List Event} {run : Run}
    (asked : run.conversations.length = rounds.length + rest.countP Event.isAsking)
    (spent : run.iterations = .ofNat rounds.length) (steps : run.steps = stepsOf rounds)
    (unread : rest.countP Event.isUnread = 0) (silence : rest.countP Event.isSilence = 0)
    (askedBound : rounds.length + rest.countP Event.isAsking ≤ agent.limits.maxIterations.toNat)
    (short : 2 * rounds.length + rest.length ≤ 2 * agent.limits.maxIterations.toNat) :
    Balanced agent id (eventsOf rounds ++ rest) run.cancel :=
  .of_rounds rounds asked spent steps unread silence askedBound short
    (by rintro _ ⟨⟩) (by rintro _ _ ⟨⟩)

/-- **The books of every run are balanced.** -/
theorem Course.balanced {events : List Event} {run : Run} (c : Course agent id task events run) :
    Balanced agent id events run := by
  cases c.standing with
  | head rounds bound =>
    rw [← List.append_nil (eventsOf rounds)]
    exact .of_rounds rounds (headOf_asked id task rounds) rfl rfl rfl rfl (Nat.le_of_lt bound)
      (by simp; omega) (by rintro _ ⟨⟩) (by rintro _ _ ⟨⟩)
  | headOff rounds bound =>
    rw [← List.append_nil (eventsOf rounds)]
    exact .of_cancelled rounds (headOf_asked id task rounds) rfl rfl rfl rfl bound
      (by simp; omega)
  | exhausted rounds full =>
    rw [← List.append_nil (eventsOf rounds)]
    refine .of_rounds rounds (headOf_asked id task rounds) rfl rfl rfl rfl (Nat.le_of_eq full)
      (by simp; omega) (by rintro _ ⟨⟩) ?_
    rintro other limit ⟨⟩
    exact Or.inr ⟨rfl, rfl, full, rfl⟩
  | unasked rounds bound =>
    exact .of_cancelled rounds (headOf_asked id task rounds) rfl rfl rfl rfl
      (Nat.le_of_lt bound) (by simp; omega)
  | askedOff rounds bound =>
    exact .of_cancelled rounds (askedAfter_asked id task rounds) rfl rfl rfl rfl bound
      (by simp; omega)
  | modelFailed rounds failure cancelled bound =>
    refine .of_rounds rounds (askedAfter_asked id task rounds) rfl rfl rfl rfl bound
      (by simp; omega) (by rintro _ ⟨⟩) ?_
    rintro other limit ⟨⟩
    exact Or.inl ⟨cancelled, rfl⟩
  | concluded rounds reply thought answer cancelled said bound =>
    have steps := (askedAfter id task rounds).conclude_actionSteps thought answer reply
    exact .of_rounds rounds (askedAfter_asked id task rounds) rfl steps
      (by simp [Event.isUnread_of_ok said]) rfl bound (by simp; omega) (fun _ _ => rfl)
      (by rintro _ _ ⟨⟩)
  | uncalled rounds reply use rest said found late bound =>
    rcases late with rfl | rfl
    all_goals
      exact .of_cancelled rounds (askedAfter_asked id task rounds) rfl rfl
        (by simp [Event.isUnread_of_ok said]) rfl bound (by simp; omega)
  | awaitingTool rounds reply use said found bound =>
    exact .of_rounds rounds (askedAfter_asked id task rounds) rfl rfl
      (by simp [Event.isUnread_of_ok said]) rfl bound (by simp; omega) (by rintro _ ⟨⟩)
      (by rintro _ _ ⟨⟩)
  | calledOff rounds reply use said found bound =>
    exact .of_cancelled rounds (askedAfter_asked id task rounds) rfl rfl
      (by simp [Event.isUnread_of_ok said]) rfl bound (by simp; omega)

/-! ### Every run comes to its end -/

/-- A run that is not over waits for the model or for a tool. -/
theorem Stage.over_or_waiting (stage : Stage) :
    stage.phase.isTerminal = true ∨ stage = .awaitingModel ∨ ∃ use, stage = .awaitingTool use := by
  cases stage with
  | awaitingModel => exact Or.inr (Or.inl rfl)
  | awaitingTool use => exact Or.inr (Or.inr ⟨use, rfl⟩)
  | finished answer => exact Or.inl rfl
  | failed failure => exact Or.inl rfl

/-- A run that is over stays what it is. -/
theorem drive_over {m : Type → Type} [Monad m] (s : Surroundings m) {run : Run}
    (ended : run.stage.phase.isTerminal = true) (fuel : Nat) :
    run.drive s agent fuel = pure run := by
  cases fuel with
  | zero => rfl
  | succ fuel =>
    unfold Run.drive
    split
    · rename_i awaited
      rw [awaited] at ended
      cases ended
    · rename_i awaited
      rw [awaited] at ended
      cases ended
    · rfl

/-- The courses of a run that is given only what it may be given. -/
inductive CourseBy (May : Run → Event → Prop) (agent : Agent) (id : Uuid) (task : String) :
    List Event → Run → Prop
  | start (cancelled : Bool) : CourseBy May agent id task [] (Run.start agent id task cancelled)
  | model {events : List Event} {run : Run} (before : CourseBy May agent id task events run)
      (awaited : run.stage = .awaitingModel) (response : Response (Except Failure String))
      (may : May run (.model response)) :
      CourseBy May agent id task (events ++ [.model response]) (run.onModel agent response)
  | tool {events : List Event} {run : Run} {use : ToolUse}
      (before : CourseBy May agent id task events run) (awaited : run.stage = .awaitingTool use)
      (response : Response (Except ToolFault String)) (may : May run (.tool response)) :
      CourseBy May agent id task (events ++ [.tool response]) (run.onTool agent use response)

theorem CourseBy.course {May : Run → Event → Prop} {events : List Event} {run : Run}
    (c : CourseBy May agent id task events run) : Course agent id task events run := by
  induction c with
  | start cancelled => exact .start cancelled
  | model before awaited response may ih => exact ih.model awaited response
  | tool before awaited response may ih => exact ih.tool awaited response

section Driving

variable {m : Type → Type} [Monad m]

/-- Surroundings that give a run only what it may be given. -/
structure Surroundings.GivesBy (s : Surroundings m) (May : Run → Event → Prop) : Prop where
  ask : ∀ run, ∃ response : m { response // May run (.model response) },
    Subtype.val <$> response = s.ask run
  call : ∀ run use, run.stage = .awaitingTool use →
    ∃ response : m { response // May run (.tool response) },
      Subtype.val <$> response = s.call run use

variable [LawfulMonad m]

/-- Whatever comes of doing something has a property that everything has. -/
theorem exists_map_val {α : Type} {P : α → Prop} (all : ∀ a, P a) (x : m α) :
    ∃ y : m { a // P a }, Subtype.val <$> y = x := by
  refine ⟨(fun a => ⟨a, all a⟩) <$> x, ?_⟩
  rw [Functor.map_map, id_map']

/--
Wherever the responses come from, a run is taken to its end if there is fuel for as many
responses as it can still take.
-/
theorem drive_ends {s : Surroundings m} {May : Run → Event → Prop} (gives : s.GivesBy May) :
    ∀ (fuel : Nat) (events : List Event) (run : Run), CourseBy May agent id task events run →
      2 * agent.limits.maxIterations.toNat < events.length + fuel →
      ∃ ended : m { run : Run //
          run.stage.phase.isTerminal = true ∧ ∃ events, CourseBy May agent id task events run },
        Subtype.val <$> ended = run.drive s agent fuel := by
  intro fuel
  induction fuel with
  | zero =>
    intro events run c enough
    have := c.course.balanced.short
    omega
  | succ fuel ih =>
    intro events run c enough
    rcases Stage.over_or_waiting run.stage with final | awaited | ⟨use, awaited⟩
    · refine ⟨pure ⟨run, final, events, c⟩, ?_⟩
      rw [map_pure, drive_over s final]
    · have rest := fun response : { response // May run (.model response) } =>
        ih _ _ (c.model awaited response.val response.property) (by simp; omega)
      obtain ⟨ended, same⟩ := Classical.axiomOfChoice rest
      obtain ⟨ask, asked⟩ := gives.ask run
      refine ⟨do
        let response ← ask
        run.reportSince s (run.onModel agent response.val)
        ended response, ?_⟩
      simp only [map_bind, same, Run.drive, awaited, ← asked, bind_map_left]
    · have rest := fun response : { response // May run (.tool response) } =>
        ih _ _ (c.tool awaited response.val response.property) (by simp; omega)
      obtain ⟨ended, same⟩ := Classical.axiomOfChoice rest
      obtain ⟨call, called⟩ := gives.call run use awaited
      refine ⟨do
        let response ← call
        run.reportSince s (run.onTool agent use response.val)
        ended response, ?_⟩
      simp only [map_bind, same, Run.drive, awaited, ← called, bind_map_left]

/-- From its beginning, a run that is given what it may be given is taken to its end. -/
theorem start_ends_by {s : Surroundings m} {May : Run → Event → Prop} (gives : s.GivesBy May)
    {P : Run → Prop} (holds : ∀ events run, CourseBy May agent id task events run → P run)
    (cancelled : Bool) :
    ∃ ended : m { run : Run // run.stage.phase.isTerminal = true ∧ P run },
      Subtype.val <$> ended
        = (Run.start agent id task cancelled).drive s agent agent.limits.responses := by
  have enough : 2 * agent.limits.maxIterations.toNat
      < ([] : List Event).length + agent.limits.responses := by
    simp only [List.length_nil, Limits.responses]
    omega
  obtain ⟨ended, same⟩ := drive_ends gives _ [] _ (.start cancelled) enough
  refine ⟨(fun last => ⟨last.val, last.property.1, ?_⟩) <$> ended, ?_⟩
  · obtain ⟨events, c⟩ := last.property.2
    exact holds events last.val c
  · rw [← same, Functor.map_map]

/-- A run that is over, and came about by a course of responses. -/
abbrev EndedRun (agent : Agent) (id : Uuid) (task : String) : Type :=
  { run : Run // run.stage.phase.isTerminal = true ∧ ∃ events, Course agent id task events run }

/-- Wherever the responses come from, a run has fuel enough to come to its end. -/
theorem start_ends (s : Surroundings m) (cancelled : Bool) :
    ∃ ended : m (EndedRun agent id task),
      Subtype.val <$> ended
        = (Run.start agent id task cancelled).drive s agent agent.limits.responses := by
  have anything : s.GivesBy fun _ _ => True :=
    ⟨fun run => exists_map_val (fun _ => trivial) (s.ask run),
      fun run use _ => exists_map_val (fun _ => trivial) (s.call run use)⟩
  exact start_ends_by anything (fun events run c => ⟨events, c.course⟩) cancelled

end Driving

/--
**A run keeps to its budget, and ends.**  At every point of every run the books are
balanced: the model has been asked no more often than the limit allows, and the
iterations are the steps for actions, the unreadable replies and the waits in vain,
counted without a loss.  And whatever surrounds a run, it is taken to its end.
-/
theorem run_keeps_to_budget (agent : Agent) (id : Uuid) (task : String) :
    (∀ (events : List Event) (run : Run), Course agent id task events run →
      Balanced agent id events run) ∧
    ∀ (m : Type → Type) [Monad m] [LawfulMonad m] (s : Surroundings m) (cancelled : Bool),
      ∃ ended : m (EndedRun agent id task),
        Subtype.val <$> ended
          = (Run.start agent id task cancelled).drive s agent agent.limits.responses := by
  refine ⟨fun events run c => c.balanced, ?_⟩
  intro m _ _ s cancelled
  exact start_ends s cancelled

/-- Three rounds, each spent in its own way, exhaust a budget of three. -/
theorem run_keeps_to_budget_three :
    ∃ run, Course (.withoutTools 3) .nil "draw"
        [.model (.timedOut false), .model (.returned (.ok "Let me see.") false),
          .model (.returned (.ok "Action: look") false)] run ∧
      run.stage = .failed (.budgetExhausted .nil 3) ∧ run.steps.length = 1 ∧
      run.iterations.toNat = 3 ∧ run.conversations.length = 3 := by
  have c : Course (.withoutTools 3) .nil "draw"
      [.model (.timedOut false), .model (.returned (.ok "Let me see.") false),
        .model (.returned (.ok "Action: look") false)] _ :=
    (((Course.start false).model rfl (.timedOut false)).model rfl
      (.returned (.ok "Let me see.") false)).model rfl (.returned (.ok "Action: look") false)
  have books := (run_keeps_to_budget _ _ _).1 _ _ c
  exact ⟨_, c, rfl, rfl, books.spent, books.asked⟩

/-- A model can say of itself that a budget is exhausted; the run then fails with some left. -/
theorem not_exhausted_imp_spent :
    ¬ ∀ (agent : Agent) (id : Uuid) (task : String) (events : List Event) (run : Run),
      Course agent id task events run →
      ∀ other limit, run.stage = .failed (.budgetExhausted other limit) →
        run.iterations = agent.limits.maxIterations ∧
          run.conversations.length = agent.limits.maxIterations.toNat := by
  intro claimed
  have c : Course (.withoutTools 1) .nil "draw"
      [.model (.returned (.error (.budgetExhausted .nil 1)) false)] _ :=
    (Course.start false).model rfl (.returned (.error (.budgetExhausted .nil 1)) false)
  have spent := (claimed _ _ _ _ _ c .nil 1 rfl).1
  cases spent

end Draftsman
