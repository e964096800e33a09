/-
What the model is told.

The conversation of a run opens with the prompt and the task, and from then on every
question that was answered, but not with a conclusion, leaves its messages behind.  The
list of these queries can be read off what the run was given and the steps it recorded;
`queries` does so without looking at the run's conversation.  What is shown here is that
the conversations the model is sent are exactly the ones that this list accounts for.
-/
import Draftsman.Proofs.Run.Course
import Draftsman.Proofs.Text.Cut

namespace Draftsman

/-! ### The queries of a run -/

/-- What came of asking the model, each time that it was asked. -/
def answers (events : List Event) : List (Response (Except Failure String)) :=
  events.filterMap fun
    | .model response => if response.started then some response else none
    | .tool _ => none

/--
What became of each question, given the steps that were recorded: a reply that used a
tool goes with the next step.  The list stops at the question that ended the run, or
whose step has not been recorded.
-/
def queries : List (Response (Except Failure String)) → List Step → List Query
  | .timedOut _ :: rest, steps => .silent :: queries rest steps
  | .returned (.ok reply) _ :: rest, steps =>
    match Reply.decision reply, steps with
    | .error _, steps => .unread reply :: queries rest steps
    | .ok (.act ..), step :: steps => .acted reply step :: queries rest steps
    | _, _ => []
  | _, _ => []

/-- What a message reports as observed, if it reports anything. -/
def Message.observation? (m : Message) : Option String :=
  if m.role = .user then
    (Text.dropPrefix? "Observation: ".toList m.content.toList).map String.ofList
  else none

/-- What the conversations of a run have to do with what the run was given and recorded. -/
structure Told (agent : Agent) (task : String) (events : List Event) (run : Run) : Prop where
  /-- Every question but the last one has become a query, and so has perhaps the last one. -/
  answered : run.conversations.length ≤ (queries (answers events) run.steps).length + 1
  /-- The model is sent the opening, and after it the messages of the queries so far. -/
  sent : ∀ (k : Nat) (h : k < run.conversations.length),
    run.conversations[k]
      = conversationAfter agent task ((queries (answers events) run.steps).take k)
  /-- So is the conversation that the model will be sent next. -/
  awaited : run.stage = .awaitingModel →
    run.messages = conversationAfter agent task (queries (answers events) run.steps)
  /-- The step that goes with a reply is the one that the reply asked for. -/
  chosen : ∀ reply step, .acted reply step ∈ queries (answers events) run.steps →
    Reply.decision reply = .ok (.act step.thought step.action step.input)
  /-- Every step for an action goes with a reply, and none goes with two. -/
  recorded : (queries (answers events) run.steps).filterMap Query.step? = run.actionSteps
  /-- A conversation begins with the one before it, and only a wait in vain adds nothing to it. -/
  grows : ∀ (k : Nat) (h : k + 1 < run.conversations.length),
    run.conversations[k] <+: run.conversations[k + 1] ∧
    (run.conversations[k] = run.conversations[k + 1] ↔
      ∃ cancelled, (answers events)[k]? = some (.timedOut cancelled))
  /-- The model is to reply to a user. -/
  endsWithUser : ∀ conversation ∈ run.conversations,
    ∃ content, conversation.getLast? = some ⟨.user, content⟩
  /-- The model is told what was observed in each step so far, once and in order. -/
  observed : ∀ (k : Nat) (h : k < run.conversations.length),
    (run.conversations[k].drop 2).filterMap Message.observation?
      = (((queries (answers events) run.steps).take k).filterMap Query.step?).map Step.observation

variable {agent : Agent} {id : Uuid} {task : String}

/-! ### Queries and rounds -/

theorem answers_append (before after : List Event) :
    answers (before ++ after) = answers before ++ answers after := List.filterMap_append ..

/-- A round adds one query, with its step if it has one. -/
theorem queries_round (round : Round agent) (rest : List (Response (Except Failure String)))
    (steps : List Step) :
    queries (answers round.events ++ rest) (round.query.step?.toList ++ steps)
      = round.query :: queries rest steps := by
  cases round with
  | silent cancelled => rfl
  | unread reply cancelled fault said =>
    simp [Round.events, Round.query, Query.step?, answers, Response.started, queries, said]
  | refused reply use cancelled said missing =>
    simp [Round.events, Round.query, Query.step?, answers, Response.started, queries, said,
      ToolUse.decision]
  | used reply use result cancelled said found =>
    simp [Round.events, Round.query, Query.step?, answers, Response.started, queries, said,
      ToolUse.decision]

/-- The queries that are read off a run's events and steps are those of its rounds. -/
theorem queries_eventsOf (rounds : List (Round agent)) (rest : List Event) (steps : List Step) :
    queries (answers (eventsOf rounds ++ rest)) (stepsOf rounds ++ steps)
      = queriesOf rounds ++ queries (answers rest) steps := by
  induction rounds with
  | nil => rfl
  | cons round more ih =>
    rw [eventsOf_cons, stepsOf_cons, List.append_assoc, List.append_assoc, answers_append,
      queries_round, ih]
    rfl

/-- The step of a round is the one that its reply asked for. -/
theorem chosen_queriesOf {rounds : List (Round agent)} {reply : String} {step : Step}
    (h : .acted reply step ∈ queriesOf rounds) :
    Reply.decision reply = .ok (.act step.thought step.action step.input) := by
  obtain ⟨round, -, same⟩ := List.mem_map.mp h
  cases round with
  | silent cancelled => cases same
  | unread reply cancelled fault said => cases same
  | refused reply use cancelled said missing =>
    cases same
    exact said
  | used reply use result cancelled said found =>
    cases same
    exact said

/-! ### Queries and conversations -/

/-- What a query adds to the conversation is nothing only if the model took too long. -/
theorem Query.messages_eq_nil (query : Query) : query.messages = [] ↔ query = .silent := by
  cases query <;> simp [Query.messages]

theorem Message.observation?_assistant (content : String) :
    Message.observation? ⟨.assistant, content⟩ = none := rfl

theorem Message.observation?_observation (text : String) :
    Message.observation? ⟨.user, s!"Observation: {text}"⟩ = some text := by
  have cut := Text.dropPrefix?_append "Observation: ".toList text.toList
  rw [← String.toList_append] at cut
  show (Text.dropPrefix? "Observation: ".toList ("Observation: " ++ text).toList).map _ = _
  rw [cut]
  simp

/-- A query reports what was observed in its step, and nothing else. -/
theorem Query.messages_observed (query : Query) :
    query.messages.filterMap Message.observation? = query.step?.toList.map Step.observation := by
  cases query with
  | silent => rfl
  | unread reply =>
    rw [Query.messages, List.filterMap_append]
    split <;> rfl
  | acted reply step =>
    rw [Query.messages, List.filterMap_cons_none (Message.observation?_assistant _),
      List.filterMap_cons_some (Message.observation?_observation _)]
    rfl

/-- A conversation reports what was observed in the steps of its queries. -/
theorem conversationAfter_observed (queries : List Query) :
    ((conversationAfter agent task queries).drop 2).filterMap Message.observation?
      = (queries.filterMap Query.step?).map Step.observation := by
  show (queries.flatMap Query.messages).filterMap Message.observation? = _
  induction queries with
  | nil => rfl
  | cons query rest ih =>
    rw [List.flatMap_cons, List.filterMap_append, ih, Query.messages_observed]
    cases h : query.step? <;> simp [h]

/-- A conversation ends with a message of the user. -/
theorem conversationAfter_endsWithUser (queries : List Query) :
    ∃ content, (conversationAfter agent task queries).getLast? = some ⟨.user, content⟩ := by
  -- What is added to a conversation ends so itself, unless it is nothing.
  have added : ∀ query : Query, query = .silent ∨
      ∃ before content, query.messages = before ++ [⟨.user, content⟩] := by
    intro query
    cases query with
    | silent => exact Or.inl rfl
    | unread reply => exact Or.inr ⟨_, _, rfl⟩
    | acted reply step => exact Or.inr ⟨[_], _, rfl⟩
  have kept : ∀ before : List Message, (∃ content, before.getLast? = some ⟨.user, content⟩) →
      ∃ content, (before ++ queries.flatMap Query.messages).getLast? = some ⟨.user, content⟩ := by
    induction queries with
    | nil => intro before h; simpa using h
    | cons query rest ih =>
      intro before h
      rw [List.flatMap_cons, ← List.append_assoc]
      refine ih _ ?_
      rcases added query with rfl | ⟨more, content, same⟩
      · simpa [Query.messages] using h
      · exact ⟨content, by simp [same]⟩
  exact kept (opening agent task) ⟨task, rfl⟩

theorem conversationAfter_take_succ (queries : List Query) {k : Nat} (h : k < queries.length) :
    conversationAfter agent task (queries.take (k + 1))
      = conversationAfter agent task (queries.take k) ++ queries[k].messages := by
  rw [← List.take_append_getElem h, conversationAfter_append]
  simp

/-- The model has said nothing yet when it is told its task. -/
theorem role_opening : ∀ m ∈ opening agent task, m.role ≠ .assistant := by
  intro m mem
  rcases List.mem_cons.mp mem with rfl | mem
  · exact nofun
  · rw [List.mem_singleton.mp mem]
    exact nofun

/-- What holds of the opening holds of a conversation if it does of what the queries add. -/
theorem forall_conversationAfter_iff {P : Message → Prop} (first : ∀ m ∈ opening agent task, P m)
    (queries : List Query) :
    (∀ m ∈ conversationAfter agent task queries, P m) ↔
      ∀ query ∈ queries, ∀ m ∈ query.messages, P m := by
  rw [conversationAfter, List.forall_mem_append, and_iff_right first]
  simp only [List.mem_flatMap, forall_exists_index, and_imp]
  exact forall_comm.trans (forall_congr' fun query => forall_comm)

/-- Queries are waits in vain where the questions were if the first one is and the others are. -/
theorem silent_cons {query : Query} {call : Response (Except Failure String)}
    {more : List Query} {calls : List (Response (Except Failure String))}
    (first : query = .silent ↔ ∃ cancelled, call = .timedOut cancelled)
    (later : ∀ {k : Nat} (h : k < more.length),
      more[k] = .silent ↔ ∃ cancelled, calls[k]? = some (.timedOut cancelled))
    {k : Nat} (h : k < (query :: more).length) :
    (query :: more)[k] = .silent
      ↔ ∃ cancelled, (call :: calls)[k]? = some (.timedOut cancelled) := by
  cases k with
  | zero => simpa using first
  | succ k => simpa using later (Nat.lt_of_succ_lt_succ h)

/-- The question at `k` became a wait in vain exactly if it was one. -/
theorem silent_iff (calls : List (Response (Except Failure String))) (steps : List Step)
    {k : Nat} (h : k < (queries calls steps).length) :
    (queries calls steps)[k] = .silent ↔ ∃ cancelled, calls[k]? = some (.timedOut cancelled) := by
  induction calls, steps using queries.induct generalizing k with
  | case1 cancelled rest steps ih =>
    simp only [queries] at h ⊢
    exact silent_cons (by simp) ih h
  | case2 reply cancelled rest fault steps said ih =>
    simp only [queries, said] at h ⊢
    exact silent_cons (by simp) ih h
  | case3 reply cancelled rest thought tool input step steps said ih =>
    simp only [queries, said] at h ⊢
    exact silent_cons (by simp) ih h
  | case4 reply cancelled rest steps readable stepless =>
    have none : queries (.returned (.ok reply) cancelled :: rest) steps = [] := by
      rw [queries.eq_def]
      dsimp only
      split
      · rename_i fault said
        exact (readable fault said).elim
      · rename_i said
        exact (stepless _ _ _ _ _ said rfl).elim
      · rfl
    rw [none] at h
    cases h
  | case5 calls steps waited replied =>
    have none : queries calls steps = [] := by
      unfold queries
      split
      · exact (waited _ _ rfl).elim
      · exact (replied _ _ _ rfl).elim
      · rfl
    rw [none] at h
    cases h

/-! ### Every conversation is accounted for -/

/-- What rounds have to do with a run for its conversations to be the ones they account for. -/
structure AccountedBy (rounds : List (Round agent)) (task : String) (events : List Event)
    (run : Run) : Prop where
  queries_eq : queries (answers events) run.steps = queriesOf rounds
  actionSteps_eq : run.actionSteps = stepsOf rounds
  few : run.conversations.length ≤ rounds.length + 1
  conversations_eq :
    run.conversations = sentFirst agent task (queriesOf rounds) run.conversations.length
  awaited : run.stage = .awaitingModel →
    run.messages = conversationAfter agent task (queriesOf rounds)

/--
A run is accounted for by its rounds if nothing that it was given after them has become a
query, and it has sent the next conversation at most.
-/
theorem AccountedBy.of_rounds (rounds : List (Round agent)) {rest : List Event} {run : Run}
    (more : List Step) (steps : run.steps = stepsOf rounds ++ more)
    (unanswered : queries (answers rest) more = [])
    (actionSteps : run.actionSteps = stepsOf rounds) (count : Nat) (few : count ≤ rounds.length + 1)
    (sent : run.conversations = sentFirst agent task (queriesOf rounds) count)
    (awaited : run.stage = .awaitingModel →
      run.messages = conversationAfter agent task (queriesOf rounds)) :
    AccountedBy rounds task (eventsOf rounds ++ rest) run := by
  refine ⟨?_, actionSteps, ?_, ?_, awaited⟩
  · rw [steps, queries_eventsOf, unanswered, List.append_nil]
  · rw [sent, sentFirst_length]
    exact few
  · rw [sent, sentFirst_length]

/-- Every run is accounted for by some rounds. -/
theorem Course.accountedBy {events : List Event} {run : Run}
    (c : Course agent id task events run) :
    ∃ rounds : List (Round agent), AccountedBy rounds task events run := by
  -- A reply that uses a tool becomes a query only once its step has been recorded.
  have unrecorded : ∀ {reply : String} {use : ToolUse} (rest : List Event) (cancelled : Bool),
      Reply.decision reply = .ok use.decision →
      queries (answers (.model (.returned (.ok reply) cancelled) :: rest)) [] = [] := by
    intro reply use rest cancelled said
    simp [answers, Response.started, queries, said, ToolUse.decision]
  cases c.standing with
  | head rounds bound =>
    refine ⟨rounds, ?_⟩
    rw [← List.append_nil (eventsOf rounds)]
    exact .of_rounds rounds [] (List.append_nil _).symm rfl rfl _ (Nat.le_succ _) rfl (fun _ => rfl)
  | headOff rounds bound =>
    refine ⟨rounds, ?_⟩
    rw [← List.append_nil (eventsOf rounds)]
    exact .of_rounds rounds [] (List.append_nil _).symm rfl rfl _ (Nat.le_succ _) rfl
      (by rintro ⟨⟩)
  | exhausted rounds full =>
    refine ⟨rounds, ?_⟩
    rw [← List.append_nil (eventsOf rounds)]
    exact .of_rounds rounds [] (List.append_nil _).symm rfl rfl _ (Nat.le_succ _) rfl
      (by rintro ⟨⟩)
  | unasked rounds bound =>
    exact ⟨rounds, .of_rounds rounds [] (List.append_nil _).symm rfl rfl _ (Nat.le_succ _) rfl
      (by rintro ⟨⟩)⟩
  | askedOff rounds bound =>
    exact ⟨rounds, .of_rounds rounds [] (List.append_nil _).symm rfl rfl _ (Nat.le_refl _)
      (askedAfter_conversations id task rounds) (by rintro ⟨⟩)⟩
  | modelFailed rounds failure cancelled bound =>
    exact ⟨rounds, .of_rounds rounds [] (List.append_nil _).symm rfl rfl _ (Nat.le_refl _)
      (askedAfter_conversations id task rounds) (by rintro ⟨⟩)⟩
  | concluded rounds reply thought answer cancelled said bound =>
    refine ⟨rounds, .of_rounds rounds [.final thought answer] rfl ?_
      (Run.conclude_actionSteps _ thought answer reply) _ (Nat.le_refl _)
      (askedAfter_conversations id task rounds) (by rintro ⟨⟩)⟩
    simp [answers, Response.started, queries, said]
  | uncalled rounds reply use rest said found late bound =>
    refine ⟨rounds, .of_rounds rounds [] (List.append_nil _).symm ?_ rfl _ (Nat.le_refl _)
      (askedAfter_conversations id task rounds) (by rintro ⟨⟩)⟩
    rcases late with rfl | rfl
    · exact unrecorded [] true said
    · exact unrecorded [.tool .prevented] false said
  | awaitingTool rounds reply use said found bound =>
    exact ⟨rounds, .of_rounds rounds [] (List.append_nil _).symm (unrecorded [] false said) rfl _
      (Nat.le_refl _) (askedAfter_conversations id task rounds) (by rintro ⟨⟩)⟩
  | calledOff rounds reply use said found bound =>
    exact ⟨rounds, .of_rounds rounds [] (List.append_nil _).symm
      (unrecorded [.tool .interrupted] false said) rfl _ (Nat.le_refl _)
      (askedAfter_conversations id task rounds) (by rintro ⟨⟩)⟩

/-- The model is sent the messages of the queries before. -/
theorem AccountedBy.sent {rounds : List (Round agent)} {events : List Event} {run : Run}
    (h : AccountedBy rounds task events run) {k : Nat} (hk : k < run.conversations.length) :
    run.conversations[k]
      = conversationAfter agent task ((queries (answers events) run.steps).take k) := by
  rw [h.queries_eq, List.getElem_of_eq h.conversations_eq hk]
  simp [sentFirst]

/--
The messages that the model is sent are those of the opening, and of the queries before
the last conversation.
-/
theorem Course.forall_messages_iff {events : List Event} {run : Run}
    (c : Course agent id task events run) {P : Message → Prop}
    (first : ∀ m ∈ opening agent task, P m) :
    (∀ conversation ∈ run.conversations, ∀ m ∈ conversation, P m) ↔
      ∀ query ∈ (queries (answers events) run.steps).take (run.conversations.length - 1),
        ∀ m ∈ query.messages, P m := by
  obtain ⟨rounds, h⟩ := c.accountedBy
  constructor
  · intro all
    rcases Nat.eq_zero_or_pos run.conversations.length with none | some
    · rw [none]
      exact nofun
    · -- All these messages are in the last conversation.
      have last : run.conversations.length - 1 < run.conversations.length := by omega
      have here := all _ (List.getElem_mem last)
      rw [h.sent last] at here
      exact (forall_conversationAfter_iff first _).mp here
  · intro plain conversation mem
    obtain ⟨k, hk, rfl⟩ := List.getElem_of_mem mem
    rw [h.sent hk, forall_conversationAfter_iff first]
    have fewer : k ≤ run.conversations.length - 1 := by omega
    exact fun query early => plain query (List.take_subset_take_left _ fewer early)

/--
**A conversation is accounted for by the queries before it.**  The queries of a run can be
read off what it was given and what it recorded, and the model is sent the messages of the
queries so far, whatever it replies, whatever the tools do and whenever the run is called
off.
-/
theorem conversations_follow_queries {events : List Event} {run : Run}
    (c : Course agent id task events run) : Told agent task events run := by
  obtain ⟨rounds, h⟩ := c.accountedBy
  have length : (queries (answers events) run.steps).length = rounds.length := by
    rw [h.queries_eq, queriesOf_length]
  refine ⟨?_, fun k hk => h.sent hk, ?_, ?_, ?_, ?_, ?_, ?_⟩
  · rw [length]
    exact h.few
  · rw [h.queries_eq]
    exact h.awaited
  · rw [h.queries_eq]
    exact fun reply step used => chosen_queriesOf used
  · rw [h.queries_eq, h.actionSteps_eq]
    rfl
  · intro k hk
    have few := h.few
    have early : k < (queries (answers events) run.steps).length := by omega
    rw [h.sent (Nat.lt_of_succ_lt hk), h.sent hk, conversationAfter_take_succ _ early,
      ← silent_iff _ _ early, ← Query.messages_eq_nil]
    exact ⟨List.prefix_append _ _, by rw [eq_comm, List.append_right_eq_self]⟩
  · intro conversation mem
    obtain ⟨k, hk, rfl⟩ := List.getElem_of_mem mem
    rw [h.sent hk]
    exact conversationAfter_endsWithUser _
  · intro k hk
    rw [h.sent hk]
    exact conversationAfter_observed _

/--
The model is slow, then vague, then blank.  Then it uses a tool, and makes up what that will
observe; and then it uses a tool that is not there.
-/
def hesitation : List Event :=
  [.model (.timedOut false), .model (.returned (.ok "\tLet me see. ") false),
    .model (.returned (.ok " \n") false),
    .model (.returned (.ok "\nAction: look \nObservation: a dog\n") false),
    .tool (.returned (.ok "a cat") false), .model (.returned (.ok "Action: peek\n") false),
    .model (.timedOut false)]

/-- The model is reminded twice, and told what was observed in place of what it made up. -/
theorem conversations_follow_queries_look :
    ∃ run, Course (.looking 9) .nil "draw" hesitation run ∧ run.conversations.length = 6 ∧
      run.conversations[5]? = some (opening (.looking 9) "draw" ++
        [⟨.assistant, "Let me see."⟩, ⟨.user, formatReminder⟩, ⟨.user, formatReminder⟩,
          ⟨.assistant, "Action: look"⟩, ⟨.user, "Observation: a cat"⟩,
          ⟨.assistant, "Action: peek"⟩,
          ⟨.user, "Observation: Error: unknown tool 'peek'. Available tools: look"⟩]) := by
  have c : Course (.looking 9) .nil "draw" hesitation _ :=
    (((((((Course.start false).model rfl (.timedOut false)).model rfl
      (.returned (.ok "\tLet me see. ") false)).model rfl (.returned (.ok " \n") false)).model rfl
      (.returned (.ok "\nAction: look \nObservation: a dog\n") false)).tool rfl
      (.returned (.ok "a cat") false)).model rfl (.returned (.ok "Action: peek\n") false)).model rfl
      (.timedOut false)
  have told := conversations_follow_queries c
  refine ⟨_, c, rfl, congrArg some ((told.sent 5 (by decide)).trans ?_)⟩
  show opening (.looking 9) "draw" ++ _ = _
  refine congrArg (opening (.looking 9) "draw" ++ ·) ?_
  decide +kernel

end Draftsman
