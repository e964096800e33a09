/-
How a run recovers, and what it fails by.

A model that takes too long, a reply that cannot be read, a tool that is not there, fails or
takes too long are *setbacks*: the model is told, if there is anything to tell, and is asked
again.  Only a run that has been called off by then, or has nothing left of its budget, does
not ask again.

So there are no more than three ways to fail.  If the failures of the model are those of a
provider, as they are wherever a request is sent to an endpoint, then the kind of a failure
tells which way it was, and no run fails by something that it could have recovered from.
-/
import Draftsman.Proofs.Provider.Client
import Draftsman.Proofs.Run.Cancellation

namespace Draftsman

/-! ### Setbacks -/

/-- Whether a response tells that the run has been called off. -/
def Response.tellsOff {α : Type} : Response α → Bool
  | .prevented => true
  | .interrupted => true
  | .timedOut cancelled => cancelled
  | .returned _ cancelled => cancelled

/-- Whether a run learns from what it is given that it has been called off. -/
def Event.tellsOff : Event → Bool
  | .model response => response.tellsOff
  | .tool response => response.tellsOff

/-- Whether what a run is given is one of the setbacks that it recovers from. -/
def Event.isSetback (agent : Agent) : Event → Bool
  | .model (.timedOut _) => true
  | .model (.returned (.ok reply) _) =>
    match Reply.decision reply with
    | .ok (.conclude ..) => false
    | .ok (.act _ name _) => !agent.registry.contains name
    | .error _ => true
  | .tool (.timedOut _) => true
  | .tool (.returned (.error _) _) => true
  | _ => false

/-- What comes after a setback, `after` being all that `run` was given since. -/
inductive TriedAgain (agent : Agent) (id : Uuid) (setback : Event) (run : Run) :
    (after : List Event) → Prop
  /-- The model was asked again. -/
  | asked (response : Response (Except Failure String)) (more : List Event)
      (begun : response.started = true) : TriedAgain agent id setback run (.model response :: more)
  /-- The run was called off before the model could be asked again. -/
  | prevented (more : List Event) : TriedAgain agent id setback run (.model .prevented :: more)
  /-- The model is to be asked again. -/
  | waiting (awaited : run.stage = .awaitingModel) : TriedAgain agent id setback run []
  /-- The run had been called off when it was set back. -/
  | calledOff (told : setback.tellsOff = true) (failed : run.stage = .failed (.cancelled id)) :
      TriedAgain agent id setback run []
  /-- The setback used up the last iteration. -/
  | exhausted (spent : run.iterations = agent.limits.maxIterations)
      (failed : run.stage = .failed (.budgetExhausted id agent.limits.maxIterations)) :
      TriedAgain agent id setback run []

/-! ### Failures -/

/-- Whether a run is given no failure of the model but those of a provider. -/
def Event.ByProvider : Event → Prop
  | .model response => response.ByProvider
  | .tool _ => True

/-- What a run has failed by that was given `events`, `left` being what is left of it. -/
inductive FailedBy (agent : Agent) (id : Uuid) (task : String) (events : List Event) (run : Run)
    (left : RunFailure) : Prop
  /-- The provider failed. -/
  | provider (cancelled : Bool)
      (last : events.getLast? = some (.model (.returned (.error left.failure) cancelled)))
      (kind : left.failure.kind = .provider)
  /-- The run was called off, before it began or by the time of its last response. -/
  | calledOff
      (told : run = Run.start agent id task true ∨
        ∃ event, events.getLast? = some event ∧ event.tellsOff = true)
      (kind : left.failure.kind = .cancelled)
  /-- The iterations have reached their limit. -/
  | exhausted (spent : left.iterations = agent.limits.maxIterations)
      (kind : left.failure.kind = .budgetExhausted)

/-- A run that recovers from every setback, and fails only where it has to. -/
structure Recovering (agent : Agent) (id : Uuid) (task : String) (events : List Event)
    (run : Run) : Prop where
  failed : ∀ startedAt finishedAt left,
    run.outcome? agent startedAt finishedAt = some (.error left) →
      FailedBy agent id task events run left ∧ left.failure.kind.isRecoverable = false
  retried : ∀ before setback after, events = before ++ setback :: after →
    setback.isSetback agent = true → TriedAgain agent id setback run after

variable {agent : Agent} {id : Uuid} {task : String}

/-! ### What one response can do -/

/--
What a run can have become by a response.  A setback is told apart from everything else,
since only after it the model is asked again without fail.
-/
inductive Move (agent : Agent) (event : Event) : Run → Prop
  /-- The model is asked again, unless the run ends there. -/
  | resumed (run : Run) : Move agent event (run.next agent event.tellsOff)
  /-- The run is over, since it has been called off. -/
  | calledOff (run : Run) (fine : event.isSetback agent = false) (told : event.tellsOff = true) :
      Move agent event run.cancel
  /-- The run is over, since the model has failed. -/
  | failed (run : Run) (failure : Failure) (cancelled : Bool)
      (said : event = .model (.returned (.error failure) cancelled)) :
      Move agent event (run.fail failure)
  /-- The run is finished, or is to call a tool. -/
  | carriedOn {run : Run} (fine : event.isSetback agent = false)
      (going : ∀ failure, run.stage ≠ .failed failure) : Move agent event run

theorem Run.onModel_move (agent : Agent) (run : Run) (response : Response (Except Failure String)) :
    Move agent (.model response) (run.onModel agent response) := by
  cases response with
  | prevented => exact .calledOff _ rfl rfl
  | interrupted => exact .calledOff _ rfl rfl
  | timedOut cancelled => exact .resumed _
  | returned value cancelled =>
    cases value with
    | error failure => exact .failed _ failure cancelled rfl
    | ok reply =>
      cases said : Reply.decision reply with
      | error fault =>
        simp only [Run.onModel, Run.onReply, said]
        exact .resumed _
      | ok decision =>
        cases decision with
        | conclude thought answer =>
          simp only [Run.onModel, Run.onReply, said]
          refine .carriedOn (by simp only [Event.isSetback, said]) ?_
          rintro failure ⟨⟩
        | act thought tool input =>
          simp only [Run.onModel, Run.onReply, said, Run.act]
          by_cases found : agent.registry.contains tool = true
          · have fine : Event.isSetback agent (.model (.returned (.ok reply) cancelled))
                = false := by
              simp only [Event.isSetback, said, found, Bool.not_true]
            rw [if_neg (by simp [found])]
            cases cancelled with
            | true => exact .calledOff _ fine rfl
            | false =>
              refine .carriedOn fine ?_
              rintro failure ⟨⟩
          · rw [if_pos (by simp [found])]
            exact .resumed _

theorem Run.onTool_move (agent : Agent) (run : Run) (use : ToolUse)
    (response : Response (Except ToolFault String)) :
    Move agent (.tool response) (run.onTool agent use response) := by
  cases response with
  | prevented => exact .calledOff _ rfl rfl
  | interrupted => exact .calledOff _ rfl rfl
  | timedOut cancelled => exact .resumed _
  | returned outcome cancelled => exact .resumed _

/-- Where the model is to be asked again, it is, or the run fails. -/
theorem Run.next_cases (agent : Agent) (run : Run) (off : Bool) :
    (run.next agent off).stage = .awaitingModel ∨
      (off = true ∧ (run.next agent off).stage = .failed (.cancelled (run.next agent off).id)) ∨
      (agent.limits.maxIterations ≤ (run.next agent off).iterations ∧
        (run.next agent off).stage
          = .failed (.budgetExhausted (run.next agent off).id agent.limits.maxIterations)) := by
  unfold Run.next
  by_cases calledOff : off = true
  · rw [if_pos calledOff]
    exact Or.inr (Or.inl ⟨calledOff, rfl⟩)
  · rw [if_neg calledOff]
    by_cases spent : agent.limits.maxIterations ≤ run.iterations
    · rw [if_pos spent]
      exact Or.inr (Or.inr ⟨spent, rfl⟩)
    · rw [if_neg spent]
      exact Or.inl rfl

/-- A setback has the model asked again, unless the run fails. -/
theorem Move.triedAgain {events : List Event} {event : Event} {run : Run}
    (move : Move agent event run) (c : Course agent id task events run)
    (setback : event.isSetback agent = true) : TriedAgain agent id event run [] := by
  cases move with
  | resumed before =>
    rcases before.next_cases agent event.tellsOff with awaits | ⟨told, failed⟩ | ⟨spent, failed⟩
    · exact .waiting awaits
    · rw [c.id_reported.1] at failed
      exact .calledOff told failed
    · rw [c.id_reported.1] at failed
      exact .exhausted (UInt32.le_antisymm c.balanced.spentBound spent) failed
  | calledOff before fine => exact absurd (fine.symm.trans setback) nofun
  | failed before failure cancelled said =>
    subst said
    cases setback
  | carriedOn fine => exact absurd (fine.symm.trans setback) nofun

/-! ### What a run fails by -/

/-- Nothing that a run fails by is something that it recovers from. -/
theorem FailedBy.not_recoverable {events : List Event} {run : Run} {left : RunFailure}
    (failed : FailedBy agent id task events run left) :
    left.failure.kind.isRecoverable = false := by
  cases failed with
  | provider cancelled last kind => rw [kind]; rfl
  | calledOff told kind => rw [kind]; rfl
  | exhausted spent kind => rw [kind]; rfl

/-- A run that fails where the model is to be asked again. -/
theorem FailedBy.of_next {events : List Event} {before : Run} {off : Bool} {left : RunFailure}
    (c : Course agent id task events (before.next agent off))
    (told : off = true → before.next agent off = Run.start agent id task true ∨
      ∃ event, events.getLast? = some event ∧ event.tellsOff = true)
    (failed : (before.next agent off).stage = .failed left.failure)
    (iterations : left.iterations = (before.next agent off).iterations) :
    FailedBy agent id task events (before.next agent off) left := by
  rcases before.next_cases agent off with awaits | ⟨calledOff, stage⟩ | ⟨spent, stage⟩
  · rw [awaits] at failed
    cases failed
  · refine .calledOff (told calledOff) ?_
    rw [← Stage.failed.inj (stage.symm.trans failed)]
    rfl
  · refine .exhausted ?_ ?_
    · rw [iterations]
      exact UInt32.le_antisymm c.balanced.spentBound spent
    · rw [← Stage.failed.inj (stage.symm.trans failed)]
      rfl

/-- A run that has failed on a response. -/
theorem Move.failedBy {events : List Event} {event : Event} {run : Run} {left : RunFailure}
    (move : Move agent event run) (c : Course agent id task (events ++ [event]) run)
    (provided : event.ByProvider)
    (failed : run.stage = .failed left.failure) (iterations : left.iterations = run.iterations) :
    FailedBy agent id task (events ++ [event]) run left := by
  have last : (events ++ [event]).getLast? = some event := List.getLast?_concat
  cases move with
  | resumed before => exact .of_next c (fun told => Or.inr ⟨event, last, told⟩) failed iterations
  | calledOff before fine told =>
    refine .calledOff (Or.inr ⟨event, last, told⟩) ?_
    rw [← Stage.failed.inj failed]
    rfl
  | failed before failure cancelled said =>
    cases Stage.failed.inj failed
    subst said
    exact .provider cancelled last (provided left.failure cancelled rfl)
  | carriedOn fine going => exact absurd failed (going _)

theorem Course.failedBy {events : List Event} {run : Run} {left : RunFailure}
    (c : Course agent id task events run) (provided : ∀ event ∈ events, event.ByProvider)
    (failed : run.stage = .failed left.failure) (iterations : left.iterations = run.iterations) :
    FailedBy agent id task events run left := by
  cases c with
  | start cancelled =>
    refine .of_next (.start cancelled) (fun calledOff => ?_) failed iterations
    cases calledOff
    exact Or.inl rfl
  | model before awaited response =>
    have last := provided _ (List.mem_append_right _ (List.mem_singleton_self _))
    exact (Run.onModel_move agent _ response).failedBy (before.model awaited response) last failed
      iterations
  | tool before awaited response =>
    exact (Run.onTool_move agent _ _ response).failedBy (before.tool awaited response) trivial
      failed iterations

/-! ### What comes after a setback -/

/-- The model is asked, and so it is after a setback. -/
theorem TriedAgain.model {setback : Event} {run : Run} {after : List Event}
    (again : TriedAgain agent id setback run after) (awaited : run.stage = .awaitingModel)
    (response : Response (Except Failure String)) (next : Run) :
    TriedAgain agent id setback next (after ++ [.model response]) := by
  cases again with
  | asked earlier more begun => exact .asked earlier _ begun
  | prevented more => exact .prevented _
  | waiting _ =>
    cases response with
    | prevented => exact .prevented []
    | interrupted => exact .asked _ [] rfl
    | timedOut cancelled => exact .asked _ [] rfl
    | returned value cancelled => exact .asked _ [] rfl
  | calledOff told failed => exact absurd (failed.symm.trans awaited) nofun
  | exhausted spent failed => exact absurd (failed.symm.trans awaited) nofun

/-- A tool is called, but not at once after a setback. -/
theorem TriedAgain.tool {setback : Event} {run : Run} {after : List Event} {use : ToolUse}
    (again : TriedAgain agent id setback run after) (awaited : run.stage = .awaitingTool use)
    (response : Response (Except ToolFault String)) (next : Run) :
    TriedAgain agent id setback next (after ++ [.tool response]) := by
  cases again with
  | asked earlier more begun => exact .asked earlier _ begun
  | prevented more => exact .prevented _
  | waiting waits => exact absurd (waits.symm.trans awaited) nofun
  | calledOff told failed => exact absurd (failed.symm.trans awaited) nofun
  | exhausted spent failed => exact absurd (failed.symm.trans awaited) nofun

/-- A setback was the last thing that a run was given, or comes before it. -/
theorem split_concat {events before after : List Event} {last setback : Event}
    (split : events ++ [last] = before ++ setback :: after) :
    (after = [] ∧ setback = last) ∨
      ∃ more, after = more ++ [last] ∧ events = before ++ setback :: more := by
  rcases List.eq_nil_or_concat after with rfl | ⟨more, other, rfl⟩
  · obtain ⟨-, same⟩ := List.append_inj' split rfl
    exact Or.inl ⟨rfl, (List.singleton_inj.mp same).symm⟩
  · rw [List.concat_eq_append, ← List.cons_append, ← List.append_assoc] at split
    obtain ⟨earlier, same⟩ := List.append_inj' split rfl
    rw [List.singleton_inj.mp same]
    exact Or.inr ⟨more, List.concat_eq_append, earlier⟩

/-- After every setback of a course the model is asked again, if it can be. -/
theorem Course.triedAgain {events : List Event} {run : Run} (c : Course agent id task events run) :
    ∀ before setback after, events = before ++ setback :: after →
      setback.isSetback agent = true → TriedAgain agent id setback run after := by
  -- The last response is the setback itself, or it comes to a run that waits after one.
  induction c with
  | start cancelled =>
    intro before setback after split
    exact absurd split (by simp)
  | model earlier awaited response ih =>
    intro before setback after split setsBack
    rcases split_concat split with ⟨rfl, rfl⟩ | ⟨more, rfl, sooner⟩
    · exact (Run.onModel_move agent _ response).triedAgain (earlier.model awaited response) setsBack
    · exact (ih before setback more sooner setsBack).model awaited response _
  | tool earlier awaited response ih =>
    intro before setback after split setsBack
    rcases split_concat split with ⟨rfl, rfl⟩ | ⟨more, rfl, sooner⟩
    · exact (Run.onTool_move agent _ _ response).triedAgain (earlier.tool awaited response) setsBack
    · exact (ih before setback more sooner setsBack).tool awaited response _

theorem Course.recovering {events : List Event} {run : Run}
    (c : Course agent id task events run) (provided : ∀ event ∈ events, event.ByProvider) :
    Recovering agent id task events run := by
  refine ⟨?_, c.triedAgain⟩
  intro startedAt finishedAt left outcome
  obtain ⟨failed, -, iterations⟩ := Run.failed_of_outcome? outcome
  have why := c.failedBy provided failed iterations
  exact ⟨why, why.not_recoverable⟩

/-! ### Runs over a provider -/

/-- A model that fails as a provider does gives a run nothing else. -/
theorem CourseBy.byProvider {events : List Event} {run : Run}
    (c : CourseBy (fun _ event => event.ByProvider) agent id task events run) :
    ∀ event ∈ events, event.ByProvider := by
  induction c with
  | start cancelled => exact nofun
  | model before awaited response may ih =>
    exact List.forall_mem_append.mpr ⟨ih, List.forall_mem_singleton.mpr may⟩
  | tool before awaited response may ih =>
    exact List.forall_mem_append.mpr ⟨ih, List.forall_mem_singleton.mpr may⟩

/-- An endpoint, on whatever machine its requests are sent, fails as a provider does. -/
theorem Program.surroundings_byProvider {m : Type → Type} [Monad m] [LawfulMonad m]
    (host : Program.Host m) (e : Endpoint) (agent : Agent) (quiet : Bool) :
    (Program.surroundings host e agent quiet).GivesBy fun _ event => event.ByProvider :=
  ⟨Program.ask_byProvider host e agent.limits,
    fun run use _ => exists_map_val (fun _ => trivial) (pure (agent.callTool run use))⟩

/-- A run that is over, and has recovered wherever it could. -/
abbrev RecoveredRun (agent : Agent) (id : Uuid) (task : String) : Type :=
  { run : Run // run.stage.phase.isTerminal = true ∧
    ∃ events, Course agent id task events run ∧ Recovering agent id task events run }

/--
**A run fails by the provider, by being called off, or by its budget, and by nothing else.**
Whatever comes of asking an endpoint is either a reply or a failure of the provider, on
every machine.  In every course of a run over such a provider the kind of a failure is the
way in which it came about, and is none that the model could be told of; and after every
setback the model is asked again, if the run has not been called off and its budget is not
used up.  Wherever such responses come from, a run is taken to the end of such a course.
-/
theorem recovers_or_fails (agent : Agent) (id : Uuid) (task : String) :
    (∀ (e : Endpoint) messages delivery failure,
      e.prepare messages = .error failure ∨ e.readDelivery delivery = .error failure →
      failure.kind = .provider) ∧
    (∀ (m : Type → Type) [Monad m] [LawfulMonad m] (host : Program.Host m) e quiet,
      (Program.surroundings host e agent quiet).GivesBy fun _ event => event.ByProvider) ∧
    (∀ events run, Course agent id task events run → (∀ event ∈ events, event.ByProvider) →
      Recovering agent id task events run) ∧
    ∀ (m : Type → Type) [Monad m] [LawfulMonad m] (s : Surroundings m),
      (s.GivesBy fun _ event => event.ByProvider) → ∀ cancelled,
      ∃ ended : m (RecoveredRun agent id task),
        Subtype.val <$> ended
          = (Run.start agent id task cancelled).drive s agent agent.limits.responses := by
  refine ⟨?_, ?_, ?_, ?_⟩
  · rintro e messages delivery failure (failed | failed)
    · exact Endpoint.prepare_kind failed
    · exact Endpoint.readDelivery_kind failed
  · intro m _ _ host e quiet
    exact Program.surroundings_byProvider host e agent quiet
  · intro events run c provided
    exact c.recovering provided
  · intro m _ _ s gives cancelled
    refine start_ends_by gives (fun events run c => ⟨events, c.course, ?_⟩) cancelled
    exact c.course.recovering c.byProvider

/-- Four setbacks, each of another sort. -/
def fourSetbacks : List Event :=
  [.model (.timedOut false), .model (.returned (.ok "Let me see.") false),
    .model (.returned (.ok "Action: peek") false), .model (.returned (.ok "Action: look") false),
    .tool (.returned (.error (.failed "no light")) false)]

/-- After setbacks of every sort the model is asked again, until the provider fails. -/
theorem recovers_or_fails_look :
    let failure : Failure := .requestFailed "no service"
    let refused : Event := .model (.returned (.error failure) false)
    ∃ run left, Course (.looking 9) .nil "draw" (fourSetbacks ++ [refused]) run ∧
      run.outcome? (.looking 9) ⟨0, 0⟩ ⟨1, 0⟩ = some (.error left) ∧ left.failure = failure ∧
      left.failure.kind.isRecoverable = false ∧ left.iterations = 4 ∧
      run.conversations.length = 5 ∧
      TriedAgain (.looking 9) .nil (.tool (.returned (.error (.failed "no light")) false)) run
        [refused] := by
  intro failure refused
  have c : Course (.looking 9) .nil "draw" (fourSetbacks ++ [refused]) _ :=
    ((((((Course.start false).model rfl (.timedOut false)).model rfl
      (.returned (.ok "Let me see.") false)).model rfl
      (.returned (.ok "Action: peek") false)).model rfl
      (.returned (.ok "Action: look") false)).tool rfl
      (.returned (.error (.failed "no light")) false)).model rfl (.returned (.error failure) false)
  have provided : ∀ event ∈ fourSetbacks ++ [refused], event.ByProvider := by
    simp [fourSetbacks, refused, Event.ByProvider, Response.ByProvider, failure, Failure.kind]
  have recovering := (recovers_or_fails (.looking 9) .nil "draw").2.2.1 _ _ c provided
  exact ⟨_, _, c, rfl, rfl, (recovering.failed ⟨0, 0⟩ ⟨1, 0⟩ _ rfl).2, rfl, rfl,
    recovering.retried (fourSetbacks.take 4) _ _ rfl rfl⟩

end Draftsman
