/-
What was drawn last.

The tool that draws keeps the document that it has drawn last, and the run keeps what it has
observed of its tools.  The two are written down at different moments: a document is drawn
as soon as the tool is called, and a step is recorded only when the call has come to its
end, which the end of the run may prevent.  They agree all the same, at every point of every
run, since a call that draws is over at once.

The other tools may do anything.  All that is asked of what surrounds a run is that what
comes of calling a tool is what the tool itself can come to.
-/
import Draftsman.Diagram.Tool
import Draftsman.Proofs.Agent.Registry
import Draftsman.Proofs.Run.Heard
import Draftsman.Proofs.Text.Blank
import Draftsman.Proofs.Text.Cut

namespace Draftsman

open Draftsman.Text (startsWith isAllBlank_iff blankString dropPrefix?_append)

/-! ### What calls come to -/

/-- What can be seen of a call by those who wait for it, whenever the run may be called off. -/
inductive Call.ComesTo {α : Type} (c : Call α) : Response α → Prop
  | prevented : c.ComesTo .prevented
  | interrupted (pending : c.delay ≠ .none) : c.ComesTo .interrupted
  | timedOut (pending : c.delay ≠ .none) (cancelled : Bool) : c.ComesTo (.timedOut cancelled)
  | returned (ends : c.delay ≠ .forever) (cancelled : Bool) :
      c.ComesTo (.returned c.value cancelled)

theorem Call.await_comesTo {α : Type} (limit : Nat) (c : Call α) : c.ComesTo (c.await limit) := by
  unfold Call.await
  split
  · rename_i atOnce
    exact .returned (by rw [atOnce]; exact nofun) _
  · rename_i n pending
    have waits : c.delay ≠ .none := by rw [pending]; exact nofun
    split
    · exact .interrupted waits
    · split
      · exact .returned (by rw [pending]; exact nofun) _
      · exact .timedOut waits _
  · rename_i pending
    have waits : c.delay ≠ .none := by rw [pending]; exact nofun
    split
    · exact .interrupted waits
    · exact .timedOut waits _

/-- Whether a run is given what can come of the tools of its agent; of its model anything may. -/
def Agent.Serves (agent : Agent) (run : Run) : Event → Prop
  | .model _ => True
  | .tool response => ∀ use c, run.stage = .awaitingTool use →
      agent.registry.call? run.invocations use.tool use.input = some c → c.ComesTo response

/-- The inputs of the calls of a tool, after one more call. -/
theorem inputsOf_concat (name : String) (log : List Invocation) (call : Invocation) :
    inputsOf name (log ++ [call])
      = inputsOf name log ++ if call.1 = name then [call.2] else [] := by
  by_cases same : call.1 = name <;> simp [inputsOf, List.filter_append, same]

namespace Diagram

/-! ### What is drawn -/

/-- A text that can be drawn takes the place of what was drawn before. -/
theorem lastDrawn_concat (inputs : List String) (input : String) :
    lastDrawn (inputs ++ [input])
      = match drawn input with
        | .ok svg => some svg
        | .error _ => lastDrawn inputs := by
  unfold lastDrawn
  rw [List.filterMap_append, List.getLast?_append]
  cases drew : drawn input with
  | ok svg => simp [drew, Except.toOption]
  | error fault => simp [drew, Except.toOption]

/-- A document begins with the tag of its outermost element. -/
theorem block_toList (name : String) (attributes : List Markup.Attribute)
    (children : List Markup.Element) :
    ∃ rest, (Markup.Element.block name attributes children).document.toList = '<' :: rest := by
  refine ⟨Markup.tagText name attributes ++ ['>', '\n'] ++
    (Markup.linesOf 1 children ++ Markup.lineAt 0 (Markup.closeTag name)), ?_⟩
  simp [Markup.Element.document, Markup.Element.lines, Markup.lineAt, Markup.openTag]

theorem drawn_toList {input svg : String} (drew : drawn input = .ok svg) :
    ∃ rest, svg.toList = '<' :: rest := by
  unfold drawn render at drew
  cases read : ofText input with
  | error fault =>
    rw [read] at drew
    cases drew
  | ok d =>
    rw [read] at drew
    rw [← Except.ok.inj drew]
    exact block_toList ..

/-! ### What is shown -/

/-- Whether a step shows what was drawn. -/
def shows (step : Step) : Bool :=
  step.action == toolName && !startsWith "Error: ".toList step.observation.toList

/-- What the last step shows that shows what was drawn. -/
def lastShown (steps : List Step) : Option String :=
  ((steps.filter shows).getLast?).map Step.observation

theorem lastShown_concat (steps : List Step) (step : Step) :
    lastShown (steps ++ [step])
      = if shows step then some step.observation else lastShown steps := by
  unfold lastShown
  by_cases shown : shows step = true <;> simp [List.filter_append, shown]

/-- What is observed of a call that draws shows what it has drawn, if it has drawn anything. -/
theorem lastShown_observed (steps : List Step) {use : ToolUse} (draws : use.tool = toolName) :
    lastShown (steps ++ [use.observed (Run.outcomeText (drawn use.input))])
      = match drawn use.input with
        | .ok svg => some svg
        | .error _ => lastShown steps := by
  rw [lastShown_concat]
  cases drew : drawn use.input with
  | ok svg =>
    obtain ⟨rest, text⟩ := drawn_toList drew
    have solid : blankString svg = false := by
      rw [Bool.eq_false_iff, blankString, ne_eq, isAllBlank_iff, text]
      intro blank
      exact absurd (blank '<' List.mem_cons_self) (by decide)
    have seen : Run.outcomeText (.ok svg) = svg := by rw [Run.outcomeText, if_neg (by simp [solid])]
    have shown : shows (use.observed svg) = true := by
      simp only [shows, ToolUse.observed, draws, text]
      rfl
    rw [seen, if_pos shown]
    rfl
  | error fault =>
    have told : startsWith "Error: ".toList (Run.outcomeText (.error fault)).toList = true := by
      show startsWith "Error: ".toList ("Error: " ++ fault.message).toList = true
      rw [String.toList_append, startsWith, dropPrefix?_append]
      rfl
    have hidden : shows (use.observed (Run.outcomeText (.error fault))) = false := by
      simp only [shows, ToolUse.observed, told, Bool.not_true, Bool.and_false]
    rw [if_neg (by simp [hidden])]

/-- A step for anything else does not show what was drawn. -/
theorem lastShown_other (steps : List Step) {step : Step} (other : step.action ≠ toolName) :
    lastShown (steps ++ [step]) = lastShown steps := by
  have hidden : shows step = false := by simp [shows, other]
  rw [lastShown_concat, if_neg (by simp [hidden])]

end Diagram

/-! ### What was drawn is shown -/

/-- What the tool has drawn last is what the last step shows that shows a drawing. -/
def Run.ShowsDrawn (run : Run) : Prop :=
  Diagram.lastDrawn (inputsOf Diagram.toolName run.invocations) = Diagram.lastShown run.steps

variable {agent : Agent} {id : Uuid} {task : String}

/-- What is recorded of a reply is its answer, or that it uses a tool that is not there. -/
theorem Run.stepInHand_model {run : Run} {response : Response (Except Failure String)} {step : Step}
    (hand : run.stepInHand agent (.model response) = some step) :
    step.action = finalAction ∨ agent.registry.contains step.action = false := by
  unfold Run.stepInHand at hand
  split at hand
  · split at hand
    · cases hand
      exact Or.inl rfl
    · split at hand
      · cases hand
      · rename_i missing
        cases hand
        exact Or.inr (Bool.eq_false_iff.mpr missing)
    · cases hand
  · rename_i given
    cases given
  · cases hand

/-- Whatever comes of asking the model, nothing is drawn by it, and no drawing is shown. -/
theorem Run.ShowsDrawn.onModel {run : Run} (agree : run.ShowsDrawn)
    (there : agent.registry.contains Diagram.toolName = true)
    (response : Response (Except Failure String)) : (run.onModel agent response).ShowsDrawn := by
  obtain ⟨steps, -, invocations⟩ := run.onModel_adds agent response
  rw [List.append_nil] at invocations
  unfold Run.ShowsDrawn
  rw [invocations, steps, agree]
  cases hand : run.stepInHand agent (.model response) with
  | none => rw [Option.toList_none, List.append_nil]
  | some step =>
    have other : step.action ≠ Diagram.toolName := by
      intro same
      rcases Run.stepInHand_model hand with final | missing
      · exact absurd (same.symm.trans final) (by decide)
      · rw [same, there] at missing
        cases missing
    exact (Diagram.lastShown_other _ other).symm

/-- What is recorded of a call names its tool. -/
theorem Run.stepInHand_tool {run : Run} {use : ToolUse} (awaited : run.stage = .awaitingTool use)
    {response : Response (Except ToolFault String)} {step : Step}
    (hand : run.stepInHand agent (.tool response) = some step) : step.action = use.tool := by
  simp only [Run.stepInHand, awaited] at hand
  cases response with
  | prevented => cases hand
  | interrupted => cases hand
  | timedOut cancelled =>
    cases hand
    rfl
  | returned outcome cancelled =>
    cases hand
    rfl

/-- A call of the tool that draws is over at once, and its step shows what it has drawn. -/
theorem Run.ShowsDrawn.onTool_draws {run : Run} (agree : run.ShowsDrawn)
    (orderly : agent.registry.Orderly) (here : Diagram.tool ∈ agent.registry.tools) {use : ToolUse}
    (draws : use.tool = Diagram.toolName) (awaited : run.stage = .awaitingTool use)
    {response : Response (Except ToolFault String)}
    (served : agent.Serves run (.tool response)) : (run.onTool agent use response).ShowsDrawn := by
  have called : agent.registry.call? run.invocations use.tool use.input
      = some (.immediate (Diagram.drawn use.input)) := by
    have found : agent.registry.find? use.tool = some Diagram.tool := by
      rw [draws]
      exact orderly.find?_eq here
    rw [Registry.call?, found]
    rfl
  obtain ⟨steps, -, invocations⟩ := Run.onTool_adds agent awaited response
  unfold Run.ShowsDrawn
  rw [invocations, steps]
  cases served use _ awaited called with
  | prevented =>
    have hand : run.stepInHand agent (.tool .prevented) = none := by
      simp only [Run.stepInHand, awaited]
    rw [hand, if_neg (by simp [Response.started]), Option.toList_none, List.append_nil,
      List.append_nil, agree]
  | interrupted pending => exact absurd rfl pending
  | timedOut pending => exact absurd rfl pending
  | returned ends cancelled =>
    let outcome := Diagram.drawn use.input
    have hand : run.stepInHand agent (.tool (.returned outcome cancelled))
        = some (use.observed (Run.outcomeText outcome)) := by
      simp only [Run.stepInHand, awaited]
    show Diagram.lastDrawn (inputsOf _ (run.invocations ++ [(use.tool, use.input)]))
      = Diagram.lastShown
          (run.steps ++ (run.stepInHand agent (.tool (.returned outcome cancelled))).toList)
    rw [hand, Option.toList_some, Diagram.lastShown_observed _ draws, inputsOf_concat,
      if_pos draws, Diagram.lastDrawn_concat, agree]

/-- A call of another tool draws nothing, and its step, if there is one, shows no drawing. -/
theorem Run.ShowsDrawn.onTool_other {run : Run} (agree : run.ShowsDrawn) {use : ToolUse}
    (other : use.tool ≠ Diagram.toolName) (awaited : run.stage = .awaitingTool use)
    (response : Response (Except ToolFault String)) :
    (run.onTool agent use response).ShowsDrawn := by
  obtain ⟨steps, -, invocations⟩ := Run.onTool_adds agent awaited response
  have shown : Diagram.lastShown (run.steps ++ (run.stepInHand agent (.tool response)).toList)
      = Diagram.lastShown run.steps := by
    cases hand : run.stepInHand agent (.tool response) with
    | none => rw [Option.toList_none, List.append_nil]
    | some step =>
      refine Diagram.lastShown_other _ ?_
      rw [Run.stepInHand_tool awaited hand]
      exact other
  unfold Run.ShowsDrawn
  rw [invocations, steps, shown, ← agree]
  split
  · rw [inputsOf_concat, if_neg other, List.append_nil]
  · rw [List.append_nil]

/-- The tool that draws and the run agree, at every point of every course. -/
theorem CourseBy.showsDrawn {events : List Event} {run : Run} (orderly : agent.registry.Orderly)
    (here : Diagram.tool ∈ agent.registry.tools)
    (c : CourseBy agent.Serves agent id task events run) : run.ShowsDrawn := by
  have there : agent.registry.contains Diagram.toolName = true := by
    rw [Registry.contains_iff]
    exact List.mem_map.mpr ⟨Diagram.tool, here, rfl⟩
  induction c with
  | start cancelled =>
    unfold Run.ShowsDrawn Run.start
    rw [Run.next_invocations, Run.next_steps]
    rfl
  | model before awaited response may ih => exact ih.onModel there response
  | @tool events run use before awaited response may ih =>
    by_cases draws : use.tool = Diagram.toolName
    · exact ih.onTool_draws orderly here draws awaited may
    · exact ih.onTool_other draws awaited response

/-- Surroundings that call the tools of the agent give a run what can come of them. -/
theorem Surroundings.givesBy_serves {m : Type → Type} [Monad m] [LawfulMonad m]
    {s : Surroundings m} (calls : ∀ run use, s.call run use = pure (agent.callTool run use)) :
    s.GivesBy agent.Serves := by
  refine ⟨fun run => exists_map_val (fun _ => trivial) (s.ask run), ?_⟩
  intro run use awaited
  have served : agent.Serves run (.tool (agent.callTool run use)) := by
    intro other c waits found
    cases Stage.awaitingTool.inj (awaited.symm.trans waits)
    rw [Agent.callTool, found]
    exact c.await_comesTo _
  refine ⟨pure ⟨_, served⟩, ?_⟩
  rw [map_pure, calls]

/--
**What was drawn last is what the last step shows that shows a drawing**, and nothing was
drawn if there is no such step.  That holds at every point of a run, and so when it is
over, however it has ended: whatever the model replies, in whatever order texts are drawn
that can be drawn and that cannot, whatever the other tools do, and whenever the run is
called off.
-/
theorem drawn_last_is_shown_last {tools : List Tool}
    (built : Registry.ofList tools = .ok agent.registry) (here : Diagram.tool ∈ tools) (id : Uuid)
    (task : String) :
    (∀ events run, CourseBy agent.Serves agent id task events run →
      Diagram.lastDrawn (inputsOf Diagram.toolName run.invocations)
        = Diagram.lastShown run.steps) ∧
    ∀ (m : Type → Type) [Monad m] [LawfulMonad m] (s : Surroundings m),
      (∀ run use, s.call run use = pure (agent.callTool run use)) → ∀ cancelled,
      ∃ ended : m { run : Run // run.stage.phase.isTerminal = true ∧
          Diagram.lastDrawn (inputsOf Diagram.toolName run.invocations)
            = Diagram.lastShown run.steps },
        Subtype.val <$> ended
          = (Run.start agent id task cancelled).drive s agent agent.limits.responses := by
  have orderly := Registry.ofList_orderly built
  have among : Diagram.tool ∈ agent.registry.tools := by rwa [Registry.ofList_tools built]
  refine ⟨fun events run c => c.showsDrawn orderly among, ?_⟩
  intro m _ _ s calls cancelled
  exact start_ends_by (Surroundings.givesBy_serves calls)
    (fun events run c => c.showsDrawn orderly among) cancelled

/-- An agent that can draw, and look around. -/
def Agent.drawing (maxIterations : UInt32) : Agent :=
  ⟨⟨[⟨"look", "Looks around.", fun _ _ => .immediate (.ok "")⟩, Diagram.tool]⟩,
    { Limits.default with maxIterations }, "scripted"⟩

/-- A call that drew nothing, and one that was prevented, leave what was drawn before. -/
theorem drawn_last_is_shown_last_arrow :
    ∃ (d : Diagram) (events : List Event) (run : Run), Diagram.ofText "a -> b" = .ok d ∧
      CourseBy (Agent.drawing 5).Serves (.drawing 5) .nil "draw" events run ∧
      run.stage = .failed (.cancelled .nil) ∧
      run.invocations = [("generate_diagram", "a -> b"), ("generate_diagram", "a b")] ∧
      Diagram.lastShown run.steps = some d.svg := by
  have built : Registry.ofList
      [⟨"look", "Looks around.", fun _ _ => .immediate (.ok "")⟩, Diagram.tool]
        = .ok (Agent.drawing 5).registry := rfl
  have asked : CourseBy (Agent.drawing 5).Serves (.drawing 5) .nil "draw" _ _ :=
    (CourseBy.start false).model rfl
      (.returned (.ok "Action: generate_diagram\nAction Input: a -> b") false) trivial
  have drew := asked.tool rfl (.returned (Diagram.drawn "a -> b") false) (by
    rintro use c ⟨⟩ ⟨⟩
    exact .returned (by decide) false)
  have askedAgain := drew.model rfl
    (.returned (.ok "Action: generate_diagram\nAction Input: a b") false) trivial
  have failed := askedAgain.tool rfl (.returned (Diagram.drawn "a b") false) (by
    rintro use c ⟨⟩ ⟨⟩
    exact .returned (by decide) false)
  have askedOnce := failed.model rfl
    (.returned (.ok "Action: generate_diagram\nAction Input: b -> a") false) trivial
  have ended := askedOnce.tool rfl .prevented fun _ _ _ _ => .prevented
  have same := (drawn_last_is_shown_last built (by simp) .nil "draw").1 _ _ ended
  have drawn : Diagram.lastDrawn ["a -> b", "a b"] = some _ := rfl
  exact ⟨_, _, _, rfl, ended, rfl, rfl, same.symm.trans drawn⟩

end Draftsman
