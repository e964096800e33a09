/-
Tools, and the registry in which a model finds them.

A tool takes a text and returns a text.  What a call does may depend on the calls
before it, so a tool is a function of the inputs it was given so far.  A registry
holds tools with different names, in the order in which they were registered; that
is the order in which they are listed to the model.
-/
import Draftsman.Agent.Failure

namespace Draftsman

open Draftsman.Text (isBlank)

/-- Why a tool did not return anything. -/
inductive ToolFault where
  /-- The tool does not understand its input. -/
  | invalidInput (reason : String)
  /-- The tool understood its input, and failed. -/
  | failed (reason : String)
  deriving DecidableEq, Repr

/-- The message for a fault. -/
def ToolFault.message : ToolFault → String
  | .invalidInput reason => s!"invalid input: {reason}"
  | .failed reason => reason

/-! ### Calls -/

/-- How long a call takes. -/
inductive Delay where
  | none
  | millis (n : Nat)
  /-- The call never comes to its end. -/
  | forever
  deriving DecidableEq, Repr

/-- What a call does: it may call off the run, then takes its time, and returns a value. -/
structure Call (α : Type) where
  cancels : Bool
  delay : Delay
  value : α
  deriving Repr

/-- A call that returns at once. -/
def Call.immediate {α : Type} (value : α) : Call α := ⟨false, .none, value⟩

/--
What whoever waits for a call gets to see; `cancelled` is whether the run is called off
by then.
-/
inductive Response (α : Type) where
  /-- The run was called off before the call began. -/
  | prevented
  /-- The run was called off while the call was under way. -/
  | interrupted
  /-- The call took longer than it may. -/
  | timedOut (cancelled : Bool)
  | returned (value : α) (cancelled : Bool)
  deriving Repr

/-- Whether a call was begun. -/
def Response.started {α : Type} : Response α → Bool
  | .prevented => false
  | _ => true

/-- The response with another value, if there is one. -/
def Response.map {α β : Type} (f : α → β) : Response α → Response β
  | .prevented => .prevented
  | .interrupted => .interrupted
  | .timedOut cancelled => .timedOut cancelled
  | .returned value cancelled => .returned (f value) cancelled

/--
Waits for a call, at most `limit` milliseconds.  A call that returns at once has
returned before anyone notices that it called off the run.
-/
def Call.await {α : Type} (limit : Nat) (c : Call α) : Response α :=
  match c.delay with
  | .none => .returned c.value c.cancels
  | .millis n =>
    if c.cancels then .interrupted
    else if n ≤ limit then .returned c.value false
    else .timedOut false
  | .forever => if c.cancels then .interrupted else .timedOut false

/-! ### Tools -/

/-- A tool. -/
structure Tool where
  name : String
  /-- Tells the model when and how to use the tool. -/
  description : String
  /-- What a call does, given the inputs of the calls before it, the oldest first. -/
  call : (earlier : List String) → (input : String) → Call (Except ToolFault String)

/-- A call that was made: the name of the tool, and its input. -/
abbrev Invocation := String × String

/-- The inputs of the calls of one tool. -/
def inputsOf (name : String) (log : List Invocation) : List String :=
  (log.filter fun call => call.1 == name).map Prod.snd

/-! ### The registry -/

/-- Tools in the order of their registration. -/
structure Registry where
  tools : List Tool

namespace Registry

/-- No tools. -/
def empty : Registry := ⟨[]⟩

/-- The names of the tools. -/
def names (r : Registry) : List String := r.tools.map Tool.name

/-- The names of the tools with their descriptions. -/
def descriptions (r : Registry) : List (String × String) :=
  r.tools.map fun tool => (tool.name, tool.description)

/-- The tool with a name. -/
def find? (r : Registry) (name : String) : Option Tool :=
  r.tools.find? fun tool => tool.name == name

/-- Whether there is a tool with a name. -/
def contains (r : Registry) (name : String) : Bool := (r.find? name).isSome

/-- Whether a tool may have a name: it must not be empty, nor hold a blank. -/
def isName (name : String) : Bool := !name.isEmpty && !name.toList.any isBlank

/-- Adds a tool, unless its name is no name or is taken. -/
def register (r : Registry) (tool : Tool) : Except Failure Registry :=
  if !isName tool.name then .error (.invalidToolName tool.name)
  else if r.contains tool.name then .error (.duplicateTool tool.name)
  else .ok ⟨r.tools ++ [tool]⟩

/-- The registry of a list of tools. -/
def ofList (tools : List Tool) : Except Failure Registry := tools.foldlM register empty

/-- The call of a tool by its name, if there is one, `log` being the calls made before. -/
def call? (r : Registry) (log : List Invocation) (name input : String) :
    Option (Call (Except ToolFault String)) :=
  (r.find? name).map fun tool => tool.call (inputsOf name log) input

/-- What the call of a tool returns, however long it takes. -/
def dispatch (r : Registry) (log : List Invocation) (name input : String) :
    Except Failure String :=
  match r.call? log name input with
  | none => .error (.unknownTool name)
  | some c => c.value.mapError fun fault => .toolFailed name fault.message

end Registry

end Draftsman
