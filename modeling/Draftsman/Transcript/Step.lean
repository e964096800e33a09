/-
The steps of a run.

A step is a thought, the action it led to, and what was observed.  The last step of
a run that comes to its end has the answer in place of an action; it is told by the
name of its action, which is that of no tool.
-/
import Draftsman.Json.Codec

namespace Draftsman

open Draftsman.Json (Codec)

/-- One step of a run. -/
structure Step where
  thought : String
  /-- The name of a tool, or `finalAction`. -/
  action : String
  /-- The input of the tool, or the answer. -/
  input : String
  /-- What the tool returned, or why it did not; empty in the last step. -/
  observation : String
  deriving DecidableEq, Repr

/-- The action of the last step of a run. -/
def finalAction : String := "Final Answer"

/-- The step that holds the answer. -/
def Step.final (thought answer : String) : Step := ⟨thought, finalAction, answer, ""⟩

/-- Whether a step holds the answer. -/
def Step.isFinal (s : Step) : Bool := s.action == finalAction

/-- Steps. -/
def Step.codec : Codec Step :=
  (Codec.record "AgentStep" <|
    .cons (.required "thought" .string) <|
    .cons (.required "action" .string) <|
    .cons (.required "actionInput" .string) <|
    .cons (.required "observation" .string) .nil).map
    (fun (thought, action, input, observation, _) => ⟨thought, action, input, observation⟩)
    (fun s => (s.thought, s.action, s.input, s.observation, ()))

end Draftsman
