/-
What the model is told before a conversation begins.
-/
import Draftsman.Agent.Tool
import Draftsman.Transcript.Step

namespace Draftsman

open Draftsman.Text (trimmed)

/-- What the model is told when its reply decided nothing. -/
def formatReminder : String :=
  "Could not parse a valid action or final answer; respond using the required format."

/-- The tools as they are listed to the model. -/
def toolListing (r : Registry) : String :=
  if r.tools.isEmpty then "(no tools are registered; answer directly)"
  else
    "\n".intercalate (r.descriptions.map fun (name, description) => s!"- **{name}**: {description}")

/-- The names of the tools, with commas between them. -/
def nameListing (r : Registry) : String := ", ".intercalate r.names

/-- The task of the model, its tools, and the form of its replies. -/
def promptLines (r : Registry) : List String :=
  ["You are a research assistant that turns technical descriptions into figures and diagrams. " ++
      "Work step by step and use tools instead of guessing.",
    "",
    "## Tools",
    "",
    toolListing r,
    "",
    "## Response Format",
    "",
    "Answer every turn in exactly one of these two shapes.",
    "",
    "To use a tool:",
    "",
    "Thought: what you are about to do and why",
    s!"Action: one of [{nameListing r}]",
    "Action Input: the input for the tool",
    "",
    "To finish:",
    "",
    "Thought: I now know the final answer",
    s!"{finalAction}: the answer for the user",
    "",
    "After an action, stop. The result will be sent back to you as `Observation: ...`; " ++
      "never write an observation yourself. If an observation starts with `Error:`, " ++
      "read it and try again with corrected input."]

/-- Further instructions, unless they are blank. -/
def instructionsText (instructions : Option String) : String :=
  match instructions.map trimmed with
  | none => ""
  | some text => if text.isEmpty then "" else s!"\n\n## Additional Instructions\n\n{text}"

/-- What the model is told before a conversation begins. -/
def systemPrompt (r : Registry) (instructions : Option String) : String :=
  "\n".intercalate (promptLines r) ++ instructionsText instructions

end Draftsman
