/-
Steps as they are shown to somebody who watches a run.
-/
import Draftsman.Text.Cut
import Draftsman.Transcript.Step

namespace Draftsman

open Draftsman.Text (lines)

/-- How many characters of a line are shown. -/
def previewLength : Nat := 160

/-- The first line of a text, cut short, with a mark if anything is left out. -/
def preview (text : String) : String :=
  let ls := lines text.toList
  let first := ls.headD []
  let shown := String.ofList (first.take previewLength)
  if previewLength < first.length ∨ 1 < ls.length then shown ++ " …" else shown

/-- A line with a title. -/
def titledLine (title text : String) : String := s!"{title}: {text}\n"

/-- The input of an action, if it has one. -/
def Step.inputLine (s : Step) : String :=
  if s.input.isEmpty then "" else titledLine "Action Input" (preview s.input)

/-- What a step did: the answer, or the action and what was observed. -/
def Step.deed (s : Step) : String :=
  if s.isFinal then titledLine finalAction s.input
  else
    titledLine "Action" s.action ++ s.inputLine ++
      titledLine "Observation" (preview s.observation)

/-- The step with a number as it is shown. -/
def Step.listing (number : Nat) (s : Step) : String :=
  s!"── step {number} ──\n" ++ (if s.thought.isEmpty then "" else titledLine "Thought" s.thought) ++
    s.deed

end Draftsman
