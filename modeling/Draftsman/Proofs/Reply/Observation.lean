/-
What a model invents for an observation does not matter.

Nothing is ever read from an observation: what a reply decides, it decides by its preamble and
its other sections (`Outline.heard`).  And an observation ends where the next heading begins,
so that its text has no part in finding the headings behind it, as long as there is none in
the text itself.  A heading behind an observation stands in no input, whatever was before; so
the sections above and below an observation are the same, with whatever text it is written.
-/
import Draftsman.Proofs.Reply.Written

namespace Draftsman.Reply

open Draftsman.Text

/-! ### What is read of an outline -/

/-- An outline without its observations. -/
def Outline.heard (o : Outline) : Outline :=
  ⟨o.preamble, o.sections.filter fun s => s.label != .observation⟩

/-- The other sections are found as before. -/
theorem find?_heard (o : Outline) (label : Label) (other : label ≠ .observation) :
    o.heard.find? label = o.find? label := by
  have same : ∀ s : Section, (s.label != .observation && s.label == label) = (s.label == label) := by
    intro s
    by_cases is : s.label = label
    · simp [is, other]
    · simp [is]
  unfold Outline.find? Outline.heard
  rw [List.find?_filter]
  simp only [Bool.decide_and, Bool.decide_eq_true, same]

/-- **What a reply decides does not depend on its observations.** -/
theorem decision_heard (o : Outline) : o.heard.decision = o.decision := by
  have preamble : o.heard.preamble = o.preamble := rfl
  unfold Outline.decision
  rw [find?_heard o .thought nofun, find?_heard o .finalAnswer nofun,
    find?_heard o .action nofun, find?_heard o .actionInput nofun, preamble]

/-! ### An observation between other sections -/

section Between

variable {s : Section} {before behind : List Section} {preamble : List Char}

/-- Without its observations an outline has the sections around them. -/
theorem heard_append (observed : s.label = .observation) :
    (Outline.mk preamble (before ++ s :: behind)).heard
      = (Outline.mk preamble (before ++ behind)).heard := by
  simp [Outline.heard, observed]

/-- Neither an observation nor what is behind it stands before the first observation. -/
theorem beforeObservation_append (observed : s.label = .observation) :
    (Outline.mk preamble (before ++ s :: behind)).beforeObservation
      = (Outline.mk preamble before).beforeObservation := by
  unfold Outline.beforeObservation
  dsimp only
  rw [takeWhile_append_stop (p := fun s : Section => s.label != .observation) (by simp [observed])]

/-- What is behind an observation is cut, whatever it is, and so is the observation. -/
theorem stripObservation_append {reply : List Char} (observed : s.label = .observation)
    (read : outline reply = ⟨preamble, before ++ s :: behind⟩) :
    stripObservation reply = trimEnd (Outline.mk preamble before).beforeObservation := by
  have mem : .observation ∈ (outline reply).labels := by
    rw [read]
    exact List.mem_map.mpr ⟨s, List.mem_append_right before List.mem_cons_self, observed⟩
  rw [stripObservation_of_mem mem, read, beforeObservation_append observed]

end Between

/-- An observation between two texts is a section between theirs. -/
theorem outline_observation {body : List Char} (plain : Unheaded false body)
    (above below : List Char) :
    ∃ s : Section, s.label = .observation ∧
      outline (above ++ '\n' :: (Label.observation.title ++ ' ' :: body ++ '\n' :: below))
        = ⟨(outline (above ++ ['\n'])).preamble,
            (outline (above ++ ['\n'])).sections ++ s :: (outline below).sections⟩ := by
  have fits : Part.Fits (.observation, ' ' :: body) := fits_beside .observation plain
  have headed := fun inInput => outlineLines_part fits inInput below
  refine ⟨{ Part.section (.observation, ' ' :: body) with
    body := (Part.section (.observation, ' ' :: body)).body ++ (outline below).preamble }, rfl, ?_⟩
  unfold outline
  rw [wholeLines_append_ended]
  exact outlineLines_append_headed headed false _

/-! ### Two replies with different observations -/

/--
**What is invented for an observation has no influence.**  Two replies that differ in nothing
but the text of an observation decide the same, and the same is left of them when they are
cut at their first observation.
-/
theorem decision_observation_congr {above below body other : String}
    (plain : Unheaded false body.toList) (plain' : Unheaded false other.toList) :
    decision (above ++ "\nObservation: " ++ body ++ "\n" ++ below)
      = decision (above ++ "\nObservation: " ++ other ++ "\n" ++ below) ∧
    stripObservation (above ++ "\nObservation: " ++ body ++ "\n" ++ below).toList
      = stripObservation (above ++ "\nObservation: " ++ other ++ "\n" ++ below).toList := by
  have lines : ∀ text : String,
      (above ++ "\nObservation: " ++ text ++ "\n" ++ below).toList
        = above.toList ++ '\n' :: (Label.observation.title ++ ' ' :: text.toList
            ++ '\n' :: below.toList) := by
    intro text
    simp [Label.title, Label.words]
  obtain ⟨s, observed, read⟩ := outline_observation plain above.toList below.toList
  obtain ⟨t, observed', read'⟩ := outline_observation plain' above.toList below.toList
  rw [← lines] at read read'
  constructor
  · have same : (outline (above ++ "\nObservation: " ++ body ++ "\n" ++ below).toList).heard
        = (outline (above ++ "\nObservation: " ++ other ++ "\n" ++ below).toList).heard := by
      rw [read, read', heard_append observed, heard_append observed']
    rw [decision, decision, ← decision_heard, same, decision_heard]
  · rw [stripObservation_append observed read, stripObservation_append observed' read']

/--
Behind an observation a number sign begins no remark any more, even if the observation came
after an input; what the model goes on with does not depend on what it made up.
-/
theorem decision_observation_congr_goesOn :
    Unheaded false "".toList ∧ Unheaded false "* 3 results:\n# one\n> two: three".toList ∧
    decision ("Action: look\nAction Input: up\n# Action: down" ++ "\nObservation: " ++ "" ++ "\n"
        ++ "# Thought: so it is\nAction: feed")
      = decision ("Action: look\nAction Input: up\n# Action: down" ++ "\nObservation: "
        ++ "* 3 results:\n# one\n> two: three" ++ "\n" ++ "# Thought: so it is\nAction: feed") ∧
    stripObservation ("Action: look\nAction Input: up\n# Action: down" ++ "\nObservation: " ++ ""
        ++ "\n" ++ "# Thought: so it is\nAction: feed").toList
      = stripObservation ("Action: look\nAction Input: up\n# Action: down" ++ "\nObservation: "
        ++ "* 3 results:\n# one\n> two: three" ++ "\n"
        ++ "# Thought: so it is\nAction: feed").toList := by
  have plain : Unheaded false "".toList := by decide
  have plain' : Unheaded false "* 3 results:\n# one\n> two: three".toList := by decide
  exact ⟨plain, plain', decision_observation_congr plain plain'⟩

end Draftsman.Reply
