/-
Whether the conversation shows the call that is made.

A reply that uses a tool is read as a whole: its first action counts, wherever it stands,
and so does its first input.  What is kept of the reply ends at its first observation, and
has no blanks around it.  So the call that a reader of the conversation finds may be
another one than the call that was made, or there may be none.  What is kept of a reply
has an outline that can be told from the outline of the reply (`Outline.kept`), and from
it follows when the two calls are the same.
-/
import Draftsman.Agent.Run
import Draftsman.Proofs.Reply.Call
import Draftsman.Proofs.Reply.Trim

namespace Draftsman

namespace Reply

/-! ### What is kept of an outline -/

/-- The outline of what stands before the first observation. -/
def Outline.shown (o : Outline) : Outline :=
  ⟨o.preamble, o.sections.takeWhile fun s => s.label != .observation⟩

/-- What becomes of an outline when its reply is cut at the first observation and trimmed. -/
def Outline.kept (o : Outline) : Outline := o.shown.trimStart

/-- A section that stands before the first observation, or nowhere, is found as in the whole. -/
theorem find?_shown {o : Outline} {label : Label}
    (early : label ∈ o.labels → label ∈ o.shown.labels) : o.shown.find? label = o.find? label := by
  by_cases mem : label ∈ o.labels
  · have some := (Outline.find?_isSome o.shown label).mpr (early mem)
    obtain ⟨body, found⟩ := Option.isSome_iff_exists.mp some
    rw [found]
    unfold Outline.find? at found ⊢
    rw [Option.map_eq_some_iff] at found
    obtain ⟨s, found, rfl⟩ := found
    rw [← List.takeWhile_append_dropWhile (p := fun s : Section => s.label != .observation)
      (l := o.sections), List.find?_append]
    show _ = ((o.shown.sections.find? fun s => s.label == label).or _).map _
    rw [found]
    rfl
  · have absent : label ∉ o.shown.labels :=
      fun kept => mem (List.map_subset _ (List.takeWhile_sublist _).subset kept)
    rw [← Outline.find?_isSome, Bool.not_eq_true, Option.isSome_eq_false_iff,
      Option.isNone_iff_eq_none] at mem absent
    rw [mem, absent]

/-- A thought or an observation that comes to light hides none of the other sections. -/
theorem find?_trimStart {o : Outline} {label : Label}
    (harmless : ∀ s ∈ o.revealed?, s.label ≠ .actionInput ∧ s.label ≠ label) :
    o.trimStart.find? label = o.find? label := by
  cases revealed : o.revealed? with
  | none => rw [trimStart_of_none revealed]; rfl
  | some s =>
    obtain ⟨input, other⟩ := harmless s revealed
    rw [trimStart_of_some revealed, if_neg input]
    unfold Outline.find?
    rw [List.find?_cons_of_neg (by simpa using other)]

/-! ### The call that is left -/

/-- What is needed for the call of a reply to be shown by what is kept of it. -/
structure Outline.CallFirst (o : Outline) : Prop where
  /-- If a blank at the beginning hides a heading, it is none that a call is read from. -/
  revealed : ∀ s ∈ o.revealed?, s.label = .thought ∨ s.label = .observation
  /-- There is an action before the first observation. -/
  action : .action ∈ o.shown.labels
  /-- If there is an input, there is one before the first observation. -/
  input : .actionInput ∈ o.labels → .actionInput ∈ o.shown.labels

/-- What is kept of an outline has the sections that its call is read from. -/
theorem Outline.CallFirst.find?_kept {o : Outline} (first : o.CallFirst) {label : Label}
    (read : label ≠ .thought ∧ label ≠ .observation)
    (early : label ∈ o.labels → label ∈ o.shown.labels) : o.kept.find? label = o.find? label := by
  have harmless : ∀ s ∈ o.shown.revealed?, s.label ≠ .actionInput ∧ s.label ≠ label := by
    intro s revealed
    rcases first.revealed s revealed with thought | observed
    · rw [thought]
      exact ⟨nofun, read.1.symm⟩
    · rw [observed]
      exact ⟨nofun, read.2.symm⟩
  rw [Outline.kept, find?_trimStart harmless, find?_shown early]

end Reply

open Reply (outline)

/-! ### The call that is shown -/

/-- **What is kept of a reply decides what its outline says that it does.** -/
theorem decision_keptReply (reply : String) :
    Reply.decision (Run.keptReply reply) = (outline reply.toList).kept.decision := by
  simp only [Reply.decision, Run.keptReply, Text.trimmed, String.toList_ofList,
    Reply.trim_stripObservation]
  rw [← Reply.decision_gist, Reply.gist_trim, Reply.outline_beforeObservation, Reply.decision_gist]
  rfl

/--
**When the conversation shows the call that is made.**  What is kept of a reply that uses
a tool uses the same tool with the same input exactly if the call can be read from the
sections that are left of the reply.  This is so whenever an action stands before the
first observation, an input as well if there is one, and no blank before the reply hides
a heading.
-/
theorem call_shown_iff {reply thought tool input : String}
    (said : Reply.decision reply = .ok (.act thought tool input)) :
    ((∃ shown, Reply.decision (Run.keptReply reply) = .ok (.act shown tool input)) ↔
      (outline reply.toList).kept.find? .finalAnswer = none ∧
        ∃ body, (outline reply.toList).kept.find? .action = some body ∧
          Reply.toolAndInput body ((outline reply.toList).kept.find? .actionInput)
            = (tool.toList, input.toList)) ∧
    ((outline reply.toList).CallFirst →
      ∃ shown, Reply.decision (Run.keptReply reply) = .ok (.act shown tool input)) := by
  obtain ⟨named, unfinished, body, found, call⟩ :=
    (Reply.decision_eq_act_iff (outline reply.toList) tool input).mp ⟨thought, said⟩
  have shown : (∃ shown, Reply.decision (Run.keptReply reply) = .ok (.act shown tool input)) ↔
      (outline reply.toList).kept.find? .finalAnswer = none ∧
        ∃ body, (outline reply.toList).kept.find? .action = some body ∧
          Reply.toolAndInput body ((outline reply.toList).kept.find? .actionInput)
            = (tool.toList, input.toList) := by
    rw [decision_keptReply, Reply.decision_eq_act_iff, and_iff_right named]
  refine ⟨shown, fun first => shown.mpr ?_⟩
  have none : Reply.Label.finalAnswer ∉ (outline reply.toList).labels := by
    rw [← Reply.Outline.find?_isSome, unfinished]
    exact nofun
  have answer : (outline reply.toList).kept.find? .finalAnswer
      = (outline reply.toList).find? .finalAnswer :=
    first.find?_kept ⟨nofun, nofun⟩ fun mem => absurd mem none
  have action : (outline reply.toList).kept.find? .action
      = (outline reply.toList).find? .action :=
    first.find?_kept ⟨nofun, nofun⟩ fun _ => first.action
  have text : (outline reply.toList).kept.find? .actionInput
      = (outline reply.toList).find? .actionInput :=
    first.find?_kept ⟨nofun, nofun⟩ first.input
  rw [answer, action, text]
  exact ⟨unfinished, body, found, call⟩

/-- A made-up observation and a second action behind the call do not get in its way. -/
theorem call_shown_iff_look :
    Reply.decision
        "Thought: look\nAction: look\nAction Input: up\nObservation: a cat\nAction: feed"
      = .ok (.act "look" "look" "up") ∧
    ∃ shown, Reply.decision (Run.keptReply
        "Thought: look\nAction: look\nAction Input: up\nObservation: a cat\nAction: feed")
      = .ok (.act shown "look" "up") := by
  have said : Reply.decision
        "Thought: look\nAction: look\nAction Input: up\nObservation: a cat\nAction: feed"
      = .ok (.act "look" "look" "up") := rfl
  refine ⟨said, (call_shown_iff said).2 ⟨?_, ?_, ?_⟩⟩
  · rintro s ⟨⟩
  · decide
  · decide

/-- An input behind a made-up observation counts for the call, and is not shown. -/
theorem not_call_shown :
    ¬ ∀ reply thought tool input : String,
      Reply.decision reply = .ok (.act thought tool input) →
      ∃ shown, Reply.decision (Run.keptReply reply) = .ok (.act shown tool input) := by
  intro claimed
  obtain ⟨shown, same⟩ :=
    claimed "Action: look\nObservation: a cat\nAction Input: up" "" "look" "up" rfl
  have kept : Reply.decision (Run.keptReply "Action: look\nObservation: a cat\nAction Input: up")
      = .ok (.act "" "look" "") := rfl
  rw [kept] at same
  simp at same

end Draftsman
