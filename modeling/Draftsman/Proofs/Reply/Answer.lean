/-
How much of a reply is its answer.

An answer begins behind its heading and goes on up to the next heading of another kind, so
that a line in it which looks like the heading of an answer is part of it (`Answered.whole`).
What is read, though, is the first section that has the label of an answer, and a section
ends at the next heading of any kind.  So the answer is read whole exactly if no further
heading of an answer comes before any other one; if there is such a heading, then what is
below it is lost, since a heading is never blank.
-/
import Draftsman.Reply.Decision
import Draftsman.Proofs.Reply.Section

namespace Draftsman.Reply

open Draftsman.Text

/-! ### What a reply concludes with -/

/-- A reply concludes with a text: that is its answer, or it has none if the text is blank. -/
def Concludes (result : Except Fault Decision) (text : List Char) : Prop :=
  if trim text = [] then result = .error .emptyAnswer
  else ∃ thought, result = .ok (.conclude thought (String.ofList (trim text)))

/-- What a reply concludes with can be told from it, but for the blanks around the text. -/
theorem Concludes.iff_trim_eq {result : Except Fault Decision} {text other : List Char}
    (here : Concludes result text) : Concludes result other ↔ trim other = trim text := by
  constructor
  · intro there
    unfold Concludes at here there
    by_cases empty : trim text = []
    · rw [if_pos empty] at here
      by_cases empty' : trim other = []
      · rw [empty, empty']
      · rw [if_neg empty', here] at there
        obtain ⟨thought, same⟩ := there
        cases same
    · rw [if_neg empty] at here
      obtain ⟨thought, here⟩ := here
      by_cases empty' : trim other = []
      · rw [if_pos empty', here] at there
        cases there
      · rw [if_neg empty', here] at there
        obtain ⟨thought', same⟩ := there
        simp only [Except.ok.injEq, Decision.conclude.injEq, String.ofList_inj] at same
        exact same.2.symm
  · intro same
    rwa [Concludes, same]

/-! ### The sections around the first answer -/

/-- The sections of an outline that has an answer, taken apart around the first one. -/
structure Answered (o : Outline) where
  /-- The sections before the first answer. -/
  before : List Section
  /-- The first answer. -/
  answer : Section
  /-- Further answers that follow it with no other section between them. -/
  again : List Section
  /-- The sections from the next one of another kind on. -/
  behind : List Section
  sections_eq : o.sections = before ++ answer :: (again ++ behind)
  unanswered : ∀ s ∈ before, s.label ≠ .finalAnswer
  answer_label : answer.label = .finalAnswer
  again_label : ∀ s ∈ again, s.label = .finalAnswer
  stops : ∀ s ∈ behind.head?, s.label ≠ .finalAnswer

/-- The text between the heading of the first answer and the next heading of another kind. -/
def Answered.whole {o : Outline} (a : Answered o) : List Char :=
  a.answer.body ++ a.again.flatMap Section.text

/-- An outline that has an answer has a first one. -/
theorem exists_answered {o : Outline} (answered : .finalAnswer ∈ o.labels) :
    Nonempty (Answered o) := by
  rw [← Outline.find?_isSome, Option.isSome_iff_exists] at answered
  obtain ⟨body, found⟩ := answered
  obtain ⟨before, answer, after, split, named, -, others⟩ := Outline.exists_first found
  have again_label : ∀ s ∈ after.takeWhile (fun s => s.label == .finalAnswer),
      s.label = .finalAnswer := by
    intro s mem
    simpa using List.mem_takeWhile_imp mem
  have stops : ∀ s ∈ (after.dropWhile fun s => s.label == .finalAnswer).head?,
      s.label ≠ .finalAnswer := by
    intro s first label
    have other := List.head?_dropWhile_not (fun s : Section => s.label == .finalAnswer) after
    rw [Option.mem_def.mp first] at other
    simp [label] at other
  exact ⟨{
    before := before
    answer := answer
    again := after.takeWhile fun s => s.label == .finalAnswer
    behind := after.dropWhile fun s => s.label == .finalAnswer
    sections_eq := by rw [split, List.takeWhile_append_dropWhile]
    unanswered := others
    answer_label := named
    again_label := again_label
    stops := stops }⟩

namespace Answered

variable {o : Outline}

/-- The first answer is the one that is found. -/
theorem find?_eq (a : Answered o) : o.find? .finalAnswer = some a.answer.body := by
  have none : a.before.find? (fun s => s.label == .finalAnswer) = .none := by
    rw [List.find?_eq_none]
    intro s mem
    simpa using a.unanswered s mem
  rw [Outline.find?, a.sections_eq, List.find?_append, none, Option.none_or,
    List.find?_cons_of_pos (by simp [a.answer_label]), Option.map_some]

/-- A reply concludes with its first answer, as far as the next heading of any kind. -/
theorem concludes (a : Answered o) : Concludes o.decision a.answer.body := by
  unfold Outline.decision Concludes
  rw [a.find?_eq]
  by_cases empty : trim a.answer.body = []
  · simp [empty]
  · simp [empty]

/-- The text of the answer stands between its heading and the next section of another kind. -/
theorem reply_eq {reply : List Char} (a : Answered (outline reply)) :
    reply = (outline reply).preamble ++ a.before.flatMap Section.text ++ a.answer.heading
      ++ a.whole ++ a.behind.flatMap Section.text := by
  conv_lhs => rw [← outline_whole reply, a.sections_eq]
  simp [Answered.whole, Section.text]

/-- Nothing of the answer is lost if it is not followed by another one, and else something is. -/
theorem blank_again_iff {reply : List Char} (a : Answered (outline reply)) :
    Blank (a.again.flatMap Section.text) ↔ a.again = [] := by
  constructor
  · intro blank
    rw [List.eq_nil_iff_forall_not_mem]
    intro s mem
    have among : s ∈ (outline reply).sections := by
      rw [a.sections_eq]
      simp [mem]
    refine not_blank_text s among fun c inside => blank c ?_
    exact List.mem_flatMap.mpr ⟨s, mem, inside⟩
  · intro none
    rw [none]
    exact blank_nil

end Answered

/-! ### Whole answers -/

/--
**When an answer is read whole.**  A reply that has the heading of an answer concludes with
what stands between the first such heading and the next heading of any kind, whatever else the
reply holds.  That is all of the text up to the next heading of another kind exactly if the
answer is not followed by another one.
-/
theorem conclude_whole_iff {reply : String}
    (answered : .finalAnswer ∈ (outline reply.toList).labels) :
    Nonempty (Answered (outline reply.toList)) ∧
    ∀ a : Answered (outline reply.toList),
      reply.toList = (outline reply.toList).preamble ++ a.before.flatMap Section.text
        ++ a.answer.heading ++ a.whole ++ a.behind.flatMap Section.text ∧
      Concludes (decision reply) a.answer.body ∧
      (Concludes (decision reply) a.whole ↔ a.again = []) := by
  refine ⟨exists_answered answered, fun a => ⟨a.reply_eq, a.concludes, ?_⟩⟩
  have here : Concludes (decision reply) a.answer.body := a.concludes
  rw [here.iff_trim_eq, Answered.whole, trim_append_eq_iff, a.blank_again_iff]

/-- An answer of two lines between other sections. -/
def answerBetween :
    Answered (outline "Thought: done\nFinal Answer:\none\n# two: three\nAction: look".toList) where
  before := [⟨.thought, "Thought: ".toList, "done\n".toList⟩]
  answer := ⟨.finalAnswer, "Final Answer:".toList, "\none\n# two: three\n".toList⟩
  again := []
  behind := [⟨.action, "Action: ".toList, "look".toList⟩]
  sections_eq := by decide
  unanswered := by decide
  answer_label := rfl
  again_label := nofun
  stops := by decide

/-- An answer is read whole between a thought and an action. -/
theorem conclude_whole_iff_between :
    .finalAnswer ∈
      (outline "Thought: done\nFinal Answer:\none\n# two: three\nAction: look".toList).labels ∧
    trim answerBetween.whole = "one\n# two: three".toList ∧
    Concludes (decision "Thought: done\nFinal Answer:\none\n# two: three\nAction: look")
      answerBetween.whole := by
  have answered : .finalAnswer ∈
      (outline "Thought: done\nFinal Answer:\none\n# two: three\nAction: look".toList).labels := by
    decide
  obtain ⟨-, all⟩ := conclude_whole_iff answered
  obtain ⟨-, -, whole⟩ := all answerBetween
  exact ⟨answered, by decide, whole.mpr rfl⟩

/-- Two answers, one directly behind the other. -/
def answerTwice : Answered (outline "Final Answer: one\nFinal Answer: two".toList) where
  before := []
  answer := ⟨.finalAnswer, "Final Answer: ".toList, "one\n".toList⟩
  again := [⟨.finalAnswer, "Final Answer: ".toList, "two".toList⟩]
  behind := []
  sections_eq := by decide
  unanswered := nofun
  answer_label := rfl
  again_label := by decide
  stops := nofun

/-- Of an answer with the heading of another answer in it, the rest is lost. -/
theorem not_conclude_whole :
    ¬ ∀ (reply : String) (a : Answered (outline reply.toList)),
      Concludes (decision reply) a.whole := by
  intro claimed
  have read : decision "Final Answer: one\nFinal Answer: two" = .ok (.conclude "" "one") := by
    decide +kernel
  have something : trim answerTwice.whole ≠ [] := by decide
  have whole := claimed "Final Answer: one\nFinal Answer: two" answerTwice
  rw [Concludes, if_neg something, read] at whole
  obtain ⟨thought, same⟩ := whole
  simp only [Except.ok.injEq, Decision.conclude.injEq] at same
  exact absurd same.2 (by decide)

end Draftsman.Reply
