/-
Calls and answers that are written as the prompt asks for them.

The prompt asks for the name of a tool behind `Action:`, and for its input behind
`Action Input:`.  Such a reply is taken apart by `decision_written`, and what is left to
see is what reading a name or a text behind its heading does to it.  Two things happen:
the marks that may follow a colon are dropped, and the rest is cleaned.  Both only take
characters away, so that a name is read back if and only if neither takes anything; that
can be told from the characters at its ends (`nameBehind_eq_self_iff`).

The marks behind a colon are dropped on the line of the heading only.  A text that begins
on the line below keeps them, and that is the one difference which the place makes where a
text begins (`beside_eq_below_iff`).
-/
import Draftsman.Text.Alphanumeric
import Draftsman.Proofs.Reply.Cleaning
import Draftsman.Proofs.Reply.Written

namespace Draftsman.Reply

open Draftsman.Text

/-! ### What is read behind a heading -/

/-- A text without blanks around it is left as it is behind a heading, unless a mark begins it. -/
theorem dropWhile_isMark_eq_self_iff {text : List Char} (whole : trim text = text) :
    text.dropWhile isMark = text ↔ text.head? ≠ some '*' ∧ text.head? ≠ some '_' := by
  cases text with
  | nil => exact iff_of_true rfl ⟨nofun, nofun⟩
  | cons c rest =>
    have seen : isBlank c = false :=
      dropStart_eq_self_iff.mp (Solid.mk (List.cons_ne_nil c rest) whole).start c rfl
    have wide : isGap c = false := by
      rw [Bool.eq_false_iff]
      intro gap
      rw [isGap, Bool.or_eq_true, beq_iff_eq, beq_iff_eq] at gap
      rcases gap with rfl | rfl <;> cases seen
    rw [← dropStart, dropStart_eq_self_iff]
    simp [isMark, wide]

/-- The name that is read of a text behind the heading of an action. -/
def nameBehind (text : List Char) : List Char := cleanName (text.dropWhile isMark)

/-- Texts with nothing at their ends that might not belong to the name of a tool. -/
structure Bare (name : List Char) : Prop where
  first : ∀ c ∈ name.head?, decoratesName c = false ∧ c ≠ '_'
  last : ∀ c ∈ name.getLast?, decoratesName c = false ∧ endsName c = false

instance (name : List Char) : Decidable (Bare name) :=
  decidable_of_iff
    ((name.head?.all (fun c => !decoratesName c && c != '_') &&
      name.getLast?.all fun c => !decoratesName c && !endsName c) = true) <| by
    simp only [Bool.and_eq_true, Option.all_eq_true, Bool.not_eq_true', bne_iff_ne]
    exact ⟨fun h => ⟨h.1, h.2⟩, fun h => ⟨h.first, h.last⟩⟩

/-- **A name is read back exactly if it is bare.** -/
theorem nameBehind_eq_self_iff {name : List Char} (whole : trim name = name) :
    nameBehind name = name ↔ Bare name := by
  constructor
  · intro same
    obtain ⟨unmarked, clean⟩ := (onlyDrops_dropStart isMark).eq_self onlyDrops_cleanName same
    obtain ⟨-, first, last⟩ := (cleanName_eq_self_iff name).mp clean
    refine ⟨fun c mem => ⟨first c mem, ?_⟩, last⟩
    rintro rfl
    exact ((dropWhile_isMark_eq_self_iff whole).mp unmarked).2 mem
  · intro bare
    have clean : cleanName name = name :=
      (cleanName_eq_self_iff name).mpr ⟨whole, fun c mem => (bare.first c mem).1, bare.last⟩
    have unmarked : name.dropWhile isMark = name := by
      refine (dropWhile_isMark_eq_self_iff whole).mpr ⟨fun star => ?_, fun line => ?_⟩
      · cases (bare.first '*' star).1
      · exact (bare.first '_' line).2 rfl
    rw [nameBehind, unmarked, clean]

/-- A clean name is read back, unless the marks behind its heading take its beginning. -/
theorem nameBehind_of_clean {name : List Char} (clean : cleanName name = name)
    (first : name.head? ≠ some '_') : nameBehind name = name := by
  obtain ⟨whole, undecorated, last⟩ := (cleanName_eq_self_iff name).mp clean
  refine (nameBehind_eq_self_iff whole).mpr ⟨fun c mem => ⟨undecorated c mem, ?_⟩, last⟩
  rintro rfl
  exact first mem

/-- Nothing but the name is read of a name that is made of letters and digits. -/
theorem nameBehind_of_isAlphanumeric {name : List Char}
    (letters : ∀ c ∈ name, isAlphanumeric c = true) : nameBehind name = name := by
  have others : ['`', '"', '\'', '*', '[', ']', '(', ')', '.', ':', ',', '_'].any isAlphanumeric
      = false := by decide +kernel
  have whole : trim name = name := by
    by_cases something : name = []
    · rw [something]
      rfl
    · have seen : name.any isBlank = false := by
        simpa using fun c mem => isBlank_of_isAlphanumeric (letters c mem)
      exact (solid_of_seen something seen).whole
  have plain : ∀ c ∈ name, decoratesName c = false ∧ endsName c = false ∧ c ≠ '_' := by
    intro c mem
    rw [List.any_eq_false] at others
    have apart : c ∉ ['`', '"', '\'', '*', '[', ']', '(', ')', '.', ':', ',', '_'] :=
      fun other => others c other (letters c mem)
    simp only [List.mem_cons, List.not_mem_nil, or_false, not_or] at apart
    simp [decoratesName, endsName, apart]
  rw [nameBehind_eq_self_iff whole]
  constructor
  · intro c first
    have := plain c (List.mem_of_head? first)
    exact ⟨this.1, this.2.2⟩
  · intro c last
    have := plain c (List.mem_of_getLast? last)
    exact ⟨this.1, this.2.1⟩

/--
If a step takes nothing from a text that begins with a mark, then it makes a difference to
it whether the marks are dropped first, unless there are none.
-/
theorem OnlyDrops.dropWhile_isMark_eq_iff {step : List Char → List Char} (drops : OnlyDrops step)
    {text : List Char} (all : text.dropWhile isMark ≠ text → step text = text) :
    step (text.dropWhile isMark) = step text ↔ text.dropWhile isMark = text := by
  constructor
  · intro same
    by_contra marked
    rw [all marked] at same
    have covered := List.dropWhile_sublist (l := text) isMark
    refine drops.ne_of_length_lt (covered.length_le.lt_of_ne fun eq => ?_) same
    exact marked (covered.eq_of_length eq)
  · exact congrArg step

/-- An input that begins with a mark is left as it is. -/
theorem cleanInput_eq_self_of_isMark {text : List Char} (whole : trim text = text)
    (marked : text.dropWhile isMark ≠ text) : cleanInput text = text := by
  have first : text.head? = some '*' ∨ text.head? = some '_' := by
    by_contra none
    rw [not_or] at none
    exact marked ((dropWhile_isMark_eq_self_iff whole).mpr none)
  refine cleanInput_eq_self whole ?_ ?_
  · rintro ⟨rest, rfl⟩
    rcases first with same | same <;> cases same
  · rintro ⟨quote, mem, inner, rfl, -⟩
    simp only [List.mem_cons, List.not_mem_nil, or_false] at mem
    rcases mem with rfl | rfl <;> rcases first with same | same <;> cases same

/-! ### Calls and answers -/

/-- What is decided by an action on a line of its own, an input, and no answer. -/
theorem decision_of_call {o : Outline} {body input : List Char}
    (unfinished : o.find? .finalAnswer = none) (action : o.find? .action = some body)
    (given : o.find? .actionInput = some input) (whole : '\n' ∉ body) :
    o.decision =
      if (cleanName body).isEmpty then .error .emptyAction
      else .ok (.act (String.ofList (trim ((o.find? .thought).getD o.preamble)))
        (String.ofList (cleanName body)) (String.ofList (cleanInput input))) := by
  simp only [Outline.decision, unfinished, action, given, toolAndInput_of_not_mem whole]

/-- What a reply decides that is nothing but a call. -/
theorem decision_call {reply : String} {name input : List Char} (whole : '\n' ∉ name)
    (fits : Part.Fits (.actionInput, input))
    (same : reply.toList ++ ['\n'] = written [(.action, ' ' :: name), (.actionInput, input)]) :
    decision reply =
      if (nameBehind name).isEmpty then .error .emptyAction
      else .ok (.act "" (String.ofList (nameBehind name))
        (String.ofList (cleanInput (input.dropWhile isMark)))) := by
  have fit : ∀ part ∈ [(Label.action, ' ' :: name), (Label.actionInput, input)],
      Part.Fits part := by
    have one : '\n' ∉ ' ' :: name := List.not_mem_cons_of_ne_of_not_mem (by decide) whole
    exact List.forall_mem_cons.mpr
      ⟨fits_of_not_mem .action one, List.forall_mem_singleton.mpr fits⟩
  have one : '\n' ∉ name.dropWhile isMark :=
    fun mem => whole ((List.dropWhile_sublist isMark).mem mem)
  rw [decision_written fit same, decision_of_call rfl rfl rfl one]
  rfl

/-- What a reply decides that is nothing but an answer. -/
theorem decision_answer {reply : String} {text : List Char} (fits : Part.Fits (.finalAnswer, text))
    (same : reply.toList ++ ['\n'] = written [(.finalAnswer, text)]) :
    decision reply =
      if (trim (text.dropWhile isMark)).isEmpty then .error .emptyAnswer
      else .ok (.conclude "" (String.ofList (trim (text.dropWhile isMark)))) := by
  rw [decision_written (List.forall_mem_singleton.mpr fits) same]
  rfl

section Places

variable {name text : String}

/-- What is decided by a call whose input begins on the line of its heading. -/
theorem decision_call_beside (line : '\n' ∉ name.toList) (plain : Unheaded true text.toList) :
    decision ("Action: " ++ name ++ "\nAction Input: " ++ text) =
      if (nameBehind name.toList).isEmpty then .error .emptyAction
      else .ok (.act "" (String.ofList (nameBehind name.toList))
        (String.ofList (cleanInput (text.toList.dropWhile isMark)))) := by
  have call : decision ("Action: " ++ name ++ "\nAction Input: " ++ text) = _ :=
    decision_call line (fits_beside .actionInput plain)
      (by simp [written, Label.title, Label.words])
  exact call

/-- Where the input of a call begins makes a difference only to an input that a mark begins. -/
theorem decision_call_beside_iff (line : '\n' ∉ name.toList)
    (whole : trim text.toList = text.toList) (plain : Unheaded true text.toList) :
    decision ("Action: " ++ name ++ "\nAction Input: " ++ text)
        = decision ("Action: " ++ name ++ "\nAction Input:\n" ++ text) ↔
      nameBehind name.toList = [] ∨
        text.toList.head? ≠ some '*' ∧ text.toList.head? ≠ some '_' := by
  have below : decision ("Action: " ++ name ++ "\nAction Input:\n" ++ text) = _ :=
    decision_call line (fits_below .actionInput plain)
      (by simp [written, Label.title, Label.words])
  have taken : ('\n' :: text.toList).dropWhile isMark = '\n' :: text.toList := rfl
  rw [decision_call_beside line plain, below, taken, cleanInput_cons_of_blank rfl,
    ← dropWhile_isMark_eq_self_iff whole,
    ← onlyDrops_cleanInput.dropWhile_isMark_eq_iff (cleanInput_eq_self_of_isMark whole)]
  by_cases named : nameBehind name.toList = []
  · simp [named]
  · simp [named, String.ofList_inj]

/-- Where an answer begins makes a difference only to an answer that a mark begins. -/
theorem decision_answer_beside_iff (whole : trim text.toList = text.toList)
    (plain : Unheaded false text.toList) :
    decision ("Final Answer: " ++ text) = decision ("Final Answer:\n" ++ text) ↔
      text.toList.head? ≠ some '*' ∧ text.toList.head? ≠ some '_' := by
  have beside : decision ("Final Answer: " ++ text) = _ :=
    decision_answer (fits_beside .finalAnswer plain) (by simp [written, Label.title, Label.words])
  have below : decision ("Final Answer:\n" ++ text) = _ :=
    decision_answer (fits_below .finalAnswer plain) (by simp [written, Label.title, Label.words])
  have taken : ('\n' :: text.toList).dropWhile isMark = '\n' :: text.toList := rfl
  have dropped : (' ' :: text.toList).dropWhile isMark = text.toList.dropWhile isMark := rfl
  -- An answer can be told from what it decides, also if it is none.
  have told : ∀ a b : List Char,
      (if a.isEmpty then Except.error Fault.emptyAnswer
        else .ok (Decision.conclude "" (String.ofList a)))
        = (if b.isEmpty then Except.error Fault.emptyAnswer
          else .ok (Decision.conclude "" (String.ofList b))) ↔ a = b := by
    intro a b
    cases a <;> cases b <;> simp [String.ofList_inj]
  rw [beside, below, taken, dropped, trim_cons_of_blank rfl, told,
    onlyDrops_trim.dropWhile_isMark_eq_iff fun _ => whole, dropWhile_isMark_eq_self_iff whole]

/--
**Where a text begins makes no difference, unless it begins with a mark.**  An input or an
answer that begins on the line of its heading is read as one on the line below, except
that it loses the stars and underscores at its beginning.
-/
theorem beside_eq_below_iff (letters : ∀ c ∈ name.toList, isAlphanumeric c = true)
    (solid : Solid text.toList) (plain : Unheaded false text.toList) :
    (decision ("Action: " ++ name ++ "\nAction Input: " ++ text)
        = decision ("Action: " ++ name ++ "\nAction Input:\n" ++ text) ↔
      name = "" ∨ text.toList.head? ≠ some '*' ∧ text.toList.head? ≠ some '_') ∧
    (decision ("Final Answer: " ++ text) = decision ("Final Answer:\n" ++ text) ↔
      text.toList.head? ≠ some '*' ∧ text.toList.head? ≠ some '_') := by
  have line : '\n' ∉ name.toList := fun mem =>
    Bool.noConfusion (isBlank_of_isAlphanumeric (letters '\n' mem))
  have call := decision_call_beside_iff line solid.whole (plain.inInput true)
  rw [nameBehind_of_isAlphanumeric letters, String.toList_eq_nil_iff] at call
  exact ⟨call, decision_answer_beside_iff solid.whole plain⟩

end Places

/-- A star inside an input is kept wherever the input begins. -/
theorem beside_eq_below_iff_inside :
    (∀ c ∈ "look".toList, isAlphanumeric c = true) ∧ Solid "a *b*".toList ∧
    Unheaded false "a *b*".toList ∧
    decision "Action: look\nAction Input: a *b*" = decision "Action: look\nAction Input:\na *b*" ∧
    decision "Final Answer: a *b*" = decision "Final Answer:\na *b*" := by
  have letters : ∀ c ∈ "look".toList, isAlphanumeric c = true :=
    List.all_eq_true.mp (by decide +kernel)
  have solid : Solid "a *b*".toList := by decide
  have plain : Unheaded false "a *b*".toList := by decide
  have unmarked : "a *b*".toList.head? ≠ some '*' ∧ "a *b*".toList.head? ≠ some '_' := by decide
  have places := beside_eq_below_iff letters solid plain
  exact ⟨letters, solid, plain, places.1.mpr (Or.inr unmarked), places.2.mpr unmarked⟩

/-- The star of a pattern is lost if the pattern begins on the line of its heading. -/
theorem not_beside_eq_below :
    ¬ ∀ name text : String, (∀ c ∈ name.toList, isAlphanumeric c = true) → Solid text.toList →
      Unheaded false text.toList →
      decision ("Action: " ++ name ++ "\nAction Input: " ++ text)
          = decision ("Action: " ++ name ++ "\nAction Input:\n" ++ text) ∧
        decision ("Final Answer: " ++ text) = decision ("Final Answer:\n" ++ text) := by
  intro same
  have letters : ∀ c ∈ "look".toList, isAlphanumeric c = true :=
    List.all_eq_true.mp (by decide +kernel)
  have beside : decision "Action: look\nAction Input: *.txt" = .ok (.act "" "look" ".txt") := by
    decide +kernel
  have below : decision "Action: look\nAction Input:\n*.txt" = .ok (.act "" "look" "*.txt") := by
    decide +kernel
  have equal := (same "look" "*.txt" letters (by decide) (by decide)).1
  exact absurd (beside.symm.trans (equal.trans below)) (by decide)

/-! ### Reading back what is written -/

/-- No line that begins with a fence has a heading. -/
theorem unheaded_fence {inInput : Bool} {tag : List Char} (line : '\n' ∉ tag) :
    Unheaded inInput (fence ++ tag) := by
  have whole : '\n' ∉ fence ++ tag := List.not_mem_append (by decide) line
  have none : heading? (fence ++ tag) = none := rfl
  refine unheaded_of_not_mem whole ?_
  rw [headingIn?, none]
  rfl

/-- Texts that are read back when they are written as the prompt asks for it. -/
structure Canonical (thought name input : String) : Prop where
  thought_whole : trim thought.toList = thought.toList
  thought_plain : Unheaded false thought.toList
  name_something : name ≠ ""
  name_line : '\n' ∉ name.toList
  name_clean : cleanName name.toList = name.toList
  /-- The marks behind the heading of an action would hide this one. -/
  name_first : name.toList.head? ≠ some '_'
  input_whole : trim input.toList = input.toList
  /-- Headings in an input must be such as may be remarks. -/
  input_plain : Unheaded true input.toList
  input_unfenced : ¬ fence <+: input.toList
  input_unquoted : ¬ Quoted input.toList

section Canonical

variable {thought name input : String}

/-- A canonical name is read back. -/
theorem Canonical.nameBehind_eq (fit : Canonical thought name input) :
    nameBehind name.toList = name.toList := nameBehind_of_clean fit.name_clean fit.name_first

/-- Whatever the input is put into, the reply is read if the input is read out of it. -/
theorem Canonical.decision_eq (fit : Canonical thought name input) {text : List Char}
    (plain : Unheaded true text) (clean : cleanInput text = input.toList) {reply : String}
    (same : reply.toList ++ ['\n'] = written [(.thought, '\n' :: thought.toList),
      (.action, ' ' :: name.toList), (.actionInput, '\n' :: text)]) :
    decision reply = .ok (.act thought name input) := by
  have one : '\n' ∉ ' ' :: name.toList :=
    List.not_mem_cons_of_ne_of_not_mem (by decide) fit.name_line
  have fits : ∀ part ∈ [(Label.thought, '\n' :: thought.toList),
      (Label.action, ' ' :: name.toList), (Label.actionInput, '\n' :: text)], Part.Fits part :=
    List.forall_mem_cons.mpr ⟨fits_below .thought fit.thought_plain,
      List.forall_mem_cons.mpr ⟨fits_of_not_mem .action one,
        List.forall_mem_singleton.mpr (fits_below .actionInput plain)⟩⟩
  have heard : trim ('\n' :: thought.toList) = thought.toList := by
    rw [trim_cons_of_blank rfl, fit.thought_whole]
  have named : name.toList.isEmpty = false := by
    rw [List.isEmpty_eq_false_iff, ne_eq, String.toList_eq_nil_iff]
    exact fit.name_something
  have line : '\n' ∉ name.toList.dropWhile isMark :=
    fun mem => fit.name_line ((List.dropWhile_sublist isMark).mem mem)
  rw [decision_written fits same, decision_of_call rfl rfl rfl line]
  show (if (nameBehind name.toList).isEmpty then _
    else Except.ok (Decision.act (String.ofList (trim ('\n' :: thought.toList)))
      (String.ofList (nameBehind name.toList))
      (String.ofList (cleanInput ('\n' :: text))))) = _
  rw [fit.nameBehind_eq, named, heard, cleanInput_cons_of_blank rfl, clean]
  simp

/--
**A call is read back as it was written.**  The thought, the name of the tool and its input
come back as they are, whether or not the input is put into a fence.
-/
theorem decision_canonical (fit : Canonical thought name input) :
    decision ("Thought:\n" ++ thought ++ "\nAction: " ++ name ++ "\nAction Input:\n" ++ input)
      = .ok (.act thought name input) ∧
    ∀ tag : String, '\n' ∉ tag.toList →
      decision ("Thought:\n" ++ thought ++ "\nAction: " ++ name ++ "\nAction Input:\n```" ++ tag
          ++ "\n" ++ input ++ "\n```")
        = .ok (.act thought name input) := by
  constructor
  · refine fit.decision_eq fit.input_plain ?_ ?_
    · exact cleanInput_eq_self fit.input_whole fit.input_unfenced fit.input_unquoted
    · simp [written, Label.title, Label.words]
  · intro tag line
    have lines : fence ++ (tag.toList ++ '\n' :: input.toList ++ ['\n']) ++ fence
        = (fence ++ tag.toList) ++ '\n' :: (input.toList ++ '\n' :: (fence ++ [])) := by simp
    refine fit.decision_eq ?_ (cleanInput_fenced line fit.input_whole fit.input_unquoted) ?_
    · rw [lines]
      exact (unheaded_fence line).append (fit.input_plain.append (unheaded_fence List.not_mem_nil))
    · simp [written, Label.title, Label.words, fence]

end Canonical

/-- Remarks that look like headings, and quotes that are no pair, are left alone. -/
theorem decision_canonical_remark :
    Canonical "Two lines\nof thought." "generate_diagram" "# Action: encode\n\"a\" -> \"b\"" ∧
    decision ("Thought:\nTwo lines\nof thought.\nAction: generate_diagram\nAction Input:\n" ++
        "```dot\n# Action: encode\n\"a\" -> \"b\"\n```")
      = .ok (.act "Two lines\nof thought." "generate_diagram"
          "# Action: encode\n\"a\" -> \"b\"") := by
  have fit : Canonical "Two lines\nof thought." "generate_diagram"
      "# Action: encode\n\"a\" -> \"b\"" :=
    { thought_whole := by decide
      thought_plain := by decide
      name_something := by decide
      name_line := by decide
      name_clean := by decide
      name_first := by decide
      input_whole := by decide
      input_plain := by decide
      input_unfenced := by decide
      input_unquoted := by decide }
  exact ⟨fit, (decision_canonical fit).2 "dot" (by decide)⟩

end Draftsman.Reply
