/-
Replies that are written section by section.

A model is asked to write headings, and to put its text behind them, on the same line or
on the lines below.  A reply that is written so is read as it was written: its outline has
the same sections in the same order, each with the text behind its heading, except that
the marks which follow a colon count as part of the heading, and that blanks at the end do
not count.  All that is asked of the text is that none of its lines, other than the one
it shares with its heading, has a heading itself.
-/
import Draftsman.Proofs.Reply.Trim

namespace Draftsman.Reply

open Draftsman.Text

/-! ### Texts without headings -/

/-- Texts of which no line has a heading, be it in the input of an action or elsewhere. -/
def Unheaded (inInput : Bool) (text : List Char) : Prop :=
  ∀ line ∈ wholeLines text, headingIn? inInput line = none

instance (inInput : Bool) (text : List Char) : Decidable (Unheaded inInput text) :=
  inferInstanceAs (Decidable (∀ line ∈ wholeLines text, headingIn? inInput line = none))

/-- The end of a line does not matter to its heading. -/
theorem headingIn?_ended {inInput : Bool} {line : List Char}
    (plain : headingIn? inInput line = none) : headingIn? inInput (line ++ ['\n']) = none := by
  have same : (headingIn? inInput (line ++ ['\n'])).map Heading.solid
      = (headingIn? inInput line).map Heading.solid :=
    headingIn?_map Heading.solid (fun _ => rfl) (heading?_append_of_blank line (blank_singleton rfl))
  rw [plain, Option.map_none, Option.map_eq_none_iff] at same
  exact same

/-- A text without any headings is unheaded in an input, too. -/
theorem Unheaded.inInput {text : List Char} (plain : Unheaded false text) (inInput : Bool) :
    Unheaded inInput text := by
  intro line mem
  have none := plain line mem
  rw [headingIn?_false] at none
  rw [headingIn?, none]
  rfl

/-- A text of one line is unheaded if the line is. -/
theorem unheaded_of_not_mem {inInput : Bool} {line : List Char} (whole : '\n' ∉ line)
    (plain : headingIn? inInput line = none) : Unheaded inInput line := by
  unfold Unheaded
  cases line with
  | nil => exact nofun
  | cons c rest =>
    rw [wholeLines_last (List.cons_ne_nil c rest) whole]
    exact List.forall_mem_singleton.mpr plain

/-- A text may be ended without getting a heading. -/
theorem Unheaded.ended {inInput : Bool} {text : List Char} (plain : Unheaded inInput text) :
    Unheaded inInput (text ++ ['\n']) := by
  unfold Unheaded at plain ⊢
  induction text using byLines with
  | nil => exact List.forall_mem_singleton.mpr rfl
  | last line some whole =>
    rw [wholeLines_last some whole, List.forall_mem_singleton] at plain
    rw [wholeLines_ended whole]
    exact List.forall_mem_singleton.mpr (headingIn?_ended plain)
  | ended line rest whole ih =>
    rw [wholeLines_ended whole, List.forall_mem_cons] at plain
    rw [List.append_assoc, List.cons_append, wholeLines_ended whole, List.forall_mem_cons]
    exact ⟨plain.1, ih plain.2⟩

/-- Texts without headings may be put one below the other. -/
theorem Unheaded.append {inInput : Bool} {above below : List Char}
    (first : Unheaded inInput above) (last : Unheaded inInput below) :
    Unheaded inInput (above ++ '\n' :: below) := by
  rw [Unheaded, wholeLines_append_ended, List.forall_mem_append]
  exact ⟨first.ended, last⟩

/-- Lines without headings belong to what is before them. -/
theorem outlineLines_append {inInput : Bool} {first : List (List Char)}
    (plain : ∀ line ∈ first, headingIn? inInput line = none) (rest : List (List Char)) :
    outlineLines inInput (first ++ rest)
      = ⟨first.flatten ++ (outlineLines inInput rest).preamble,
          (outlineLines inInput rest).sections⟩ := by
  induction first with
  | nil => rfl
  | cons line more ih =>
    rw [List.forall_mem_cons] at plain
    rw [List.cons_append, outlineLines_cons_none _ plain.1, ih plain.2, List.flatten_cons,
      List.append_assoc]

/-- Lines that begin with a heading wherever they stand do not belong to what is before them. -/
theorem outlineLines_append_headed {last : List (List Char)} {sections : List Section}
    (headed : ∀ inInput, outlineLines inInput last = ⟨[], sections⟩) (inInput : Bool)
    (first : List (List Char)) :
    outlineLines inInput (first ++ last)
      = ⟨(outlineLines inInput first).preamble,
          (outlineLines inInput first).sections ++ sections⟩ := by
  induction first generalizing inInput with
  | nil => exact headed inInput
  | cons line more ih =>
    cases found : headingIn? inInput line with
    | none =>
      rw [List.cons_append, outlineLines_cons_none _ found, outlineLines_cons_none _ found, ih]
    | some h =>
      rw [List.cons_append, outlineLines_cons_some _ found, outlineLines_cons_some _ found, ih,
        List.cons_append]

/-! ### Headings as the prompt asks for them -/

/-- The words of a heading as the prompt asks for them. -/
def Label.words : Label → String
  | .thought => "Thought"
  | .action => "Action"
  | .actionInput => "Action Input"
  | .finalAnswer => "Final Answer"
  | .observation => "Observation"

/-- A heading as the prompt asks for it. -/
def Label.title (label : Label) : List Char := label.words.toList ++ [':']

/-- The heading of a line that begins so. -/
def Label.heading (label : Label) (behind : List Char) : Heading where
  decoration := []
  wording := label.words.toList
  ending := ':' :: behind.takeWhile isMark
  rest := behind.dropWhile isMark

@[simp] theorem Label.heading_label (label : Label) (behind : List Char) :
    (label.heading behind).label = label := by
  cases label <;> rfl

@[simp] theorem Label.heading_text (label : Label) (behind : List Char) :
    (label.heading behind).text = label.title ++ behind.takeWhile isMark := by
  simp [Label.heading, Heading.text, Label.title]

/-- A line that begins with a heading is read as one, also in the input of an action. -/
theorem headingIn?_title (inInput : Bool) (label : Label) (behind : List Char) :
    headingIn? inInput (label.title ++ behind) = some (label.heading behind) := by
  have found : heading? (label.title ++ behind) = some (label.heading behind) := by
    cases label <;> rfl
  rw [headingIn?, found, Option.filter_some]
  cases inInput <;> rfl

theorem not_mem_title (label : Label) : '\n' ∉ label.title := by
  cases label <;> decide

/-! ### Sections put one below the other -/

/-- A heading and the text that is written behind it. -/
abbrev Part := Label × List Char

/-- Texts that may be written behind a heading: no line of them but the first has a heading. -/
def Part.Fits (part : Part) : Prop :=
  ∀ line ∈ (wholeLines part.2).tail, headingIn? (part.1 = .actionInput) line = none

/-- Sections as they are written, one below the other. -/
def written (parts : List Part) : List Char :=
  parts.flatMap fun part => part.1.title ++ part.2 ++ ['\n']

/-- What is read of a section that is written. -/
def Part.section (part : Part) : Section where
  label := part.1
  heading := part.1.title ++ part.2.takeWhile isMark
  body := part.2.dropWhile isMark ++ ['\n']

/-- A section is read up to the next heading, which may come later in what is below it. -/
theorem outlineLines_part {part : Part} (fits : part.Fits) (inInput : Bool) (rest : List Char) :
    outlineLines inInput (wholeLines (part.1.title ++ part.2 ++ '\n' :: rest))
      = ⟨[], { part.section with
            body := part.section.body
              ++ (outlineLines (part.1 = .actionInput) (wholeLines rest)).preamble }
          :: (outlineLines (part.1 = .actionInput) (wholeLines rest)).sections⟩ := by
  obtain ⟨label, text⟩ := part
  have stops : isMark '\n' = false := rfl
  by_cases ends : '\n' ∈ text
  · -- The heading shares its line with the first line of the text, and the others follow.
    obtain ⟨line, below, rfl, whole⟩ := List.eq_append_cons_of_mem ends
    have one : '\n' ∉ label.title ++ line := List.not_mem_append (not_mem_title label) whole
    have first := headingIn?_title inInput label (line ++ ['\n'])
    rw [← List.append_assoc] at first
    have plain : Unheaded (label = .actionInput) below := by
      rwa [Part.Fits, wholeLines_ended whole, List.tail_cons] at fits
    have lines : label.title ++ (line ++ '\n' :: below) ++ '\n' :: rest
        = (label.title ++ line) ++ '\n' :: (below ++ '\n' :: rest) := by simp
    dsimp only
    rw [lines, wholeLines_ended one, wholeLines_append_ended below rest,
      outlineLines_cons_some _ first]
    simp only [Label.heading_label, Label.heading_text, outlineLines_append plain.ended,
      wholeLines_flatten]
    simp [Part.section, Label.heading, takeWhile_append_stop stops, dropWhile_append_stop stops]
  · have one : '\n' ∉ label.title ++ text := List.not_mem_append (not_mem_title label) ends
    have first := headingIn?_title inInput label (text ++ ['\n'])
    rw [← List.append_assoc] at first
    dsimp only
    rw [wholeLines_ended one, outlineLines_cons_some _ first]
    simp only [Label.heading_label, Label.heading_text]
    simp [Part.section, Label.heading, takeWhile_append_stop stops, dropWhile_append_stop stops]

/-- **A reply that is written section by section is read so.** -/
theorem outline_written {parts : List Part} (fit : ∀ part ∈ parts, part.Fits) :
    outline (written parts) = ⟨[], parts.map Part.section⟩ := by
  suffices ∀ inInput, outlineLines inInput (wholeLines (written parts))
      = ⟨[], parts.map Part.section⟩ from this false
  induction parts with
  | nil => exact fun _ => rfl
  | cons part rest ih =>
    intro inInput
    rw [List.forall_mem_cons] at fit
    have below := ih fit.2
    have lines : written (part :: rest) = part.1.title ++ part.2 ++ '\n' :: written rest := by
      simp [written]
    rw [lines, outlineLines_part fit.1 inInput, below, List.map_cons, List.append_nil]

/-! ### Texts that may be written behind a heading -/

theorem fits_of_not_mem (label : Label) {text : List Char} (whole : '\n' ∉ text) :
    Part.Fits (label, text) := by
  unfold Part.Fits
  cases text with
  | nil => exact nofun
  | cons c rest =>
    rw [wholeLines_last (List.cons_ne_nil c rest) whole]
    exact nofun

/-- A text may begin on the line below its heading. -/
theorem fits_below (label : Label) {text : List Char}
    (plain : Unheaded (label = .actionInput) text) : Part.Fits (label, '\n' :: text) := plain

/-- A text may begin on the line of its heading. -/
theorem fits_beside (label : Label) {text : List Char}
    (plain : Unheaded (label = .actionInput) text) : Part.Fits (label, ' ' :: text) := by
  unfold Part.Fits
  rw [wholeLines_cons (by decide)]
  unfold Unheaded at plain
  cases lines : wholeLines text with
  | nil => exact nofun
  | cons line more =>
    rw [lines, List.forall_mem_cons] at plain
    exact plain.2

/-! ### What a written reply decides -/

/-- What a section says that is written: all of its text but the marks behind the heading. -/
def Part.said (part : Part) : Section := ⟨part.1, [], part.2.dropWhile isMark⟩

/-- **A reply decides what its sections say.** -/
theorem decision_written {parts : List Part} (fit : ∀ part ∈ parts, part.Fits) {reply : String}
    (same : reply.toList ++ ['\n'] = written parts) :
    decision reply = Outline.decision ⟨[], parts.map Part.said⟩ := by
  have ended : (outline (reply.toList ++ ['\n'])).gist = (outline reply.toList).gist :=
    gist_append_singleton rfl false reply.toList
  have read : (Outline.mk [] (parts.map Part.section)).gist
      = (Outline.mk [] (parts.map Part.said)).gist := by
    simp only [Outline.gist, List.map_map]
    refine congrArg (Outline.mk _) (List.map_congr_left fun part _ => ?_)
    simp only [Function.comp_apply, Section.gist, Part.section, Part.said]
    rw [trimEnd_append_of_blank _ (blank_singleton rfl)]
  calc decision reply
      = (outline reply.toList).gist.decision := (decision_gist _).symm
    _ = (outline (written parts)).gist.decision := by rw [← ended, same]
    _ = (Outline.mk [] (parts.map Part.said)).gist.decision := by
        rw [outline_written fit, read]
    _ = Outline.decision ⟨[], parts.map Part.said⟩ := decision_gist _

end Draftsman.Reply
