/-
What the outline of a reply is made of.

The outline is read off the lines of a reply, one after the other: a line with a heading
begins a section, and any other line belongs to what is before it.  From this follow two
things.  The preamble and the sections, one after the other, are the whole reply; and
when a reply is cut at its first observation, the lines that are left have the outline
that they had before.
-/
import Mathlib.Data.List.Infix
import Draftsman.Reply.Section
import Draftsman.Proofs.Reply.Heading
import Draftsman.Proofs.Text.Cut

namespace Draftsman.Reply

open Draftsman.Text

/-! ### Labels -/

/-- The labels of the sections, in their order. -/
def Outline.labels (o : Outline) : List Label := o.sections.map Section.label

/-- There is a section with a label if the label is one of those. -/
theorem Outline.find?_isSome (o : Outline) (label : Label) :
    (o.find? label).isSome = true ↔ label ∈ o.labels := by
  unfold Outline.find? Outline.labels
  rw [Option.isSome_map, List.find?_isSome, List.mem_map]
  simp only [beq_iff_eq]

/-- The section that is found by its label is the first one that has it. -/
theorem Outline.exists_first {o : Outline} {label : Label} {body : List Char}
    (found : o.find? label = some body) :
    ∃ (before : List Section) (s : Section) (behind : List Section),
      o.sections = before ++ s :: behind ∧ s.label = label ∧ s.body = body ∧
        ∀ other ∈ before, other.label ≠ label := by
  obtain ⟨s, first, same⟩ := Option.map_eq_some_iff.mp found
  obtain ⟨named, before, behind, split, others⟩ := List.find?_eq_some_iff_append.mp first
  refine ⟨before, s, behind, split, beq_iff_eq.mp named, same, ?_⟩
  intro other mem
  simpa using others other mem

/-! ### One line more -/

section Lines

variable {inInput : Bool} {line : List Char} {h : Heading} (rest : List (List Char))

/-- A line without a heading belongs to what is before it. -/
theorem outlineLines_cons_none (plain : headingIn? inInput line = none) :
    outlineLines inInput (line :: rest)
      = ⟨line ++ (outlineLines inInput rest).preamble, (outlineLines inInput rest).sections⟩ := by
  rw [outlineLines, plain]

/-- A line with a heading begins a section. -/
theorem outlineLines_cons_some (found : headingIn? inInput line = some h) :
    outlineLines inInput (line :: rest)
      = ⟨[], ⟨h.label, h.text, h.rest ++ (outlineLines (h.label = .actionInput) rest).preamble⟩
          :: (outlineLines (h.label = .actionInput) rest).sections⟩ := by
  rw [outlineLines, found]

theorem headingIn?_append (found : headingIn? inInput line = some h) : h.text ++ h.rest = line :=
  (heading?_append (Option.filter_eq_some_iff.mp found).1).1

end Lines

/-- The heading of a section has its colon. -/
theorem colon_mem_heading {inInput : Bool} {lines : List (List Char)} :
    ∀ s ∈ (outlineLines inInput lines).sections, ':' ∈ s.heading := by
  induction lines generalizing inInput with
  | nil => exact nofun
  | cons line rest ih =>
    cases found : headingIn? inInput line with
    | none =>
      rw [outlineLines_cons_none rest found]
      exact ih
    | some h =>
      rw [outlineLines_cons_some rest found]
      have colon := (heading?_append (Option.filter_eq_some_iff.mp found).1).2
      exact List.forall_mem_cons.mpr ⟨colon, ih⟩

/-- No section is blank. -/
theorem not_blank_text {inInput : Bool} {lines : List (List Char)} :
    ∀ s ∈ (outlineLines inInput lines).sections, ¬ Blank s.text := by
  intro s mem blank
  cases blank ':' (List.mem_append_left _ (colon_mem_heading s mem))

/-- The preamble and the sections are the lines that they were made of. -/
theorem outlineLines_whole (inInput : Bool) (lines : List (List Char)) :
    (outlineLines inInput lines).preamble
      ++ (outlineLines inInput lines).sections.flatMap Section.text = lines.flatten := by
  induction lines generalizing inInput with
  | nil => rfl
  | cons line rest ih =>
    cases found : headingIn? inInput line with
    | none => rw [outlineLines_cons_none rest found, List.flatten_cons, ← ih, List.append_assoc]
    | some h =>
      rw [outlineLines_cons_some rest found, List.flatten_cons, ← headingIn?_append found,
        ← ih (h.label = .actionInput)]
      simp [Section.text]

/-- **The preamble and the sections, one after the other, are the whole reply.** -/
theorem outline_whole (reply : List Char) :
    (outline reply).preamble ++ (outline reply).sections.flatMap Section.text = reply := by
  rw [outline, outlineLines_whole, wholeLines_flatten]

/-! ### Cutting at the first observation -/

/-- The lines before the first observation. -/
def linesBefore : (inInput : Bool) → List (List Char) → List (List Char)
  | _, [] => []
  | inInput, line :: rest =>
    match headingIn? inInput line with
    | some h =>
      if h.label = .observation then [] else line :: linesBefore (h.label = .actionInput) rest
    | none => line :: linesBefore inInput rest

theorem linesBefore_early (inInput : Bool) (lines : List (List Char)) :
    linesBefore inInput lines <+: lines := by
  induction lines generalizing inInput with
  | nil => exact List.prefix_refl _
  | cons line rest ih =>
    rw [linesBefore]
    split
    · split
      · exact List.nil_prefix
      · exact List.cons_prefix_cons.mpr ⟨rfl, ih _⟩
    · exact List.cons_prefix_cons.mpr ⟨rfl, ih _⟩

/-- What stands before the first observation are the lines before it. -/
theorem flatten_linesBefore (inInput : Bool) (lines : List (List Char)) :
    (linesBefore inInput lines).flatten = (outlineLines inInput lines).beforeObservation := by
  unfold Outline.beforeObservation
  induction lines generalizing inInput with
  | nil => rfl
  | cons line rest ih =>
    rw [linesBefore]
    split
    · rename_i h found
      rw [outlineLines_cons_some rest found, List.takeWhile_cons]
      by_cases observed : h.label = .observation
      · rw [if_pos observed]
        simp [observed]
      · rw [if_neg observed, List.flatten_cons, ih, ← headingIn?_append found]
        simp [observed, Section.text]
    · rename_i plain
      rw [outlineLines_cons_none rest plain, List.flatten_cons, ih, List.append_assoc]

/-- The lines before the first observation have the outline that they had. -/
theorem outline_linesBefore (inInput : Bool) (lines : List (List Char)) :
    outlineLines inInput (linesBefore inInput lines)
      = ⟨(outlineLines inInput lines).preamble,
          (outlineLines inInput lines).sections.takeWhile fun s => s.label != .observation⟩ := by
  induction lines generalizing inInput with
  | nil => rfl
  | cons line rest ih =>
    rw [linesBefore]
    split
    · rename_i h found
      rw [outlineLines_cons_some rest found, List.takeWhile_cons]
      by_cases observed : h.label = .observation
      · rw [if_pos observed]
        simp [observed, outlineLines]
      · rw [if_neg observed, outlineLines_cons_some _ found, ih]
        simp [observed]
    · rename_i plain
      rw [outlineLines_cons_none rest plain, outlineLines_cons_none _ plain, ih]

/-- **What stands before the first observation of a reply has the outline that it had there.** -/
theorem outline_beforeObservation (reply : List Char) :
    outline (outline reply).beforeObservation
      = ⟨(outline reply).preamble,
          (outline reply).sections.takeWhile fun s => s.label != .observation⟩ := by
  unfold outline
  rw [← flatten_linesBefore, wholeLines_flatten_first (linesBefore_early _ _),
    outline_linesBefore]

/-- There is no observation in what stands before the first one. -/
theorem unobserved_beforeObservation (reply : List Char) :
    .observation ∉ (outline (outline reply).beforeObservation).labels := by
  rw [outline_beforeObservation]
  intro mem
  obtain ⟨s, kept, observed⟩ := List.mem_map.mp mem
  simpa [observed] using List.mem_takeWhile_imp kept

/-- What stands before the first observation is the beginning of the reply. -/
theorem beforeObservation_prefix_reply (reply : List Char) :
    (outline reply).beforeObservation <+: reply := by
  have first : (outline reply).sections.takeWhile (fun s => s.label != .observation)
      <+: (outline reply).sections := List.takeWhile_prefix _
  have within : (outline reply).beforeObservation
      <+: (outline reply).preamble ++ (outline reply).sections.flatMap Section.text :=
    (List.prefix_append_right_inj _).mpr (List.IsPrefix.flatMap first Section.text)
  rwa [outline_whole] at within

/-- Without an observation, everything stands before it. -/
theorem beforeObservation_eq_self {reply : List Char}
    (unobserved : .observation ∉ (outline reply).labels) :
    (outline reply).beforeObservation = reply := by
  have all : (outline reply).sections.takeWhile (fun s => s.label != .observation)
      = (outline reply).sections := by
    rw [List.takeWhile_eq_self_iff]
    intro s mem
    rw [bne_iff_ne]
    exact fun observed => unobserved (List.mem_map.mpr ⟨s, mem, observed⟩)
  rw [Outline.beforeObservation, all, outline_whole]

/--
No section is blank.  So there is nothing but blanks before the first observation of a
reply only if the reply begins with it, or has no sections at all.
-/
theorem blank_beforeObservation_iff (reply : List Char) :
    Blank (outline reply).beforeObservation ↔
      Blank (outline reply).preamble ∧
        ∀ s ∈ (outline reply).sections.head?, s.label = .observation := by
  have seen : ∀ s ∈ (outline reply).sections, ¬ Blank s.text := not_blank_text
  rw [Outline.beforeObservation, Blank, List.forall_mem_append]
  refine and_congr_right fun _ => ?_
  cases sections : (outline reply).sections with
  | nil => exact iff_of_true nofun nofun
  | cons s rest =>
    rw [sections, List.forall_mem_cons] at seen
    by_cases observed : s.label = .observation
    · exact iff_of_true (by simp [observed]) (by simp [observed])
    · refine iff_of_false (fun blank => seen.1 fun c mem => blank c ?_) (by simpa using observed)
      simp [observed, mem]

theorem stripObservation_of_mem {reply : List Char}
    (observed : .observation ∈ (outline reply).labels) :
    stripObservation reply = trimEnd (outline reply).beforeObservation := by
  rw [stripObservation, if_pos ((Outline.find?_isSome _ _).mpr observed)]

theorem stripObservation_of_not_mem {reply : List Char}
    (unobserved : .observation ∉ (outline reply).labels) : stripObservation reply = reply := by
  rw [stripObservation, if_neg]
  rwa [Outline.find?_isSome]

/-- It does not matter to the blanks around it whether a reply has an observation to cut. -/
theorem trim_stripObservation (reply : List Char) :
    trim (stripObservation reply) = trim (outline reply).beforeObservation := by
  by_cases observed : .observation ∈ (outline reply).labels
  · rw [stripObservation_of_mem observed, trim_trimEnd]
  · rw [stripObservation_of_not_mem observed, beforeObservation_eq_self observed]

/-! ### The preamble -/

/-- The lines before the first heading are what the preamble is made of. -/
theorem preamble_lines (inInput : Bool) (lines : List (List Char)) :
    ∃ first, first <+: lines ∧ first.flatten = (outlineLines inInput lines).preamble ∧
      ∀ line ∈ first, headingIn? inInput line = none := by
  induction lines with
  | nil => exact ⟨[], List.prefix_refl _, rfl, nofun⟩
  | cons line rest ih =>
    cases found : headingIn? inInput line with
    | none =>
      obtain ⟨first, early, same, plain⟩ := ih
      refine ⟨line :: first, List.cons_prefix_cons.mpr ⟨rfl, early⟩, ?_, ?_⟩
      · rw [outlineLines_cons_none rest found, List.flatten_cons, same]
      · exact List.forall_mem_cons.mpr ⟨found, plain⟩
    | some h =>
      rw [outlineLines_cons_some rest found]
      exact ⟨[], List.nil_prefix, rfl, nofun⟩

theorem labels_eq_nil {inInput : Bool} {lines : List (List Char)}
    (plain : ∀ line ∈ lines, headingIn? inInput line = none) :
    (outlineLines inInput lines).labels = [] := by
  induction lines with
  | nil => rfl
  | cons line rest ih =>
    obtain ⟨first, more⟩ := List.forall_mem_cons.mp plain
    rw [outlineLines_cons_none rest first]
    exact ih more

/-- The preamble of a reply has no heading. -/
theorem labels_preamble (reply : List Char) : (outline (outline reply).preamble).labels = [] := by
  obtain ⟨first, early, same, plain⟩ := preamble_lines false (wholeLines reply)
  unfold outline
  rw [← same, wholeLines_flatten_first early]
  exact labels_eq_nil plain

end Draftsman.Reply
