/-
The table of contents of a reply.

For every heading that counts, the table says where it begins, where the text behind it
begins, and what its label is; places are counted in bytes of UTF-8, from the beginning of
the reply.  It can be read off the lines of the reply, one after the other: a line with a
heading has an entry, and every line moves the entries below it on by its own size.  So
blanks at the end of a reply leave all headings where they are, and only the text behind the
last one may come to begin earlier, if there is none.

This says what is left of a reply when it is cut at its first observation.  The lines before
that are kept, and taking away the blanks at their end neither makes a heading of any of them
nor loses one; so the cut reply has the headings that it had there, in their places.
-/
import Draftsman.Proofs.Reply.Trim

namespace Draftsman.Reply

open Draftsman.Text

/-! ### Entries -/

/-- The size of a text in bytes. -/
def byteSize (text : List Char) : Nat := (String.ofList text).utf8ByteSize

@[simp] theorem byteSize_nil : byteSize [] = 0 := rfl

@[simp] theorem byteSize_append (text other : List Char) :
    byteSize (text ++ other) = byteSize text + byteSize other := by
  rw [byteSize, String.ofList_append, String.utf8ByteSize_append, byteSize, byteSize]

theorem byteSize_cons (c : Char) (text : List Char) :
    byteSize (c :: text) = c.utf8Size + byteSize text := by
  rw [← List.singleton_append, byteSize_append]
  exact congrArg (· + byteSize text) (by simp [byteSize])

/-- What the table of contents says of a heading. -/
structure Entry where
  /-- The place where the heading begins. -/
  start : Nat
  /-- The place where the text behind the heading begins. -/
  bodyStart : Nat
  label : Label
  deriving DecidableEq, Repr

/-- Where a heading begins, and its label. -/
def Entry.place (e : Entry) : Nat × Label := (e.start, e.label)

/-- The entries of sections, of which the first one begins at a given place. -/
def entriesFrom (start : Nat) : List Section → List Entry
  | [] => []
  | s :: rest =>
    ⟨start, start + byteSize s.heading, s.label⟩ :: entriesFrom (start + byteSize s.text) rest

/-- The table of contents of an outline that begins at a given place. -/
def Outline.contentsFrom (start : Nat) (o : Outline) : List Entry :=
  entriesFrom (start + byteSize o.preamble) o.sections

/-- The table of contents of an outline. -/
def Outline.contents (o : Outline) : List Entry := o.contentsFrom 0

theorem map_label_entriesFrom (start : Nat) (sections : List Section) :
    (entriesFrom start sections).map Entry.label = sections.map Section.label := by
  induction sections generalizing start with
  | nil => rfl
  | cons s rest ih => rw [entriesFrom, List.map_cons, List.map_cons, ih]

/-- The labels of an outline are those of its table of contents. -/
theorem map_label_contents (o : Outline) : o.contents.map Entry.label = o.labels :=
  map_label_entriesFrom _ _

/-- The first sections have the first entries. -/
theorem entriesFrom_takeWhile (p : Label → Bool) (start : Nat) (sections : List Section) :
    entriesFrom start (sections.takeWhile fun s => p s.label)
      = (entriesFrom start sections).takeWhile fun e => p e.label := by
  induction sections generalizing start with
  | nil => rfl
  | cons s rest ih =>
    by_cases kept : p s.label = true
    · simp [entriesFrom, kept, ih]
    · simp [entriesFrom, kept]

/-! ### Line by line -/

section Lines

variable {inInput : Bool} {line : List Char} {h : Heading} (rest : List (List Char))

/-- A line without a heading has no entry. -/
theorem contentsFrom_cons_none (plain : headingIn? inInput line = none) (start : Nat) :
    (outlineLines inInput (line :: rest)).contentsFrom start
      = (outlineLines inInput rest).contentsFrom (start + byteSize line) := by
  rw [outlineLines_cons_none rest plain]
  simp only [Outline.contentsFrom, byteSize_append, Nat.add_assoc]

/-- The entry of a line with a heading comes before those of the lines below it. -/
theorem contentsFrom_cons_some (found : headingIn? inInput line = some h) (start : Nat) :
    (outlineLines inInput (line :: rest)).contentsFrom start
      = ⟨start, start + byteSize h.text, h.label⟩
          :: (outlineLines (h.label = .actionInput) rest).contentsFrom (start + byteSize line) := by
  have whole : byteSize line = byteSize h.text + byteSize h.rest := by
    rw [← byteSize_append, headingIn?_append found]
  rw [outlineLines_cons_some rest found]
  simp only [Outline.contentsFrom, entriesFrom, Section.text, byteSize_append, byteSize_nil,
    Nat.add_zero, whole, Nat.add_assoc]

end Lines

/-! ### Blanks at the end -/

/-- Where the headings stand, and their labels. -/
def Outline.places (start : Nat) (o : Outline) : List (Nat × Label) :=
  (o.contentsFrom start).map Entry.place

/-- The same line may be put before lines that have their headings in the same places. -/
theorem places_cons_congr {more rest : List (List Char)}
    (same : ∀ inInput start,
      (outlineLines inInput more).places start = (outlineLines inInput rest).places start)
    (inInput : Bool) (start : Nat) (line : List Char) :
    (outlineLines inInput (line :: more)).places start
      = (outlineLines inInput (line :: rest)).places start := by
  unfold Outline.places at same ⊢
  cases found : headingIn? inInput line with
  | none => rw [contentsFrom_cons_none _ found, contentsFrom_cons_none _ found, same]
  | some h =>
    rw [contentsFrom_cons_some _ found, contentsFrom_cons_some _ found, List.map_cons,
      List.map_cons, same, Entry.place]

/-- A line may be followed by blanks. -/
theorem places_singleton_of_blank (inInput : Bool) (start : Nat) (line : List Char)
    {blanks : List Char} (blank : Blank blanks) :
    (outlineLines inInput [line ++ blanks]).places start
      = (outlineLines inInput [line]).places start := by
  have same : (headingIn? inInput (line ++ blanks)).map Heading.solid
      = (headingIn? inInput line).map Heading.solid :=
    headingIn?_map Heading.solid (fun _ => rfl) (heading?_append_of_blank line blank)
  unfold Outline.places
  cases found : headingIn? inInput line with
  | none =>
    rw [found, Option.map_none, Option.map_eq_none_iff] at same
    rw [contentsFrom_cons_none _ found, contentsFrom_cons_none _ same]
    rfl
  | some h =>
    rw [found, Option.map_some, Option.map_eq_some_iff] at same
    obtain ⟨h', found', solid⟩ := same
    have label : h'.label = h.label := congrArg (fun u => u.1.1) solid
    rw [contentsFrom_cons_some _ found, contentsFrom_cons_some _ found', label]
    rfl

/-- **Blanks at the end of a reply leave its headings where they are.** -/
theorem places_trimEnd (text : List Char) (start : Nat) :
    (outline (trimEnd text)).places start = (outline text).places start := by
  refine apply_trimEnd (f := fun text => (outline text).places start) ?_ text
  intro text c blank
  have blanks : Blank [c] := blank_singleton blank
  refine wholeLines_concat (R := fun more rest => ∀ inInput start,
    (outlineLines inInput more).places start = (outlineLines inInput rest).places start)
    ?_ ?_ ?_ text false start
  · intro inInput start
    have plain : headingIn? inInput [c] = none := by
      rw [headingIn?, heading?_eq_none (not_mem_of_blank blanks)]
      rfl
    unfold Outline.places
    rw [contentsFrom_cons_none [] plain]
    rfl
  · intro line inInput start
    exact places_singleton_of_blank inInput start line blanks
  · intro line more rest same inInput start
    exact places_cons_congr same inInput start line

/-! ### Cutting at the first observation -/

/-- What stands before the first observation has the entries that come before it. -/
theorem contents_beforeObservation (reply : List Char) :
    (outline (outline reply).beforeObservation).contents
      = (outline reply).contents.takeWhile fun e => e.label != .observation := by
  rw [outline_beforeObservation]
  exact entriesFrom_takeWhile (fun label => label != .observation) _ _

/-- Whether or not there is an observation, the headings before it stay where they are. -/
theorem places_stripObservation (reply : List Char) (start : Nat) :
    (outline (stripObservation reply)).places start
      = (outline (outline reply).beforeObservation).places start := by
  by_cases observed : .observation ∈ (outline reply).labels
  · rw [stripObservation_of_mem observed, places_trimEnd]
  · rw [stripObservation_of_not_mem observed, beforeObservation_eq_self observed]

/-- Headings that stand in the same places have the same labels. -/
theorem labels_of_places {o o' : Outline} (same : o.places 0 = o'.places 0) :
    o.labels = o'.labels := by
  have labels := congrArg (List.map Prod.snd) same
  rw [Outline.places, Outline.places, List.map_map, List.map_map] at labels
  rw [← map_label_contents, ← map_label_contents]
  exact labels

theorem stripObservation_prefix_reply (reply : List Char) : stripObservation reply <+: reply := by
  by_cases observed : .observation ∈ (outline reply).labels
  · obtain ⟨blanks, -, cut⟩ := trimEnd_append (outline reply).beforeObservation
    rw [stripObservation_of_mem observed]
    exact List.IsPrefix.trans ⟨blanks, cut⟩ (beforeObservation_prefix_reply reply)
  · rw [stripObservation_of_not_mem observed]

/--
**Cutting a reply at its first observation leaves what stands before it.**  The cut reply is
a beginning of the reply, its headings are those that came before the first observation, in
the places where they stood, so that none of them is an observation, and there is nothing
left to be cut.
-/
theorem stripObservation_contents (reply : List Char) :
    stripObservation reply <+: reply ∧
    (outline (stripObservation reply)).contents.map Entry.place
      = ((outline reply).contents.takeWhile fun e => e.label != .observation).map Entry.place ∧
    .observation ∉ (outline (stripObservation reply)).labels ∧
    stripObservation (stripObservation reply) = stripObservation reply := by
  have places := places_stripObservation reply 0
  have unobserved : .observation ∉ (outline (stripObservation reply)).labels := by
    rw [labels_of_places places]
    exact unobserved_beforeObservation reply
  refine ⟨stripObservation_prefix_reply reply, ?_, unobserved,
    stripObservation_of_not_mem unobserved⟩
  rw [← contents_beforeObservation]
  exact places

end Draftsman.Reply
