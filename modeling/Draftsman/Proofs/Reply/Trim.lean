/-
What becomes of an outline when the blanks around a reply are taken away.

Blanks at the end of a reply change nothing: what an outline says does not depend on the
blanks at the end of its parts, nor on how its headings are written (`Outline.gist`).
Blanks at the beginning are another matter.  Taking them away can make a heading of a
line that was none before, though only of the first line that is not blank, and so only
in the preamble.  The sections that were there stay what they were, unless the new
heading is that of an input: then those after it that may be remarks become part of it.
`Outline.trimStart` puts all this in terms of the outline that the reply had.
-/
import Mathlib.Data.List.DropRight
import Draftsman.Reply.Decision
import Draftsman.Proofs.Reply.Section

namespace Draftsman.Reply

open Draftsman.Text

/-! ### What an outline says -/

/-- A section without its heading as it is written, and without blanks at its end. -/
def Section.gist (s : Section) : Section := ⟨s.label, [], trimEnd s.body⟩

/-- An outline without its headings as they are written, and without blanks at the ends. -/
def Outline.gist (o : Outline) : Outline := ⟨trimEnd o.preamble, o.sections.map Section.gist⟩

theorem labels_gist (o : Outline) : o.gist.labels = o.labels := by
  unfold Outline.labels Outline.gist
  rw [List.map_map]
  rfl

theorem find?_gist (o : Outline) (label : Label) :
    o.gist.find? label = (o.find? label).map trimEnd := by
  unfold Outline.find? Outline.gist
  rw [List.find?_map, Option.map_map, Option.map_map]
  rfl

/-- The tool and its input do not depend on blanks at the end of the sections they stand in. -/
theorem toolAndInput_trimEnd (body : List Char) (input : Option (List Char)) :
    toolAndInput (trimEnd body) (input.map trimEnd) = toolAndInput body input := by
  unfold toolAndInput
  rw [trim_trimEnd]
  cases input with
  | none => rfl
  | some input => simp only [Option.map_some, cleanInput, trim_trimEnd]

/-- **What a reply decides depends on nothing but what its outline says.** -/
theorem decision_gist (o : Outline) : o.gist.decision = o.decision := by
  have thought : trim (((o.find? .thought).map trimEnd).getD (trimEnd o.preamble))
      = trim ((o.find? .thought).getD o.preamble) := by
    cases o.find? .thought <;> exact trim_trimEnd _
  unfold Outline.decision
  simp only [find?_gist]
  rw [show o.gist.preamble = trimEnd o.preamble from rfl, thought]
  cases o.find? .finalAnswer with
  | some answer => simp only [Option.map_some, trim_trimEnd]
  | none =>
    cases o.find? .action with
    | none => rfl
    | some body => simp only [Option.map_none, Option.map_some, toolAndInput_trimEnd]

/-! ### Blanks at the end -/

section Lines

variable {inInput : Bool} {line other : List Char}

/-- Headings that count the same: both lines have one, and with the same text, or neither does. -/
theorem headingIn?_map {α : Type} (f : Heading → (Label × Bool) × α)
    (kind : ∀ h, (f h).1 = h.kind) (same : (heading? line).map f = (heading? other).map f) :
    (headingIn? inInput line).map f = (headingIn? inInput other).map f := by
  have counts : ∀ line, (headingIn? inInput line).map f
      = ((heading? line).map f).filter fun u => !(inInput && u.1.2) := by
    intro line
    unfold headingIn?
    rw [Option.filter_map]
    simp only [Function.comp_def, kind]
    rfl
  rw [counts, counts, same]

/-- The last line may be followed by blanks. -/
theorem gist_singleton_congr (same : (heading? line).map Heading.solid
      = (heading? other).map Heading.solid) (ends : trimEnd line = trimEnd other) :
    (outlineLines inInput [line]).gist = (outlineLines inInput [other]).gist := by
  have here : (headingIn? inInput line).map Heading.solid
      = (headingIn? inInput other).map Heading.solid :=
    headingIn?_map Heading.solid (fun _ => rfl) same
  cases first : headingIn? inInput line with
  | none =>
    rw [first, Option.map_none, eq_comm, Option.map_eq_none_iff] at here
    rw [outlineLines_cons_none [] first, outlineLines_cons_none [] here]
    simp [Outline.gist, outlineLines, ends]
  | some h =>
    rw [first, Option.map_some, eq_comm, Option.map_eq_some_iff] at here
    obtain ⟨h', second, solid⟩ := here
    have label : h'.label = h.label := congrArg (fun u => u.1.1) solid
    have rest : trimEnd h'.rest = trimEnd h.rest := congrArg (fun u => u.2) solid
    rw [outlineLines_cons_some [] first, outlineLines_cons_some [] second]
    simp [Outline.gist, Section.gist, outlineLines, label, rest]

/-- The same line may be put before outlines that say the same. -/
theorem gist_cons_congr {rest more : List (List Char)}
    (same : ∀ inInput, (outlineLines inInput rest).gist = (outlineLines inInput more).gist)
    (line : List Char) :
    (outlineLines inInput (line :: rest)).gist = (outlineLines inInput (line :: more)).gist := by
  have preamble : ∀ inInput, trimEnd (outlineLines inInput rest).preamble
      = trimEnd (outlineLines inInput more).preamble :=
    fun inInput => congrArg Outline.preamble (same inInput)
  have sections : ∀ inInput, (outlineLines inInput rest).sections.map Section.gist
      = (outlineLines inInput more).sections.map Section.gist :=
    fun inInput => congrArg Outline.sections (same inInput)
  cases found : headingIn? inInput line with
  | none =>
    rw [outlineLines_cons_none rest found, outlineLines_cons_none more found]
    simp only [Outline.gist, sections, trimEnd_append_congr line (preamble inInput)]
  | some h =>
    rw [outlineLines_cons_some rest found, outlineLines_cons_some more found]
    simp only [Outline.gist, Section.gist, List.map_cons, sections,
      trimEnd_append_congr h.rest (preamble _)]

end Lines

theorem gist_append_singleton {c : Char} (blank : isBlank c = true) (inInput : Bool)
    (text : List Char) :
    (outlineLines inInput (wholeLines (text ++ [c]))).gist
      = (outlineLines inInput (wholeLines text)).gist := by
  have blanks : Blank [c] := blank_singleton blank
  suffices ∀ inInput, (outlineLines inInput (wholeLines (text ++ [c]))).gist
      = (outlineLines inInput (wholeLines text)).gist from this inInput
  refine wholeLines_concat (R := fun more rest => ∀ inInput,
    (outlineLines inInput more).gist = (outlineLines inInput rest).gist) ?_ ?_ ?_ text
  · intro inInput
    have plain : headingIn? inInput [c] = none := by
      rw [headingIn?, heading?_eq_none (not_mem_of_blank blanks)]
      rfl
    have none : trimEnd [c] = [] := trimEnd_append_of_blank [] blanks
    rw [outlineLines_cons_none [] plain]
    simp only [Outline.gist, outlineLines, List.append_nil, none]
    rfl
  · intro line inInput
    exact gist_singleton_congr (heading?_append_of_blank line blanks)
      (trimEnd_append_of_blank line blanks)
  · intro line more rest same inInput
    exact gist_cons_congr same line

/-- **Blanks at the end of a reply do not matter to what its outline says.** -/
theorem gist_trimEnd (text : List Char) : (outline (trimEnd text)).gist = (outline text).gist :=
  apply_trimEnd (f := fun text => (outline text).gist)
    (fun text _ blank => gist_append_singleton blank false text) text

/-! ### Sections that become part of an input -/

/-- Whether a section begins with a mark that also begins a remark. -/
def Section.isRemark (s : Section) : Bool := s.heading.contains '#'

/-- The outline of a text when it stands in an input: its first headings may be remarks there. -/
def Outline.inInput (o : Outline) : Outline :=
  ⟨o.preamble ++ (o.sections.takeWhile Section.isRemark).flatMap Section.text,
    o.sections.dropWhile Section.isRemark⟩

theorem Outline.inInput_inInput (o : Outline) : o.inInput.inInput = o.inInput := by
  have none : (o.sections.dropWhile Section.isRemark).takeWhile Section.isRemark = [] := by
    cases kept : o.sections.dropWhile Section.isRemark with
    | nil => rfl
    | cons s rest =>
      have plain := List.head?_dropWhile_not Section.isRemark o.sections
      rw [kept] at plain
      exact List.takeWhile_cons_of_neg (by simpa using plain)
  have all : (o.sections.dropWhile Section.isRemark).dropWhile Section.isRemark
      = o.sections.dropWhile Section.isRemark := List.dropWhile_idempotent Section.isRemark _
  simp only [Outline.inInput, none, all, List.flatMap_nil, List.append_nil]

/-- In an input the outline of lines is what becomes of the one that they have elsewhere. -/
theorem outlineLines_true (lines : List (List Char)) :
    outlineLines true lines = (outlineLines false lines).inInput := by
  induction lines with
  | nil => rfl
  | cons line rest ih =>
    have anywhere : ∀ inInput, (outlineLines inInput rest).inInput = outlineLines true rest := by
      intro inInput
      cases inInput with
      | false => exact ih.symm
      | true => rw [ih, Outline.inInput_inInput]
    cases found : heading? line with
    | none =>
      have plain : ∀ inInput, headingIn? inInput line = none := by
        intro inInput
        rw [headingIn?, found]
        rfl
      rw [outlineLines_cons_none rest (plain true), outlineLines_cons_none rest (plain false), ih]
      simp [Outline.inInput]
    | some h =>
      have outside : headingIn? false line = some h := by
        rw [headingIn?, found]
        rfl
      have remark : Section.isRemark ⟨h.label, h.text, h.rest ++
          (outlineLines (h.label = .actionInput) rest).preamble⟩ = h.isRemark :=
        (isRemark_iff found).symm
      rw [outlineLines_cons_some rest outside]
      cases marked : h.isRemark with
      | true =>
        have inside : headingIn? true line = none := by
          rw [headingIn?, found, Option.filter_some, marked]
          rfl
        have below := anywhere (h.label = .actionInput)
        rw [outlineLines_cons_none rest inside, ← below, ← headingIn?_append outside]
        simp [Outline.inInput, remark, marked, Section.text]
      | false =>
        have inside : headingIn? true line = some h := by
          rw [headingIn?, found, Option.filter_some, marked]
          rfl
        rw [outlineLines_cons_some rest inside]
        simp [Outline.inInput, remark, marked]

/-! ### Blanks at the beginning -/

/-- The section that comes to light when the blanks before a preamble are taken away. -/
def Outline.revealed? (o : Outline) : Option Section :=
  (outline (Text.trimStart o.preamble)).sections.head?

/-- What becomes of an outline when the blanks before its reply are taken away. -/
def Outline.trimStart (o : Outline) : Outline :=
  match o.revealed? with
  | none => ⟨Text.trimStart o.preamble, o.sections⟩
  | some s =>
    let below : Outline := ⟨[], o.sections⟩
    let below := if s.label = .actionInput then below.inInput else below
    ⟨[], { s with body := s.body ++ below.preamble } :: below.sections⟩

/-- What is revealed of an outline depends on nothing but what its preamble begins with. -/
theorem trimStart_congr {o o' : Outline}
    (preamble : Text.trimStart o.preamble = Text.trimStart o'.preamble)
    (sections : o.sections = o'.sections) : o.trimStart = o'.trimStart := by
  simp only [Outline.trimStart, Outline.revealed?, preamble, sections]

theorem trimStart_of_none {o : Outline} (none : o.revealed? = none) :
    o.trimStart = ⟨Text.trimStart o.preamble, o.sections⟩ := by
  rw [Outline.trimStart, none]

/-- A new section stands before the others, or takes in those that become part of an input. -/
theorem trimStart_of_some {o : Outline} {s : Section} (some : o.revealed? = some s) :
    o.trimStart =
      if s.label = .actionInput then
        ⟨[], { s with body := s.body ++ (o.sections.takeWhile Section.isRemark).flatMap Section.text }
          :: o.sections.dropWhile Section.isRemark⟩
      else ⟨[], s :: o.sections⟩ := by
  rw [Outline.trimStart, some]
  dsimp only
  split
  · rfl
  · rw [List.append_nil]

/-- The preamble has the same outline in an input, since there is no heading in it. -/
theorem outlineLines_preamble (inInput : Bool) (text : List Char) :
    outlineLines inInput (wholeLines (outline text).preamble) = ⟨(outline text).preamble, []⟩ := by
  have none : (outline (outline text).preamble).sections = [] :=
    List.map_eq_nil_iff.mp (labels_preamble text)
  have same : (outline (outline text).preamble).preamble = (outline text).preamble := by
    have whole := outline_whole (outline text).preamble
    rwa [none, List.flatMap_nil, List.append_nil] at whole
  have outside : outlineLines false (wholeLines (outline text).preamble)
      = ⟨(outline text).preamble, []⟩ := by
    show outline (outline text).preamble = _
    calc outline (outline text).preamble
        = ⟨(outline (outline text).preamble).preamble,
            (outline (outline text).preamble).sections⟩ := rfl
      _ = _ := by rw [same, none]
  cases inInput with
  | false => exact outside
  | true =>
    rw [outlineLines_true, outside]
    simp [Outline.inInput]

theorem headingIn?_false (line : List Char) : headingIn? false line = heading? line := by
  unfold headingIn?
  cases heading? line <;> rfl

/-- The first line that is not blank keeps its heading, or has none, or reveals one. -/
theorem gist_trimStart_cons {line rest : List Char} (solid : ¬ Blank line)
    (first : ∀ behind, behind <+: rest →
      wholeLines (trimStart line ++ behind) = trimStart line :: wholeLines behind) :
    (outlineLines false (trimStart line :: wholeLines rest)).gist
      = (outlineLines false (line :: wholeLines rest)).trimStart.gist := by
  cases found : heading? line with
  | some h =>
    have kind : (headingKind? line).isSome := by
      rw [headingKind?, found]
      rfl
    have still := heading?_trimStart kind
    rw [found, Option.map_some, Option.map_eq_some_iff] at still
    obtain ⟨h', found', same⟩ := still
    have label : h'.label = h.label := congrArg (fun u => u.1.1) same
    have text : h'.rest = h.rest := congrArg (fun u => u.2) same
    rw [outlineLines_cons_some _ ((headingIn?_false _).trans found),
      outlineLines_cons_some _ ((headingIn?_false _).trans found'), trimStart_of_none rfl]
    simp only [Outline.gist, Section.gist, List.map_cons, label, text]
    rfl
  | none =>
    have early : (outline rest).preamble <+: rest := ⟨_, outline_whole rest⟩
    have below := outlineLines_cons_none (wholeLines rest) ((headingIn?_false _).trans found)
    have trimmed : Text.trimStart (line ++ (outline rest).preamble)
        = trimStart line ++ (outline rest).preamble := trimStart_append_of_not solid _
    have revealed : (outlineLines false (line :: wholeLines rest)).revealed?
        = (outlineLines false
            (trimStart line :: wholeLines (outline rest).preamble)).sections.head? := by
      rw [below, Outline.revealed?, ← first _ early, ← trimmed]
      rfl
    cases found' : heading? (trimStart line) with
    | none =>
      have plain := (headingIn?_false _).trans found'
      rw [outlineLines_cons_none _ plain, outlineLines_preamble] at revealed
      rw [outlineLines_cons_none _ plain, trimStart_of_none revealed, below]
      exact congrArg (fun start => Outline.gist ⟨start, (outline rest).sections⟩) trimmed.symm
    | some h =>
      have some := (headingIn?_false _).trans found'
      rw [outlineLines_cons_some _ some, outlineLines_preamble] at revealed
      rw [outlineLines_cons_some _ some, trimStart_of_some revealed, below]
      by_cases input : h.label = .actionInput
      · rw [if_pos input]
        simp only [input, decide_true, outlineLines_true, Outline.inInput, List.append_assoc]
        rfl
      · rw [if_neg input]
        simp only [input, decide_false]
        rfl

/-- A blank line before others is taken away with the blanks before them. -/
theorem trimStart_cons_of_blank_line {line : List Char} (blank : Blank line)
    (rest : List (List Char)) :
    (outlineLines false (line :: rest)).trimStart = (outlineLines false rest).trimStart := by
  have plain : headingIn? false line = none := by
    rw [headingIn?_false, heading?_eq_none (not_mem_of_blank blank)]
  rw [outlineLines_cons_none rest plain]
  exact trimStart_congr (trimStart_append_of_blank blank _) rfl

/-- **What taking away the blanks before a reply makes of its outline.** -/
theorem gist_trimStart (text : List Char) :
    (outline (Text.trimStart text)).gist = (outline text).trimStart.gist := by
  induction text using byLines with
  | nil => rfl
  | last line some whole =>
    unfold outline
    rw [wholeLines_last some whole]
    by_cases blank : Blank line
    · rw [trimStart_eq_nil blank, trimStart_cons_of_blank_line blank]
      rfl
    · have left : Text.trimStart line ≠ [] := by
        rw [ne_eq, Text.trimStart, dropStart, List.dropWhile_eq_nil_iff]
        exact blank
      have one := wholeLines_last left fun mem => whole (mem_of_mem_trimStart mem)
      rw [one]
      have first : ∀ behind, behind <+: [] →
          wholeLines (Text.trimStart line ++ behind)
            = Text.trimStart line :: wholeLines behind := by
        intro behind early
        rw [List.prefix_nil.mp early, List.append_nil, one]
        rfl
      exact gist_trimStart_cons blank first
  | ended line rest whole ih =>
    unfold outline at ih ⊢
    rw [wholeLines_ended whole]
    by_cases blank : Blank line
    · have blanks : Blank (line ++ ['\n']) :=
        List.forall_mem_append.mpr ⟨blank, List.forall_mem_singleton.mpr rfl⟩
      rw [List.append_cons, trimStart_append_of_blank blanks, trimStart_cons_of_blank_line blanks]
      exact ih
    · have solid : ¬ Blank (line ++ ['\n']) :=
        fun blanks => blank (List.forall_mem_append.mp blanks).1
      have first : ∀ behind, wholeLines (Text.trimStart (line ++ ['\n']) ++ behind)
          = Text.trimStart (line ++ ['\n']) :: wholeLines behind := by
        intro behind
        rw [trimStart_append_of_not blank, List.append_assoc]
        exact wholeLines_ended (fun mem => whole (mem_of_mem_trimStart mem)) behind
      rw [List.append_cons, trimStart_append_of_not solid, first]
      exact gist_trimStart_cons solid fun behind _ => first behind

/-- **What taking away the blanks around a reply makes of its outline.** -/
theorem gist_trim (text : List Char) :
    (outline (trim text)).gist = (outline text).trimStart.gist := by
  rw [trim, gist_trimEnd, gist_trimStart]

/-! ### Observations that come to light -/

/-- What is revealed of a preamble is at most one section. -/
theorem labels_trim_preamble (text : List Char) :
    (outline (trim (outline text).preamble)).labels
      = ((outline text).revealed?.map Section.label).toList := by
  have alone : outline (outline text).preamble = ⟨(outline text).preamble, []⟩ :=
    outlineLines_preamble false text
  have same : (outline (outline text).preamble).revealed? = (outline text).revealed? := by
    rw [alone]
    rfl
  rw [← labels_gist, gist_trim, labels_gist]
  cases revealed : (outline text).revealed? with
  | none =>
    rw [trimStart_of_none (same.trans revealed), alone]
    rfl
  | some s =>
    rw [trimStart_of_some (same.trans revealed), alone]
    split <;> rfl

/--
**Taking blanks away around a reply can reveal an observation only in its preamble.**  It
does not matter then what stands behind the preamble.
-/
theorem observation_mem_trim_iff {text : List Char}
    (unobserved : .observation ∉ (outline text).labels) :
    .observation ∈ (outline (trim text)).labels
      ↔ .observation ∈ (outline (trim (outline text).preamble)).labels := by
  rw [labels_trim_preamble, ← labels_gist, gist_trim, labels_gist]
  cases revealed : (outline text).revealed? with
  | none =>
    rw [trimStart_of_none revealed]
    exact iff_of_false unobserved nofun
  | some s =>
    have fewer : .observation ∉ ((outline text).sections.dropWhile Section.isRemark).map
        Section.label := by
      intro mem
      exact unobserved (List.map_subset _ (List.dropWhile_sublist _).subset mem)
    have only : ∀ {labels : List Label}, .observation ∉ labels →
        (.observation ∈ s.label :: labels ↔ .observation ∈ [s.label]) := by
      intro labels none
      rw [List.mem_cons, or_iff_left none, List.mem_singleton]
    rw [trimStart_of_some revealed]
    split
    · exact only fewer
    · exact only unobserved

end Draftsman.Reply
