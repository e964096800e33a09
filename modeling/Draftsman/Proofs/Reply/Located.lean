/-
A reply that is cut at the headings found in it.

The headings of a reply are found by searching all of it at once, and the search skips what
looks like a heading but is a remark in an input.  What is left are places in bytes, and the
reply is cut at these places; that fails if one of them lies inside a character, or behind
the place to which the text from there should go.

The lines of the reply, read one by one, have the same headings at the same places.  So the
places are those of the outline of the reply; cutting the reply at them does not fail and
gives back the outline, and no character is lost.
-/
import Draftsman.Proofs.Reply.Search
import Draftsman.Proofs.Reply.Shape

namespace Draftsman.Reply

open Draftsman.Text

/-! ### Headings that are searched for -/

/-- Whether the last heading that was found is that of an input. -/
def endsInInput (found : List Entry) : Bool :=
  found.getLast?.any fun e => decide (e.label = .actionInput)

/-- What is found is a heading, unless it is a remark in an input. -/
def keepHeading (found : List Entry) (m : Match) : List Entry :=
  if endsInInput found && (m.group 1).contains '#' then found
  else
    found ++ [⟨m.start, m.start + byteSize m.text,
      .ofWords ((words ((m.group 2).map Char.toLower)).map String.ofList)⟩]

/-- The headings that are found when a reply is searched for them. -/
def located (reply : List Char) : List Entry := (headingPattern.matches reply).foldl keepHeading []

/--
The headings of lines that are read one after the other, of which the first one begins at a
place; `inInput` says that it stands in the input of an action.
-/
def scanned (place : Nat) (inInput : Bool) : List (List Char) → List Entry
  | [] => []
  | line :: rest =>
    match headingIn? inInput line with
    | some h =>
      ⟨place, place + byteSize h.text, h.label⟩ ::
        scanned (place + byteSize line) (h.label = .actionInput) rest
    | none => scanned (place + byteSize line) inInput rest

/-- The lines are scanned as the outline is made of them. -/
theorem contentsFrom_outlineLines (place : Nat) (inInput : Bool) (lines : List (List Char)) :
    (outlineLines inInput lines).contentsFrom place = scanned place inInput lines := by
  induction lines generalizing place inInput with
  | nil => rfl
  | cons line rest ih =>
    rw [scanned]
    cases found : headingIn? inInput line with
    | none => rw [contentsFrom_cons_none rest found, ih]
    | some h => rw [contentsFrom_cons_some rest found, ih]

theorem keepHeading_found (found : List Entry) (h : Heading) (place : Nat) :
    keepHeading found (h.found place)
      = if endsInInput found && h.isRemark then found
        else found ++ [⟨place, place + byteSize h.text, h.label⟩] := rfl

theorem endsInInput_append (found : List Entry) (e : Entry) :
    endsInInput (found ++ [e]) = decide (e.label = .actionInput) := by
  simp [endsInInput]

/-- The headings of lines are kept as they are scanned. -/
theorem foldl_keepHeading (found : List Entry) (place : Nat) (lines : List (List Char)) :
    (headingsFrom place lines).foldl keepHeading found
      = found ++ scanned place (endsInInput found) lines := by
  induction lines generalizing found place with
  | nil => exact (List.append_nil found).symm
  | cons line rest ih =>
    rw [headingsFrom, scanned, headingIn?, List.foldl_append]
    cases heading? line with
    | none => exact ih found _
    | some h =>
      rw [Option.map_some, Option.toList_some, List.foldl_cons, List.foldl_nil, keepHeading_found]
      by_cases remark : (endsInInput found && h.isRemark) = true
      · rw [if_pos remark, ih, Option.filter_some, remark]
        rfl
      · rw [if_neg remark, ih, endsInInput_append, Option.filter_some,
          Bool.eq_false_iff.mpr remark, List.append_assoc]
        rfl

/-- **Searching a reply for its headings is scanning its lines.** -/
theorem located_eq_scanned (reply : List Char) :
    located reply = scanned 0 false (wholeLines reply) := by
  rw [located, matches_heading, foldl_keepHeading]
  rfl

/-- A remark in an input is no heading; anywhere else it is one. -/
example : located "# Thought: a\n**Action Input:** b\n# Thought: c".toList
    = [⟨0, 11, .thought⟩, ⟨13, 31, .actionInput⟩] := by decide +kernel

theorem located_eq_contents (reply : List Char) : located reply = (outline reply).contents := by
  rw [located_eq_scanned, ← contentsFrom_outlineLines]
  rfl

/-! ### Cutting at bytes -/

/-- What stands before and behind a place, unless that is inside a character or behind the text. -/
def cutAt? : Nat → List Char → Option (List Char × List Char)
  | 0, text => some ([], text)
  | _ + 1, [] => none
  | place + 1, c :: rest =>
    if c.utf8Size ≤ place + 1 then
      (cutAt? (place + 1 - c.utf8Size) rest).map fun (before, behind) => (c :: before, behind)
    else none

/-- What stands between two places, if they can be cut at and the first one comes first. -/
def slice? (text : List Char) (start stop : Nat) : Option (List Char) := do
  let (_, behind) ← cutAt? start text
  if start ≤ stop then
    let (inside, _) ← cutAt? (stop - start) behind
    some inside
  else none

/-- A place in a text at which a character begins, or at which the text ends. -/
def Boundary (text : List Char) (place : Nat) : Prop :=
  ∃ before behind, text = before ++ behind ∧ byteSize before = place

/-- The place where the next heading begins, or the end of the reply. -/
def nextStart (reply : List Char) (found : List Entry) : Nat :=
  (found.head?.map Entry.start).getD (byteSize reply)

/-- The sections of a reply that begin at some places. -/
def sectionsAt? (reply : List Char) : List Entry → Option (List Section)
  | [] => some []
  | e :: rest => do
    let heading ← slice? reply e.start e.bodyStart
    let body ← slice? reply e.bodyStart (nextStart reply rest)
    let sections ← sectionsAt? reply rest
    some (⟨e.label, heading, body⟩ :: sections)

/-- A reply cut at the places of its headings. -/
def outlineAt? (reply : List Char) (found : List Entry) : Option Outline := do
  let preamble ← slice? reply 0 (nextStart reply found)
  let sections ← sectionsAt? reply found
  some ⟨preamble, sections⟩

theorem cutAt?_append (before behind : List Char) :
    cutAt? (byteSize before) (before ++ behind) = some (before, behind) := by
  induction before with
  | nil => cases behind <;> rfl
  | cons c rest ih =>
    have positive : 0 < c.utf8Size := Char.utf8Size_pos c
    rw [byteSize_cons]
    obtain ⟨n, size⟩ := Nat.exists_eq_add_one.mpr (Nat.add_pos_left positive (byteSize rest))
    have left : n + 1 - c.utf8Size = byteSize rest := by omega
    rw [size, List.cons_append, cutAt?, if_pos (by omega), left, ih]
    rfl

/-- What is put between two texts can be cut out again. -/
theorem slice?_append (before inside behind : List Char) :
    slice? (before ++ inside ++ behind) (byteSize before) (byteSize before + byteSize inside)
      = some inside := by
  have left : byteSize before + byteSize inside - byteSize before = byteSize inside := by omega
  rw [slice?, List.append_assoc, cutAt?_append, Option.bind_eq_bind, Option.bind_some]
  dsimp only
  rw [if_pos (by omega), left, cutAt?_append]
  rfl

/-- A section begins where the one before it ends. -/
theorem nextStart_entriesFrom (before : List Char) (sections : List Section) :
    nextStart (before ++ sections.flatMap Section.text) (entriesFrom (byteSize before) sections)
      = byteSize before := by
  cases sections with
  | nil => simp [nextStart, entriesFrom]
  | cons s rest => rfl

/-- The sections of an outline are cut out at their places. -/
theorem sectionsAt?_entriesFrom (before : List Char) (sections : List Section) :
    sectionsAt? (before ++ sections.flatMap Section.text) (entriesFrom (byteSize before) sections)
      = some sections := by
  induction sections generalizing before with
  | nil => rfl
  | cons s rest ih =>
    have below := ih (before ++ s.text)
    have next := nextStart_entriesFrom (before ++ s.text) rest
    have size : byteSize before + byteSize s.text
        = byteSize (before ++ s.heading) + byteSize s.body := by
      simp [Section.text, Nat.add_assoc]
    rw [byteSize_append, List.append_assoc, ← List.flatMap_cons] at below next
    have heading := slice?_append before s.heading (s.body ++ rest.flatMap Section.text)
    have body := slice?_append (before ++ s.heading) s.body (rest.flatMap Section.text)
    have whole : before ++ (s :: rest).flatMap Section.text
        = before ++ s.heading ++ (s.body ++ rest.flatMap Section.text) := by
      simp [Section.text]
    rw [← whole] at heading
    rw [List.append_assoc _ s.body, ← whole, ← size, byteSize_append] at body
    simp only [entriesFrom, sectionsAt?, heading, next, body, below, Option.bind_eq_bind,
      Option.bind_some]

/-- An outline is cut out of its text at the places of its headings. -/
theorem outlineAt?_contents (o : Outline) :
    outlineAt? (o.preamble ++ o.sections.flatMap Section.text) o.contents = some o := by
  have places : o.contents = entriesFrom (byteSize o.preamble) o.sections := by
    rw [Outline.contents, Outline.contentsFrom, Nat.zero_add]
  have preamble := slice?_append [] o.preamble (o.sections.flatMap Section.text)
  rw [List.nil_append, byteSize_nil, Nat.zero_add] at preamble
  rw [outlineAt?, places, nextStart_entriesFrom, preamble, sectionsAt?_entriesFrom]
  rfl

/-! ### The order of the places -/

theorem byteSize_pos {text : List Char} (some : text ≠ []) : 0 < byteSize text := by
  cases text with
  | nil => exact absurd rfl some
  | cons c rest =>
    rw [byteSize_cons]
    exact Nat.lt_of_lt_of_le (Char.utf8Size_pos c) (Nat.le_add_right _ _)

/-- Headings that stand in their order in a text, and do not overlap. -/
structure InPlace (text : List Char) (found : List Entry) : Prop where
  /-- No heading is empty. -/
  something : ∀ e ∈ found, e.start < e.bodyStart
  /-- Every heading begins between characters or at an end, and so does what is behind it. -/
  boundary : ∀ e ∈ found, Boundary text e.start ∧ Boundary text e.bodyStart
  /-- What stands behind a heading begins before the next heading does, or with it. -/
  apart : found.Pairwise fun e next => e.bodyStart ≤ next.start

theorem le_start_entriesFrom (start : Nat) (sections : List Section) :
    ∀ e ∈ entriesFrom start sections, start ≤ e.start := by
  induction sections generalizing start with
  | nil => exact nofun
  | cons s rest ih =>
    refine List.forall_mem_cons.mpr ⟨Nat.le_refl _, fun e mem => ?_⟩
    exact Nat.le_trans (Nat.le_add_right _ _) (ih _ e mem)

theorem inPlace_entriesFrom (before : List Char) {sections : List Section}
    (headed : ∀ s ∈ sections, s.heading ≠ []) :
    InPlace (before ++ sections.flatMap Section.text) (entriesFrom (byteSize before) sections) := by
  induction sections generalizing before with
  | nil => exact ⟨nofun, nofun, List.Pairwise.nil⟩
  | cons s rest ih =>
    rw [List.forall_mem_cons] at headed
    have below := ih (before ++ s.text) headed.2
    rw [byteSize_append, List.append_assoc, ← List.flatMap_cons] at below
    have positive := byteSize_pos headed.1
    refine ⟨?_, ?_, ?_⟩
    · exact List.forall_mem_cons.mpr ⟨Nat.lt_add_of_pos_right positive, below.something⟩
    · refine List.forall_mem_cons.mpr ⟨⟨⟨before, _, rfl, rfl⟩, ?_⟩, below.boundary⟩
      refine ⟨before ++ s.heading, s.body ++ rest.flatMap Section.text, ?_, byteSize_append _ _⟩
      simp [Section.text]
    · refine List.pairwise_cons.mpr ⟨fun next mem => ?_, below.apart⟩
      refine Nat.le_trans ?_ (le_start_entriesFrom _ rest next mem)
      simp [Section.text]

theorem InPlace.increasing {text : List Char} {found : List Entry} (ok : InPlace text found) :
    (found.map Entry.start).Pairwise (· < ·) := by
  rw [List.pairwise_map]
  refine ok.apart.imp_of_mem fun here _ apart => ?_
  exact Nat.lt_of_lt_of_le (ok.something _ here) apart

theorem inPlace_located (reply : List Char) : InPlace reply (located reply) := by
  have headed : ∀ s ∈ (outline reply).sections, s.heading ≠ [] :=
    fun s mem => List.ne_nil_of_mem (colon_mem_heading s mem)
  have places := inPlace_entriesFrom (outline reply).preamble headed
  rw [outline_whole] at places
  rw [located_eq_contents, Outline.contents, Outline.contentsFrom, Nat.zero_add]
  exact places

/--
**Searching a reply finds the headings of its lines, and cuts it into its outline.**  What is
found by going over the whole reply are the headings of its lines, in their order, but for
remarks in an input; a line has a heading exactly if it begins with decoration, the words of a
label, marks and a colon.  The places that are found lie between characters, and each text
begins behind its heading and not behind the next one; so the reply can be cut at all of
them, and the preamble, the headings and the texts below them are the whole reply.
-/
theorem located_lines (reply : List Char) :
    located reply = scanned 0 false (wholeLines reply) ∧
    (∀ line h, heading? line = some h ↔
      ∃ p words, Parts.Fit p words ∧ p.line = line ∧ p.heading = h) ∧
    (wholeLines reply).flatten = reply ∧
    InPlace reply (located reply) ∧
    ((located reply).map Entry.start).Pairwise (· < ·) ∧
    outlineAt? reply (located reply) = some (outline reply) ∧
    (outline reply).preamble
      ++ (outline reply).sections.flatMap (fun s => s.heading ++ s.body) = reply := by
  have cut := outlineAt?_contents (outline reply)
  rw [outline_whole, ← located_eq_contents] at cut
  exact ⟨located_eq_scanned reply, fun _ _ => heading?_eq_some_iff, wholeLines_flatten reply,
    inPlace_located reply, (inPlace_located reply).increasing, cut, outline_whole reply⟩

end Draftsman.Reply
