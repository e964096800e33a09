/-
Cutting a text and putting it together again.

A text is empty, or a line that is not ended, or a line that is and another text behind
it.  That is the way in which texts are taken apart here (`byLines`), and the lines of a
text follow it.
-/
import Mathlib.Data.List.Basic
import Draftsman.Text.Cut
import Draftsman.Proofs.Text.Blank

namespace Draftsman.Text

/-! ### Texts made of others -/

/-- Of things that are each written with some characters there are no more than characters. -/
theorem length_le_flatMap {α : Type} {write : α → List Char} {as : List α}
    (some_text : ∀ a ∈ as, write a ≠ []) : as.length ≤ (as.flatMap write).length := by
  induction as with
  | nil => exact Nat.zero_le 0
  | cons a as ih =>
    rw [List.forall_mem_cons] at some_text
    have := ih some_text.2
    have := List.length_pos_iff.mpr some_text.1
    rw [List.flatMap_cons, List.length_append, List.length_cons]
    omega

/-! ### Cutting at a character -/

/-- A text is cut at the first of the characters at which it is to be cut. -/
theorem cut_append {c : Char} {before : List Char} (first : c ∉ before) (after : List Char) :
    cut c (before ++ c :: after) = some (before, after) := by
  induction before with
  | nil => exact if_pos rfl
  | cons x before ih =>
    rw [List.mem_cons, not_or] at first
    rw [List.cons_append, cut, if_neg (Ne.symm first.1), ih first.2]
    rfl

/-- A text without the character is not cut. -/
theorem cut_eq_none {c : Char} {text : List Char} (none : c ∉ text) : cut c text = .none := by
  induction text with
  | nil => rfl
  | cons x text ih =>
    rw [List.mem_cons, not_or] at none
    rw [cut, if_neg (Ne.symm none.1), ih none.2]
    rfl

/-- The parts and the character between them are the text. -/
theorem eq_append_of_cut {c : Char} {text before after : List Char}
    (found : cut c text = some (before, after)) : text = before ++ c :: after := by
  induction text generalizing before with
  | nil => cases found
  | cons x text ih =>
    rw [cut] at found
    split at found
    · rename_i same
      cases found
      rw [same, List.nil_append]
    · obtain ⟨⟨start, rest⟩, behind, same⟩ := Option.map_eq_some_iff.mp found
      cases same
      rw [List.cons_append, ← ih behind]

/-- What comes before the first of the characters stands before the cut. -/
theorem cut_append_of_not_mem {c : Char} {before : List Char} (none : c ∉ before)
    (rest : List Char) :
    cut c (before ++ rest) = (cut c rest).map fun (start, after) => (before ++ start, after) := by
  induction before with
  | nil => exact (Option.map_id' ..).symm
  | cons x before ih =>
    rw [List.mem_cons, not_or] at none
    rw [List.cons_append, cut, if_neg (Ne.symm none.1), ih none.2, Option.map_map]
    rfl

/-! ### Beginnings and endings -/

/-- A text begins with what it was put behind. -/
theorem dropPrefix?_append (start text : List Char) :
    dropPrefix? start (start ++ text) = some text := by
  induction start with
  | nil => rfl
  | cons c rest ih => simpa [dropPrefix?] using ih

/-- A text ends with what was put behind it. -/
theorem dropSuffix?_append (text ending : List Char) :
    dropSuffix? ending (text ++ ending) = some text := by
  rw [dropSuffix?, List.reverse_append, dropPrefix?_append, Option.map_some, List.reverse_reverse]

/-- A text that begins with another is that one and what is left. -/
theorem eq_append_of_dropPrefix? {start text rest : List Char}
    (found : dropPrefix? start text = some rest) : text = start ++ rest := by
  induction start, text using dropPrefix?.induct with
  | case1 text =>
    cases found
    rfl
  | case2 p ps => cases found
  | case3 p ps text ih =>
    rw [dropPrefix?, if_pos rfl] at found
    rw [List.cons_append, ← ih found]
  | case4 p ps c text other =>
    rw [dropPrefix?, if_neg other] at found
    cases found

theorem eq_append_of_dropSuffix? {ending text rest : List Char}
    (found : dropSuffix? ending text = some rest) : text = rest ++ ending := by
  rw [dropSuffix?, Option.map_eq_some_iff] at found
  obtain ⟨front, found, rfl⟩ := found
  have reversed := congrArg List.reverse (eq_append_of_dropPrefix? found)
  simpa using reversed

theorem eq_append_of_dropLast? {c : Char} {text rest : List Char}
    (found : dropLast? c text = some rest) : text = rest ++ [c] := by
  unfold dropLast? at found
  split at found
  · rename_i last
    cases found
    exact (List.dropLast_append_getLast? c last).symm
  · cases found

/-! ### Lines -/

/-- Texts that are lines as they stand: neither empty nor with the end of a line in them. -/
structure IsLine (line : List Char) : Prop where
  something : line ≠ []
  whole : '\n' ∉ line
  ends : line.getLast? ≠ some '\r'

theorem IsLine.dropReturn {line : List Char} (is_line : IsLine line) : dropReturn line = line := by
  rw [Text.dropReturn, dropLast?, if_neg is_line.ends]
  rfl

/-- A text without blanks at its ends is a line if there is no line feed in it. -/
theorem Solid.isLine {text : List Char} (solid : Solid text) (whole : '\n' ∉ text) :
    IsLine text where
  something := solid.something
  whole := whole
  ends last := by
    -- Without the carriage return at its end the text would be shorter than it is.
    have split := List.dropLast_append_getLast? _ last
    have lost := trimEnd_append_of_blank text.dropLast (blank_singleton (c := '\r') rfl)
    rw [split, solid.finish] at lost
    obtain ⟨blanks, -, cut⟩ := trimEnd_append text.dropLast
    have short := congrArg List.length cut
    rw [← lost, List.length_append, List.length_dropLast] at short
    have := List.length_pos_iff.mpr solid.something
    omega

theorem lines_of_splitOn {text last : List Char} {ended : List (List Char)}
    (split : text.splitOn '\n' = ended ++ [last]) :
    lines text = ended.map dropReturn ++ (if last.isEmpty then [] else [last]) := by
  rw [lines, split, List.reverse_append, List.reverse_singleton, List.singleton_append]
  simp only [List.reverse_reverse]

theorem map_dropReturn {parts : List (List Char)} (are_lines : ∀ line ∈ parts, IsLine line) :
    parts.map dropReturn = parts := by
  rw [List.map_congr_left fun line mem => (are_lines line mem).dropReturn, List.map_id']

/-- **Lines that are put together are the lines of the text.** -/
theorem lines_intercalate {parts : List (List Char)} (are_lines : ∀ line ∈ parts, IsLine line) :
    lines (['\n'].intercalate parts) = parts := by
  rcases List.eq_nil_or_concat parts with rfl | ⟨ended, last, rfl⟩
  · rfl
  · rw [List.concat_eq_append] at are_lines ⊢
    have split := List.splitOn_intercalate '\n' (fun line mem => (are_lines line mem).whole)
      (List.append_ne_nil_of_right_ne_nil ended (List.cons_ne_nil last []))
    have something : last.isEmpty = false := by
      simpa using (are_lines last (List.mem_append_right _ List.mem_cons_self)).something
    rw [lines_of_splitOn split, something,
      map_dropReturn fun line mem => are_lines line (List.mem_append_left _ mem)]
    rfl

theorem intercalate_concat_nil {parts : List (List Char)} (some_parts : parts ≠ []) :
    ['\n'].intercalate (parts ++ [[]]) = ['\n'].intercalate parts ++ ['\n'] := by
  induction parts with
  | nil => exact absurd rfl some_parts
  | cons part parts ih =>
    cases parts with
    | nil => simp
    | cons next parts =>
      rw [List.cons_append, List.cons_append, List.intercalate_cons_cons, ← List.cons_append,
        ih (List.cons_ne_nil _ _), List.intercalate_cons_cons, List.append_assoc _ _ ['\n']]

/-- It does not matter whether the last line is ended, too. -/
theorem lines_intercalate_ended {parts : List (List Char)} (some_parts : parts ≠ [])
    (are_lines : ∀ line ∈ parts, IsLine line) :
    lines (['\n'].intercalate parts ++ ['\n']) = parts := by
  have whole : ∀ line ∈ parts ++ [[]], '\n' ∉ line := by
    rw [List.forall_mem_append]
    exact ⟨fun line mem => (are_lines line mem).whole, by simp⟩
  have split := List.splitOn_intercalate '\n' whole (by simp)
  rw [intercalate_concat_nil some_parts] at split
  rw [lines_of_splitOn split, map_dropReturn are_lines]
  exact List.append_nil parts

/-- Induction over the lines of a text. -/
@[elab_as_elim]
theorem byLines {P : List Char → Prop} (nil : P [])
    (last : ∀ line, line ≠ [] → '\n' ∉ line → P line)
    (ended : ∀ line rest, '\n' ∉ line → P rest → P (line ++ '\n' :: rest)) (text : List Char) :
    P text := by
  -- The line that is being read is put before what is left of the text.
  suffices h : ∀ line, '\n' ∉ line → P (line ++ text) from h [] List.not_mem_nil
  induction text with
  | nil =>
    intro line whole
    rw [List.append_nil]
    by_cases empty : line = []
    · exact empty ▸ nil
    · exact last line empty whole
  | cons c rest ih =>
    intro line whole
    by_cases ends : c = '\n'
    · subst ends
      exact ended line rest whole (ih [] List.not_mem_nil)
    · rw [← List.singleton_append, ← List.append_assoc]
      refine ih (line ++ [c]) ?_
      rw [List.mem_append, List.mem_singleton]
      rintro (mem | same)
      · exact whole mem
      · exact ends same.symm

/-- There is no line feed in what stands between line feeds. -/
theorem whole_of_mem_splitOn {text part : List Char} (mem : part ∈ text.splitOn '\n') :
    '\n' ∉ part := by
  induction text using byLines with
  | nil =>
    obtain rfl : part = [] := by simpa using mem
    exact List.not_mem_nil
  | last line _ whole =>
    rw [List.splitOn_eq_singleton whole, List.mem_singleton] at mem
    rwa [mem]
  | ended line rest whole ih =>
    rw [List.splitOn_append_cons_self_of_not_mem whole, List.mem_cons] at mem
    rcases mem with rfl | below
    · exact whole
    · exact ih below

theorem dropReturn_sublist (line : List Char) : (dropReturn line).Sublist line := by
  unfold dropReturn dropLast?
  split
  · exact List.dropLast_sublist line
  · exact List.Sublist.refl line

/-- There is no line feed in a line. -/
theorem whole_of_mem_lines {text line : List Char} (mem : line ∈ lines text) : '\n' ∉ line := by
  rcases List.eq_nil_or_concat (text.splitOn '\n') with none | ⟨ended, last, split⟩
  · exact absurd none (List.splitOn_ne_nil _ _)
  · rw [List.concat_eq_append] at split
    have whole : ∀ part ∈ ended ++ [last], '\n' ∉ part := fun part mem =>
      whole_of_mem_splitOn (split ▸ mem)
    rw [lines_of_splitOn split, List.mem_append] at mem
    rcases mem with above | final
    · obtain ⟨part, among, rfl⟩ := List.mem_map.mp above
      exact fun feed =>
        whole part (List.mem_append_left _ among) ((dropReturn_sublist part).subset feed)
    · split at final
      · cases final
      · obtain rfl := List.mem_singleton.mp final
        exact whole line (List.mem_append_right _ (List.mem_singleton_self _))

/-- A carriage return is one of the blanks that do not count. -/
theorem trim_dropReturn (line : List Char) : trim (dropReturn line) = trim line := by
  rw [dropReturn]
  cases found : dropLast? '\r' line with
  | none => rfl
  | some rest =>
    rw [eq_append_of_dropLast? found]
    exact (trim_append_of_blank rest (blank_singleton rfl)).symm

theorem wholeLines_cons {c : Char} (other : c ≠ '\n') (text : List Char) :
    wholeLines (c :: text) =
      match wholeLines text with
      | [] => [[c]]
      | line :: more => (c :: line) :: more :=
  wholeLines.eq_3 c text other

/-- A line that is ended is the first one of a text. -/
theorem wholeLines_ended {line : List Char} (whole : '\n' ∉ line) (text : List Char) :
    wholeLines (line ++ '\n' :: text) = (line ++ ['\n']) :: wholeLines text := by
  induction line with
  | nil => rfl
  | cons c rest ih =>
    rw [List.mem_cons, not_or] at whole
    rw [List.cons_append, wholeLines_cons (Ne.symm whole.1), ih whole.2]
    rfl

/-- A line that is not ended is the only one of a text. -/
theorem wholeLines_last {line : List Char} (some : line ≠ []) (whole : '\n' ∉ line) :
    wholeLines line = [line] := by
  induction line with
  | nil => exact absurd rfl some
  | cons c rest ih =>
    rw [List.mem_cons, not_or] at whole
    rw [wholeLines_cons (Ne.symm whole.1)]
    by_cases empty : rest = []
    · subst empty
      rfl
    · rw [ih empty whole.2]

/-- The lines of a text that is ended come before those of what is below it. -/
theorem wholeLines_append_ended (above below : List Char) :
    wholeLines (above ++ '\n' :: below) = wholeLines (above ++ ['\n']) ++ wholeLines below := by
  induction above using byLines with
  | nil => rfl
  | last line some whole =>
    rw [wholeLines_ended whole below, wholeLines_ended whole []]
    rfl
  | ended line rest whole ih =>
    rw [List.append_assoc, List.append_assoc, List.cons_append, List.cons_append,
      wholeLines_ended whole, wholeLines_ended whole, ih, List.cons_append]

theorem wholeLines_singleton (c : Char) : wholeLines [c] = [[c]] := by
  by_cases ends : c = '\n'
  · rw [ends]
    rfl
  · exact wholeLines_last (List.cons_ne_nil _ _) (by simpa using Ne.symm ends)

/--
One character more makes the last line of a text longer, or is a line by itself.  So what
relates lines that differ in this relates the lines of the two texts.
-/
theorem wholeLines_concat {R : List (List Char) → List (List Char) → Prop} {c : Char}
    (new : R [[c]] []) (longer : ∀ line, R [line ++ [c]] [line])
    (below : ∀ line more rest, R more rest → R (line :: more) (line :: rest)) (text : List Char) :
    R (wholeLines (text ++ [c])) (wholeLines text) := by
  induction text using byLines with
  | nil =>
    rw [List.nil_append, wholeLines_singleton]
    exact new
  | last line some whole =>
    have one : wholeLines (line ++ [c]) = [line ++ [c]] := by
      by_cases ends : c = '\n'
      · rw [ends, wholeLines_ended whole]
        rfl
      · exact wholeLines_last (by simp) (by simpa [whole] using Ne.symm ends)
    rw [one, wholeLines_last some whole]
    exact longer line
  | ended line rest whole ih =>
    rw [List.append_assoc, List.cons_append, wholeLines_ended whole, wholeLines_ended whole]
    exact below _ _ _ ih

/-- The lines of a text are the text. -/
theorem wholeLines_flatten (text : List Char) : (wholeLines text).flatten = text := by
  induction text using byLines with
  | nil => rfl
  | last line some whole => rw [wholeLines_last some whole, List.flatten_singleton]
  | ended line rest whole ih =>
    rw [wholeLines_ended whole, List.flatten_cons, ih, List.append_assoc]
    rfl

/-- The first lines of a text are the lines of what they are together. -/
theorem wholeLines_flatten_first {text : List Char} {first : List (List Char)}
    (early : first <+: wholeLines text) : wholeLines first.flatten = first := by
  induction text using byLines generalizing first with
  | nil =>
    rw [List.prefix_nil.mp early]
    rfl
  | last line some whole =>
    rw [wholeLines_last some whole, List.prefix_cons_iff] at early
    rcases early with rfl | ⟨more, rfl, early⟩
    · rfl
    · rw [List.prefix_nil.mp early, List.flatten_singleton, wholeLines_last some whole]
  | ended line rest whole ih =>
    rw [wholeLines_ended whole, List.prefix_cons_iff] at early
    rcases early with rfl | ⟨more, rfl, early⟩
    · rfl
    · rw [List.flatten_cons, List.append_assoc, List.singleton_append, wholeLines_ended whole,
        ih early]

end Draftsman.Text
