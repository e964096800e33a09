/-
What makes a line a heading.

A heading is a beginning of its line, and it ends with a colon.  What stands behind the
first colon of a line has therefore no influence on whether the line has a heading, nor
on which one; and a line without a colon has none.  What stands before the words of a
heading are gaps and marks, so that a heading does not depend on how far its line is
indented, as long as it is indented by gaps.  A line that begins with any other blank
has no heading, and may get one when the blank is taken away.
-/
import Mathlib.Data.List.Basic
import Draftsman.Reply.Heading
import Draftsman.Proofs.Text.Blank

namespace Draftsman.Reply

open Draftsman.Text

/-! ### Readers return what they do not read -/

theorem readLetters_append {letters text written rest : List Char}
    (read : readLetters letters text = some (written, rest)) : written ++ rest = text := by
  induction letters, text using readLetters.induct generalizing written rest with
  | case1 text =>
    cases read
    rfl
  | case2 letter letters => cases read
  | case3 letter letters c text same ih =>
    rw [readLetters, if_pos same, Option.map_eq_some_iff] at read
    obtain ⟨⟨more, left⟩, read, eq⟩ := read
    cases eq
    rw [List.cons_append, ih read]
  | case4 letter letters c text other =>
    rw [readLetters, if_neg other] at read
    cases read

theorem readWords_append {words : List String} {text written rest : List Char}
    (read : readWords words text = some (written, rest)) : written ++ rest = text := by
  induction words, text using readWords.induct generalizing written rest with
  | case1 text =>
    cases read
    rfl
  | case2 word text => exact readLetters_append read
  | case3 word words text more ih =>
    rw [readWords.eq_3 _ _ _ more, Option.bind_eq_bind, Option.bind_eq_some_iff] at read
    obtain ⟨⟨first, left⟩, one, read⟩ := read
    dsimp only at read
    split at read
    · cases read
    · rw [Option.bind_eq_some_iff] at read
      obtain ⟨⟨others, after⟩, two, eq⟩ := read
      cases eq
      rw [List.append_assoc, List.append_assoc, ih left two, List.takeWhile_append_dropWhile,
        readLetters_append one]

/-- The ending of a heading holds a colon, and marks around it. -/
theorem readEnding_append {text ending rest : List Char}
    (read : readEnding text = some (ending, rest)) : ending ++ rest = text ∧ ':' ∈ ending := by
  unfold readEnding at read
  split at read
  · rename_i behind colon
    cases read
    refine ⟨?_, by simp⟩
    rw [List.append_assoc, List.cons_append, List.takeWhile_append_dropWhile, ← colon,
      List.takeWhile_append_dropWhile]
  · cases read

/-- A heading is read with one of the wordings, behind the decoration of its line. -/
theorem heading?_read {line : List Char} {h : Heading} (found : heading? line = some h) :
    h.decoration = line.takeWhile isDecoration ∧
    ∃ wording ∈ wordings, ∃ left,
      readWords wording (line.dropWhile isDecoration) = some (h.wording, left) ∧
      readEnding left = some (h.ending, h.rest) := by
  obtain ⟨wording, mem, found⟩ := List.exists_of_findSome?_eq_some found
  unfold headingWith? at found
  rw [Option.bind_eq_bind, Option.bind_eq_some_iff] at found
  obtain ⟨⟨written, left⟩, words, found⟩ := found
  dsimp only at found
  rw [Option.bind_eq_some_iff] at found
  obtain ⟨⟨ending, rest⟩, ends, eq⟩ := found
  cases eq
  exact ⟨rfl, wording, mem, left, words, ends⟩

/-- **A heading is where its line begins.** -/
theorem heading?_append {line : List Char} {h : Heading} (found : heading? line = some h) :
    h.text ++ h.rest = line ∧ ':' ∈ h.text := by
  obtain ⟨decoration, wording, -, left, words, ends⟩ := heading?_read found
  obtain ⟨same, colon⟩ := readEnding_append ends
  refine ⟨?_, List.mem_append_right _ colon⟩
  rw [Heading.text, decoration, List.append_assoc, same, List.append_assoc,
    readWords_append words, List.takeWhile_append_dropWhile]

theorem heading?_eq_none {line : List Char} (plain : ':' ∉ line) : heading? line = none := by
  cases found : heading? line with
  | none => rfl
  | some h =>
    obtain ⟨whole, colon⟩ := heading?_append found
    exact absurd (whole ▸ List.mem_append_left h.rest colon) plain

/-! ### Kinds of headings -/

/-- What a heading does to the outline of a reply: its label, and whether it may be a remark. -/
def Heading.kind (h : Heading) : Label × Bool := (h.label, h.isRemark)

/-- The kind of the heading of a line, if it has one. -/
def headingKind? (line : List Char) : Option (Label × Bool) := (heading? line).map Heading.kind

/-- The kind of a heading, and the text behind it. -/
def Heading.reading (h : Heading) : (Label × Bool) × List Char := (h.kind, h.rest)

/-- The kind of a heading, and the text behind it but for blanks at its end. -/
def Heading.solid (h : Heading) : (Label × Bool) × List Char := (h.kind, trimEnd h.rest)

/-- It is enough to compare two lines wording by wording. -/
theorem heading?_map_congr {α : Type} (f : Heading → α) {line other : List Char}
    (same : ∀ wording ∈ wordings,
      (headingWith? line wording).map f = (headingWith? other wording).map f) :
    (heading? line).map f = (heading? other).map f := by
  unfold heading?
  rw [List.map_findSome?, List.map_findSome?, ← List.head?_filterMap, ← List.head?_filterMap]
  exact congrArg List.head? (List.filterMap_congr same)

theorem headingKind?_of_reading {line other : List Char}
    (same : (heading? line).map Heading.reading = (heading? other).map Heading.reading) :
    headingKind? line = headingKind? other := by
  have kinds := congrArg (Option.map Prod.fst) same
  rwa [Option.map_map, Option.map_map] at kinds

/-! ### The letters of headings -/

/-- Words of small letters, of which there is at least one in each. -/
def AreWords (wording : List String) : Prop :=
  wording ≠ [] ∧
    ∀ word ∈ wording, word.toList ≠ [] ∧ ∀ letter ∈ word.toList, letter.isLower = true

theorem areWords_of_mem {wording : List String} (mem : wording ∈ wordings) : AreWords wording := by
  have all : wordings.all (fun wording => !wording.isEmpty &&
      wording.all fun word => !word.toList.isEmpty && word.toList.all Char.isLower) = true := rfl
  have here := List.all_eq_true.mp all wording mem
  simp only [Bool.and_eq_true, Bool.not_eq_true', List.isEmpty_eq_false_iff, List.all_eq_true]
    at here
  exact here

theorem solid_of_toNat {c : Char} (low : 65 ≤ c.toNat) (high : c.toNat ≤ 122) :
    isBlank c = false ∧ c ≠ ':' ∧ c ≠ '#' := by
  refine ⟨?_, ?_, ?_⟩
  · rw [Bool.eq_false_iff]
    intro blank
    simp only [isBlank, Ranges.covers, blankRanges, List.any_cons, List.any_nil, Bool.or_eq_true,
      Bool.and_eq_true, decide_eq_true_eq, Bool.false_eq_true, or_false] at blank
    omega
  · rintro rfl
    exact absurd low (by decide)
  · rintro rfl
    exact absurd low (by decide)

/-- What counts as a letter is neither blank nor a colon nor a number sign. -/
theorem solid_of_isLetter {letter c : Char} (small : letter.isLower = true)
    (same : isLetter letter c = true) : isBlank c = false ∧ c ≠ ':' ∧ c ≠ '#' := by
  have bounds : 97 ≤ letter.toNat ∧ letter.toNat ≤ 122 := by
    change (decide (97 ≤ letter.toNat) && decide (letter.toNat ≤ 122)) = true at small
    rwa [Bool.and_eq_true, decide_eq_true_eq, decide_eq_true_eq] at small
  unfold isLetter at same
  rw [Bool.or_eq_true, beq_iff_eq, Bool.and_eq_true, beq_iff_eq, beq_iff_eq] at same
  rcases same with lower | ⟨-, rfl⟩
  · by_cases large : c.val ≥ 'A'.val ∧ c.val ≤ 'Z'.val
    · have range : 65 ≤ c.toNat ∧ c.toNat ≤ 90 := large
      exact solid_of_toNat range.1 (by omega)
    · have kept : c.toLower = c := dif_neg large
      obtain rfl : c = letter := kept.symm.trans lower
      exact solid_of_toNat (by omega) bounds.2
  · exact ⟨by decide, by decide, by decide⟩

/-- A character that counts as no letter. -/
def NoLetter (c : Char) : Prop := ∀ letter, letter.isLower = true → isLetter letter c = false

theorem noLetter_of_isBlank {c : Char} (blank : isBlank c = true) : NoLetter c := by
  intro letter small
  rw [Bool.eq_false_iff]
  intro same
  rw [(solid_of_isLetter small same).1] at blank
  cases blank

/-! ### What stands behind the colon -/

section Stop

variable {α : Type} {p : α → Bool} {c : α}

theorem takeWhile_append_stop (stops : p c = false) (before behind : List α) :
    (before ++ c :: behind).takeWhile p = before.takeWhile p := by
  induction before with
  | nil => simp [stops]
  | cons x rest ih => simp only [List.cons_append, List.takeWhile_cons, ih]

theorem dropWhile_append_stop (stops : p c = false) (before behind : List α) :
    (before ++ c :: behind).dropWhile p = before.dropWhile p ++ c :: behind := by
  induction before with
  | nil => simp [stops]
  | cons x rest ih =>
    rw [List.cons_append, List.dropWhile_cons, List.dropWhile_cons]
    split
    · exact ih
    · rfl

end Stop

/-- A character that is no part of the words of any heading. -/
structure IsStop (stop : Char) : Prop where
  no_gap : isGap stop = false
  no_letter : NoLetter stop

theorem isStop_colon : IsStop ':' where
  no_gap := rfl
  no_letter letter small := by
    rw [Bool.eq_false_iff]
    exact fun same => (solid_of_isLetter small same).2.1 rfl

/-- Letters are read in front of a character that stops them, or not at all. -/
theorem readLetters_append_stop {stop : Char} (stops : IsStop stop) {letters : List Char}
    (small : ∀ letter ∈ letters, letter.isLower = true) (before behind : List Char) :
    readLetters letters (before ++ stop :: behind)
      = (readLetters letters before).map fun (written, rest) =>
          (written, rest ++ stop :: behind) := by
  induction letters generalizing before with
  | nil => rfl
  | cons letter letters ih =>
    cases before with
    | nil => simp [readLetters, stops.no_letter letter (small _ List.mem_cons_self)]
    | cons c rest =>
      have more := ih (fun other mem => small other (List.mem_cons_of_mem _ mem)) rest
      simp only [List.cons_append, readLetters, more]
      split
      · cases readLetters letters rest <;> rfl
      · rfl

theorem readWords_append_stop {stop : Char} (stops : IsStop stop) {words : List String}
    (small : AreWords words) (before behind : List Char) :
    readWords words (before ++ stop :: behind)
      = (readWords words before).map fun (written, rest) => (written, rest ++ stop :: behind) := by
  induction words, before using readWords.induct with
  | case1 before => rfl
  | case2 word before => exact readLetters_append_stop stops (small.2 word List.mem_cons_self).2 _ _
  | case3 word words before more ih =>
    have first := readLetters_append_stop stops (small.2 word List.mem_cons_self).2 before behind
    have others : AreWords words :=
      ⟨more, fun other mem => small.2 other (List.mem_cons_of_mem _ mem)⟩
    rw [readWords.eq_3 _ _ _ more, readWords.eq_3 _ _ _ more, first]
    cases readLetters word.toList before with
    | none => rfl
    | some read =>
      obtain ⟨written, left⟩ := read
      simp only [Option.map_some, Option.bind_eq_bind, Option.bind_some,
        takeWhile_append_stop stops.no_gap, dropWhile_append_stop stops.no_gap, ih left others]
      split
      · rfl
      · cases readWords words (left.dropWhile isGap) <;> rfl

/-- What stands behind a colon does not matter to whether it ends a heading. -/
theorem readEnding_append_colon (before behind other : List Char) :
    (readEnding (before ++ ':' :: behind)).isSome
      = (readEnding (before ++ ':' :: other)).isSome := by
  have stops : isMark ':' = false := rfl
  unfold readEnding
  rw [dropWhile_append_stop stops, dropWhile_append_stop stops]
  cases before.dropWhile isMark with
  | nil => rfl
  | cons c rest =>
    by_cases colon : c = ':'
    · subst colon
      rfl
    · simp [colon]

/-- A heading is read up to the first colon of its line, and then its ending. -/
theorem headingWith?_append_colon {wording : List String} (small : AreWords wording)
    (before behind : List Char) :
    headingWith? (before ++ ':' :: behind) wording
      = (readWords wording (before.dropWhile isDecoration)).bind fun read =>
          (readEnding (read.2 ++ ':' :: behind)).map fun ending =>
            ⟨before.takeWhile isDecoration, read.1, ending.1, ending.2⟩ := by
  have stops : isDecoration ':' = false := rfl
  simp only [headingWith?, takeWhile_append_stop stops, dropWhile_append_stop stops,
    readWords_append_stop isStop_colon small, Option.bind_eq_bind, Option.bind_map]
  cases readWords wording (before.dropWhile isDecoration) with
  | none => rfl
  | some read =>
    simp only [Option.bind_some, Function.comp_apply]
    cases readEnding (read.2 ++ ':' :: behind) <;> rfl

/-! ### What stands before the words -/

theorem isDecoration_of_isGap {c : Char} (gap : isGap c = true) :
    isDecoration c = true ∧ c ≠ '#' := by
  unfold isDecoration
  refine ⟨by simp [gap], ?_⟩
  rintro rfl
  cases gap

/-- A heading may be indented by gaps. -/
theorem heading?_cons_of_isGap {c : Char} (gap : isGap c = true) (line : List Char) :
    (heading? (c :: line)).map Heading.reading = (heading? line).map Heading.reading := by
  obtain ⟨decoration, other⟩ := isDecoration_of_isGap gap
  refine heading?_map_congr Heading.reading fun wording _ => ?_
  simp only [headingWith?, List.dropWhile_cons_of_pos decoration,
    List.takeWhile_cons_of_pos decoration]
  cases readWords wording (line.dropWhile isDecoration) with
  | none => rfl
  | some read =>
    obtain ⟨written, rest⟩ := read
    simp only [Option.bind_eq_bind, Option.bind_some]
    cases readEnding rest with
    | none => rfl
    | some ending =>
      have remark : (c :: line.takeWhile isDecoration).contains '#'
          = (line.takeWhile isDecoration).contains '#' := by
        rw [List.contains_cons, beq_eq_false_iff_ne.mpr (Ne.symm other), Bool.false_or]
      simp only [Option.bind_some, Option.map_some, Heading.reading, Heading.kind,
        Heading.isRemark, Heading.label, remark]

/-- No word begins with a character that is no letter. -/
theorem readLetters_cons_of_noLetter {c : Char} (other : NoLetter c) {letters : List Char}
    (some : letters ≠ []) (small : ∀ letter ∈ letters, letter.isLower = true)
    (text : List Char) : readLetters letters (c :: text) = none := by
  cases letters with
  | nil => exact absurd rfl some
  | cons letter more =>
    rw [readLetters, other letter (small letter List.mem_cons_self)]
    rfl

theorem readWords_cons_of_noLetter {c : Char} (other : NoLetter c) {words : List String}
    (small : AreWords words) (text : List Char) : readWords words (c :: text) = none := by
  obtain ⟨some, small⟩ := small
  cases words with
  | nil => exact absurd rfl some
  | cons word more =>
    have first := readLetters_cons_of_noLetter other (small word List.mem_cons_self).1
      (small word List.mem_cons_self).2 text
    cases more with
    | nil => exact first
    | cons next others =>
      rw [readWords.eq_3 _ _ _ (List.cons_ne_nil next others), first]
      rfl

/-- A line that begins with another blank has no heading. -/
theorem headingKind?_cons_of_isBlank {c : Char} (blank : isBlank c = true) (wide : isGap c = false)
    (line : List Char) : headingKind? (c :: line) = none := by
  have plain : ¬ isDecoration c = true := by
    unfold isDecoration
    rw [wide]
    simp only [Bool.false_or, Bool.or_eq_true, beq_iff_eq]
    rintro ((((rfl | rfl) | rfl) | rfl) | rfl) <;> cases blank
  unfold headingKind?
  rw [Option.map_eq_none_iff, heading?, List.findSome?_eq_none_iff]
  intro wording mem
  rw [headingWith?, List.dropWhile_cons_of_neg plain,
    readWords_cons_of_noLetter (noLetter_of_isBlank blank) (areWords_of_mem mem)]
  rfl

/-- **A heading stays when the blanks before it are taken away.** -/
theorem heading?_trimStart {line : List Char} (found : (headingKind? line).isSome) :
    (heading? (trimStart line)).map Heading.reading = (heading? line).map Heading.reading := by
  induction line with
  | nil => cases found
  | cons c rest ih =>
    cases blank : isBlank c with
    | false => rw [trimStart_cons_of_not blank]
    | true =>
      rw [trimStart_cons_of_blank blank]
      cases gap : isGap c with
      | false =>
        rw [headingKind?_cons_of_isBlank blank gap] at found
        cases found
      | true =>
        have same := heading?_cons_of_isGap gap rest
        rw [headingKind?_of_reading same] at found
        rw [ih found, same]

/-! ### Lines without a heading -/

theorem not_mem_of_blank {text : List Char} (blank : Blank text) : ':' ∉ text := by
  intro mem
  cases blank ':' mem

/-- Blanks behind the marks around a colon are read with them, or stand in the rest. -/
theorem trimEnd_dropWhile_isMark (text : List Char) {blanks : List Char} (blank : Blank blanks) :
    trimEnd ((text ++ blanks).dropWhile isMark) = trimEnd (text.dropWhile isMark) := by
  by_cases marks : ∀ c ∈ text, isMark c = true
  · have none : text.dropWhile isMark = [] := List.dropWhile_eq_nil_iff.mpr marks
    have left : Blank (blanks.dropWhile isMark) :=
      fun c mem => blank c ((List.dropWhile_sublist _).mem mem)
    rw [List.dropWhile_append_of_pos marks, none, ← trimEnd_append_of_blank [] left,
      List.nil_append]
  · have some : (text.dropWhile isMark).isEmpty = false := by
      rw [List.isEmpty_eq_false_iff, ne_eq, List.dropWhile_eq_nil_iff]
      exact marks
    rw [List.dropWhile_append, some]
    exact trimEnd_append_of_blank _ blank

/-- Blanks behind a colon change nothing but the blanks at the end of what it is followed by. -/
theorem readEnding_append_of_blank (before behind : List Char) {blanks : List Char}
    (blank : Blank blanks) :
    (readEnding (before ++ ':' :: (behind ++ blanks))).map (fun ending => trimEnd ending.2)
      = (readEnding (before ++ ':' :: behind)).map fun ending => trimEnd ending.2 := by
  have stops : isMark ':' = false := rfl
  unfold readEnding
  rw [dropWhile_append_stop stops, dropWhile_append_stop stops]
  cases before.dropWhile isMark with
  | nil => simp [trimEnd_dropWhile_isMark behind blank]
  | cons c rest =>
    by_cases colon : c = ':'
    · subst colon
      have same := trimEnd_dropWhile_isMark (rest ++ ':' :: behind) blank
      rw [List.append_assoc, List.cons_append] at same
      simp [same]
    · simp [colon]

/-- Blanks at the end of a line do not matter to its heading. -/
theorem heading?_append_of_blank (line : List Char) {blanks : List Char} (blank : Blank blanks) :
    (heading? (line ++ blanks)).map Heading.solid = (heading? line).map Heading.solid := by
  by_cases colon : ':' ∈ line
  · obtain ⟨before, behind, rfl⟩ := List.append_of_mem colon
    rw [List.append_assoc, List.cons_append]
    refine heading?_map_congr Heading.solid fun wording mem => ?_
    have small := areWords_of_mem mem
    rw [headingWith?_append_colon small, headingWith?_append_colon small]
    cases readWords wording (before.dropWhile isDecoration) with
    | none => rfl
    | some read =>
      have same := readEnding_append_of_blank read.2 behind blank
      have whole := congrArg (Option.map fun rest =>
        (Heading.kind ⟨before.takeWhile isDecoration, read.1, [], []⟩, rest)) same
      rw [Option.map_map, Option.map_map] at whole
      simp only [Option.bind_some, Option.map_map]
      exact whole
  · have none : ':' ∉ line ++ blanks := by
      rw [List.mem_append, not_or]
      exact ⟨colon, not_mem_of_blank blank⟩
    rw [heading?_eq_none colon, heading?_eq_none none]

/-! ### Marks of remarks -/

theorem not_mem_readLetters {letters text written rest : List Char}
    (small : ∀ letter ∈ letters, letter.isLower = true)
    (read : readLetters letters text = some (written, rest)) : '#' ∉ written := by
  induction letters, text using readLetters.induct generalizing written rest with
  | case1 text =>
    cases read
    exact List.not_mem_nil
  | case2 letter letters => cases read
  | case3 letter letters c text same ih =>
    rw [readLetters, if_pos same, Option.map_eq_some_iff] at read
    obtain ⟨⟨more, left⟩, read, eq⟩ := read
    cases eq
    have more := ih (fun other mem => small other (List.mem_cons_of_mem _ mem)) read
    have first := (solid_of_isLetter (small letter List.mem_cons_self) same).2.2
    exact List.not_mem_cons_of_ne_of_not_mem first.symm more
  | case4 letter letters c text other =>
    rw [readLetters, if_neg other] at read
    cases read

theorem not_mem_readWords {words : List String} {text written rest : List Char}
    (small : AreWords words) (read : readWords words text = some (written, rest)) :
    '#' ∉ written := by
  induction words, text using readWords.induct generalizing written rest with
  | case1 text =>
    cases read
    exact List.not_mem_nil
  | case2 word text => exact not_mem_readLetters (small.2 word List.mem_cons_self).2 read
  | case3 word words text more ih =>
    rw [readWords.eq_3 _ _ _ more, Option.bind_eq_bind, Option.bind_eq_some_iff] at read
    obtain ⟨⟨first, left⟩, one, read⟩ := read
    dsimp only at read
    split at read
    · cases read
    · rw [Option.bind_eq_some_iff] at read
      obtain ⟨⟨others, after⟩, two, eq⟩ := read
      cases eq
      have here := not_mem_readLetters (small.2 word List.mem_cons_self).2 one
      have there := ih left
        ⟨more, fun other mem => small.2 other (List.mem_cons_of_mem _ mem)⟩ two
      have gap : '#' ∉ left.takeWhile isGap := fun mem => nomatch List.mem_takeWhile_imp mem
      simp [here, there, gap]

theorem not_mem_readEnding {text ending rest : List Char}
    (read : readEnding text = some (ending, rest)) : '#' ∉ ending := by
  have marks : ∀ text : List Char, '#' ∉ text.takeWhile isMark :=
    fun text mem => nomatch List.mem_takeWhile_imp mem
  unfold readEnding at read
  split at read
  · cases read
    simp [marks]
  · cases read

/-- A heading begins as a remark does if it is written with a number sign anywhere. -/
theorem isRemark_iff {line : List Char} {h : Heading} (found : heading? line = some h) :
    h.isRemark = h.text.contains '#' := by
  obtain ⟨-, wording, mem, left, words, ends⟩ := heading?_read found
  have none := not_mem_readWords (areWords_of_mem mem) words
  have last := not_mem_readEnding ends
  simp [Heading.isRemark, Heading.text, none, last]

end Draftsman.Reply
