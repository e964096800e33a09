/-
What a line with a heading looks like.

A line has a heading exactly if it begins with decoration, the words of a label, marks and a
colon, where each of these but the words and the colon may be missing; what stands behind the
colon does not matter.  The words are in any case and have gaps between them (`Spelled`).

Such a line can be taken apart in one way only.  Its decoration ends where the first letter
stands; and which words are meant is told by the letters before its first colon, since no two
wordings have the same letters.
-/
import Draftsman.Proofs.Reply.Letters

namespace Draftsman.Reply

open Draftsman.Text

/-! ### Spelled words -/

/-- Words as a heading may have them: in any case, and with gaps between them. -/
inductive Spelled : List String → List Char → Prop
  | last {word : String} {written : List Char} (same : written.map folded = word.toList) :
    Spelled [word] written
  | more {word : String} {words : List String} {written gap others : List Char}
    (same : written.map folded = word.toList) (some : gap ≠ [])
    (gaps : ∀ c ∈ gap, isGap c = true) (behind : Spelled words others) :
    Spelled (word :: words) (written ++ gap ++ others)

theorem Spelled.words_ne_nil {words : List String} {written : List Char}
    (spelled : Spelled words written) : words ≠ [] := by
  cases spelled <;> exact List.cons_ne_nil _ _

theorem AreWords.tail {word : String} {words : List String} (small : AreWords (word :: words))
    (some : words ≠ []) : AreWords words :=
  ⟨some, fun other mem => small.2 other (List.mem_cons_of_mem _ mem)⟩

/-- What counts as a small letter is none of the marks of a heading. -/
theorem not_isDecoration_of_folded {c : Char} (small : (folded c).isLower = true) :
    isDecoration c = false :=
  isDecoration_of_isLetter small ((isLetter_iff small c).mpr rfl)

theorem isLower_of_mem {word : String} {written : List Char}
    (small : ∀ letter ∈ word.toList, letter.isLower = true)
    (same : written.map folded = word.toList) {c : Char} (mem : c ∈ written) :
    (folded c).isLower = true :=
  small _ (same ▸ List.mem_map_of_mem mem)

/-- Spelled words begin with a letter. -/
theorem Spelled.first {words : List String} {written : List Char} (small : AreWords words)
    (spelled : Spelled words written) :
    ∃ c rest, written = c :: rest ∧ isDecoration c = false := by
  have start : ∀ {word : String} {written : List Char}, word ∈ words →
      written.map folded = word.toList →
      ∃ c rest, written = c :: rest ∧ isDecoration c = false := by
    intro word written mem same
    obtain ⟨some, letters⟩ := small.2 word mem
    cases written with
    | nil => exact absurd same.symm some
    | cons c rest =>
      exact ⟨c, rest, rfl,
        not_isDecoration_of_folded (isLower_of_mem letters same List.mem_cons_self)⟩
  cases spelled with
  | last same => exact start List.mem_cons_self same
  | more same some gaps behind =>
    obtain ⟨c, rest, rfl, other⟩ := start List.mem_cons_self same
    exact ⟨c, _, rfl, other⟩

/-- Spelled words are letters and gaps. -/
theorem Spelled.mem {words : List String} {written : List Char} (small : AreWords words)
    (spelled : Spelled words written) {c : Char} (mem : c ∈ written) :
    (folded c).isLower = true ∨ isGap c = true := by
  induction spelled with
  | last same => exact .inl (isLower_of_mem (small.2 _ List.mem_cons_self).2 same mem)
  | more same some gaps behind ih =>
    rw [List.mem_append, List.mem_append] at mem
    rcases mem with (here | between) | later
    · exact .inl (isLower_of_mem (small.2 _ List.mem_cons_self).2 same here)
    · exact .inr (gaps c between)
    · exact ih (small.tail behind.words_ne_nil) later

/-! ### Spelled words are the ones that are read -/

theorem readLetters_of_folded {letters written : List Char}
    (small : ∀ letter ∈ letters, letter.isLower = true) (same : written.map folded = letters)
    (rest : List Char) : readLetters letters (written ++ rest) = some (written, rest) := by
  induction written generalizing letters with
  | nil =>
    subst same
    rfl
  | cons c written ih =>
    subst same
    rw [List.map_cons, List.forall_mem_cons] at small
    have letter : isLetter (folded c) c = true := (isLetter_iff small.1 c).mpr rfl
    rw [List.map_cons, List.cons_append, readLetters, if_pos letter, ih small.2 rfl]
    rfl

theorem takeWhile_gap {gap : List Char} (gaps : ∀ c ∈ gap, isGap c = true) {c : Char}
    (other : isGap c = false) (rest : List Char) :
    (gap ++ c :: rest).takeWhile isGap = gap ∧ (gap ++ c :: rest).dropWhile isGap = c :: rest := by
  have stops : ¬ isGap c = true := by simp [other]
  rw [List.takeWhile_append_of_pos gaps, List.dropWhile_append_of_pos gaps,
    List.takeWhile_cons_of_neg stops, List.dropWhile_cons_of_neg stops, List.append_nil]
  exact ⟨rfl, rfl⟩

theorem not_isGap_of_not_isDecoration {c : Char} (other : isDecoration c = false) :
    isGap c = false := by
  rw [Bool.eq_false_iff]
  intro gap
  rw [(isDecoration_of_isGap gap).1] at other
  cases other

theorem readWords_of_spelled {words : List String} {written : List Char} (small : AreWords words)
    (spelled : Spelled words written) (rest : List Char) :
    readWords words (written ++ rest) = some (written, rest) := by
  induction spelled with
  | last same => exact readLetters_of_folded (small.2 _ List.mem_cons_self).2 same rest
  | @more word words written gap others same some gaps behind ih =>
    have below := small.tail behind.words_ne_nil
    obtain ⟨c, more, rfl, other⟩ := behind.first below
    obtain ⟨taken, left⟩ :=
      takeWhile_gap gaps (not_isGap_of_not_isDecoration other) (more ++ rest)
    rw [List.cons_append] at ih
    rw [readWords.eq_3 _ _ _ behind.words_ne_nil, List.append_assoc, List.append_assoc,
      readLetters_of_folded (small.2 _ List.mem_cons_self).2 same]
    simp only [Option.bind_eq_bind, Option.bind_some, List.cons_append, taken, left, ih below]
    simp [some]

theorem spelled_of_readWords {words : List String} {text written rest : List Char}
    (small : AreWords words) (read : readWords words text = some (written, rest)) :
    Spelled words written := by
  induction words, text using readWords.induct generalizing written rest with
  | case1 text => exact absurd rfl small.1
  | case2 word text => exact .last (readLetters_folded (small.2 word List.mem_cons_self).2 read)
  | case3 word words text more ih =>
    rw [readWords.eq_3 _ _ _ more, Option.bind_eq_bind, Option.bind_eq_some_iff] at read
    obtain ⟨⟨first, left⟩, here, read⟩ := read
    dsimp only at read
    split at read
    · cases read
    · rename_i gap
      rw [Option.bind_eq_some_iff] at read
      obtain ⟨⟨others, after⟩, there, eq⟩ := read
      cases eq
      refine .more (readLetters_folded (small.2 word List.mem_cons_self).2 here) ?_
        (fun c mem => List.mem_takeWhile_imp mem) (ih left (small.tail more) there)
      rwa [Bool.not_eq_true, List.isEmpty_eq_false_iff] at gap

/-! ### The parts of a line -/

/-- A line with a heading, taken apart. -/
structure Parts where
  decoration : List Char
  wording : List Char
  /-- The marks before the colon. -/
  marks : List Char
  /-- What stands behind the colon. -/
  behind : List Char

/-- The line that is made of parts. -/
def Parts.line (p : Parts) : List Char := p.decoration ++ p.wording ++ p.marks ++ ':' :: p.behind

/-- The heading of the line; the marks behind its colon belong to it. -/
def Parts.heading (p : Parts) : Heading where
  decoration := p.decoration
  wording := p.wording
  ending := p.marks ++ ':' :: p.behind.takeWhile isMark
  rest := p.behind.dropWhile isMark

/-- Parts that make a line with a heading, which has given words. -/
structure Parts.Fit (p : Parts) (words : List String) : Prop where
  decoration : ∀ c ∈ p.decoration, isDecoration c = true
  known : words ∈ wordings
  wording : Spelled words p.wording
  marks : ∀ c ∈ p.marks, isMark c = true

/-- What stands behind the decoration. -/
theorem Parts.Fit.dropWhile_line {p : Parts} {words : List String} (fit : p.Fit words) :
    p.line.takeWhile isDecoration = p.decoration ∧
    p.line.dropWhile isDecoration = p.wording ++ (p.marks ++ ':' :: p.behind) := by
  obtain ⟨c, rest, first, other⟩ := fit.wording.first (areWords_of_mem fit.known)
  have stops : ¬ isDecoration c = true := by simp [other]
  rw [line, List.append_assoc, List.append_assoc, first,
    List.takeWhile_append_of_pos fit.decoration, List.dropWhile_append_of_pos fit.decoration,
    List.cons_append, List.takeWhile_cons_of_neg stops, List.dropWhile_cons_of_neg stops,
    List.append_nil]
  exact ⟨rfl, rfl⟩

theorem readEnding_of_marks {marks : List Char} (are_marks : ∀ c ∈ marks, isMark c = true)
    (behind : List Char) :
    readEnding (marks ++ ':' :: behind)
      = some (marks ++ ':' :: behind.takeWhile isMark, behind.dropWhile isMark) := by
  have stops : ¬ isMark ':' = true := by decide
  rw [readEnding, List.takeWhile_append_of_pos are_marks, List.dropWhile_append_of_pos are_marks,
    List.takeWhile_cons_of_neg stops, List.dropWhile_cons_of_neg stops, List.append_nil]
  rfl

/-- The heading is read with its words. -/
theorem Parts.Fit.headingWith? {p : Parts} {words : List String} (fit : p.Fit words) :
    headingWith? p.line words = some p.heading := by
  obtain ⟨taken, left⟩ := fit.dropWhile_line
  rw [Reply.headingWith?, taken, left, readWords_of_spelled (areWords_of_mem fit.known) fit.wording]
  simp only [Option.bind_eq_bind, Option.bind_some, readEnding_of_marks fit.marks]
  rfl

/-- A line of which a heading is read is made of parts that fit. -/
theorem exists_parts {line : List Char} {h : Heading} {words : List String}
    (known : words ∈ wordings) (read : headingWith? line words = some h) :
    ∃ p : Parts, p.Fit words ∧ p.line = line ∧ p.heading = h := by
  rw [headingWith?, Option.bind_eq_bind, Option.bind_eq_some_iff] at read
  obtain ⟨⟨written, left⟩, here, read⟩ := read
  dsimp only at read
  rw [Option.bind_eq_some_iff] at read
  obtain ⟨⟨ending, rest⟩, ends, eq⟩ := read
  cases eq
  have colon : ∃ behind, left.dropWhile isMark = ':' :: behind ∧
      ending = left.takeWhile isMark ++ ':' :: behind.takeWhile isMark ∧
      rest = behind.dropWhile isMark := by
    unfold readEnding at ends
    split at ends
    · rename_i behind colon
      cases ends
      exact ⟨behind, colon, rfl, rfl⟩
    · cases ends
  obtain ⟨behind, colon, rfl, rfl⟩ := colon
  refine ⟨⟨line.takeWhile isDecoration, written, left.takeWhile isMark, behind⟩,
    ⟨fun c mem => List.mem_takeWhile_imp mem, known,
      spelled_of_readWords (areWords_of_mem known) here, fun c mem => List.mem_takeWhile_imp mem⟩,
    ?_, rfl⟩
  rw [Parts.line, ← colon, List.append_assoc, List.takeWhile_append_dropWhile, List.append_assoc,
    readWords_append here, List.takeWhile_append_dropWhile]

/-! ### Which words are meant -/

/-- The letters before the first colon of a line. -/
def lettersBefore (line : List Char) : List Char :=
  (((line.dropWhile isDecoration).takeWhile (· ≠ ':')).filter (!isMark ·)).map folded

theorem Spelled.letters {words : List String} {written : List Char} (small : AreWords words)
    (spelled : Spelled words written) :
    (written.filter (!isMark ·)).map folded = words.flatMap String.toList := by
  have letters : ∀ {word : String} {written : List Char},
      (∀ letter ∈ word.toList, letter.isLower = true) → written.map folded = word.toList →
      (written.filter (!isMark ·)).map folded = word.toList := by
    intro word written small same
    rw [List.filter_eq_self.mpr, same]
    intro c mem
    have other := not_isDecoration_of_folded (isLower_of_mem small same mem)
    rw [Bool.not_eq_true', Bool.eq_false_iff]
    intro mark
    rw [isDecoration_of_isMark mark] at other
    cases other
  induction spelled with
  | last same =>
    rw [List.flatMap_singleton]
    exact letters (small.2 _ List.mem_cons_self).2 same
  | @more word words written gap others same some gaps behind ih =>
    have none : gap.filter (!isMark ·) = [] := by
      rw [List.filter_eq_nil_iff]
      intro c mem
      simp [isMark, gaps c mem]
    rw [List.filter_append, List.filter_append, none, List.append_nil, List.map_append,
      List.flatMap_cons, letters (small.2 _ List.mem_cons_self).2 same,
      ih (small.tail behind.words_ne_nil)]

theorem Parts.Fit.lettersBefore {p : Parts} {words : List String} (fit : p.Fit words) :
    lettersBefore p.line = words.flatMap String.toList := by
  have small := areWords_of_mem fit.known
  have plain : ∀ c ∈ p.wording ++ p.marks, decide (c ≠ ':') = true := by
    intro c mem
    rw [decide_eq_true_eq]
    rintro rfl
    rw [List.mem_append] at mem
    rcases mem with inside | mark
    · rcases fit.wording.mem small inside with letter | gap
      · cases letter
      · cases gap
    · cases fit.marks _ mark
  have none : p.marks.filter (!isMark ·) = [] := by
    rw [List.filter_eq_nil_iff]
    intro c mem
    simp [fit.marks c mem]
  have before : (p.wording ++ p.marks ++ ':' :: p.behind).takeWhile (· ≠ ':')
      = p.wording ++ p.marks := by
    rw [List.takeWhile_append_of_pos plain]
    simp
  rw [Reply.lettersBefore, fit.dropWhile_line.2, ← List.append_assoc, before, List.filter_append,
    none, List.append_nil, fit.wording.letters small]

/-- No two wordings have the same letters. -/
theorem wording_unique {words others : List String} (known : words ∈ wordings)
    (known' : others ∈ wordings)
    (same : words.flatMap String.toList = others.flatMap String.toList) : words = others := by
  have all : ∀ words ∈ wordings, ∀ others ∈ wordings,
      words.flatMap String.toList = others.flatMap String.toList → words = others := by decide
  exact all words known others known' same

/-- **The heading of a line that is made of parts.** -/
theorem Parts.Fit.heading? {p : Parts} {words : List String} (fit : p.Fit words) :
    heading? p.line = some p.heading := by
  have read := fit.headingWith?
  cases found : Reply.heading? p.line with
  | none =>
    rw [Reply.heading?, List.findSome?_eq_none_iff] at found
    rw [found words fit.known] at read
    cases read
  | some h =>
    obtain ⟨others, known, read'⟩ := List.exists_of_findSome?_eq_some found
    -- Whatever words are read first, they have the letters before the same colon.
    obtain ⟨p', fit', whole, -⟩ := exists_parts known read'
    have same := fit'.lettersBefore
    rw [whole, fit.lettersBefore] at same
    rw [← wording_unique fit.known known same, read] at read'
    exact read'.symm

/-- **A line has a heading exactly if it is made of parts that fit.** -/
theorem heading?_eq_some_iff {line : List Char} {h : Heading} :
    heading? line = some h ↔ ∃ p words, Parts.Fit p words ∧ p.line = line ∧ p.heading = h := by
  constructor
  · intro found
    obtain ⟨words, known, read⟩ := List.exists_of_findSome?_eq_some found
    obtain ⟨p, fit, whole, same⟩ := exists_parts known read
    exact ⟨p, words, fit, whole, same⟩
  · rintro ⟨p, words, fit, rfl, rfl⟩
    exact fit.heading?

end Draftsman.Reply
