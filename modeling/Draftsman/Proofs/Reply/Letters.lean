/-
The letters of a heading, and what it means.

A heading is found whatever the case of its letters is, and also if it has a long s in place
of an s; what counts is how its letters are folded (`folded`), and what it means is told by
the wording with which it is read (`meant?`).  Its label, though, is told from its words once
more, after they were put in small letters, and that leaves a long s as it is.  So a heading
has the label that is meant unless it means an answer and is written with a long s.  The words
of an observation may have a long s, too; but an observation is what every heading passes for
whose words are none of the others.
-/
import Draftsman.Proofs.Reply.Section
import Draftsman.Proofs.Text.Words

namespace Draftsman.Reply

open Draftsman.Text

/-! ### Letters that count as the same -/

/-- A character as it counts in a heading: every letter is small, and a long s is an s. -/
def folded (c : Char) : Char := if c = 'ſ' then 's' else c.toLower

theorem folded_of_short {c : Char} (short : c ≠ 'ſ') : folded c = c.toLower := if_neg short

/-- What counts as a small letter is what is folded to it. -/
theorem isLetter_iff {letter : Char} (small : letter.isLower = true) (c : Char) :
    isLetter letter c = true ↔ folded c = letter := by
  by_cases long : c = 'ſ'
  · subst long
    have other : ('ſ' == letter) = false := by
      rw [beq_eq_false_iff_ne]
      rintro rfl
      cases small
    show ('ſ' == letter || (letter == 's' && true)) = true ↔ 's' = letter
    rw [other, Bool.false_or, Bool.and_true, beq_iff_eq]
    exact eq_comm
  · simp [isLetter, folded_of_short long, long]

/-- A small letter is 32 places behind the capital. -/
theorem toLower_of_capital {c : Char} (capital : 'A'.val ≤ c.val ∧ c.val ≤ 'Z'.val) :
    c.toLower.val.toNat = c.val.toNat + 32 := by
  have letter : c.toLower = _ := dif_pos capital
  have range : c.val.toNat ≤ 90 := capital.2
  rw [letter]
  show (c.val.toNat + 32) % 2 ^ 32 = c.val.toNat + 32
  omega

theorem toLower_of_other {c : Char} (other : ¬ ('A'.val ≤ c.val ∧ c.val ≤ 'Z'.val)) :
    c.toLower = c := dif_neg other

theorem isLower_iff (c : Char) :
    c.isLower = true ↔ 97 ≤ c.val.toNat ∧ c.val.toNat ≤ 122 := by
  show (decide (97 ≤ c.val.toNat) && decide (c.val.toNat ≤ 122)) = true ↔ _
  rw [Bool.and_eq_true, decide_eq_true_eq, decide_eq_true_eq]

/-- Nothing but letters is folded to anything else than itself. -/
theorem folded_eq_or (c : Char) : folded c = c ∨ (folded c).isLower = true := by
  by_cases long : c = 'ſ'
  · rw [long]
    exact .inr rfl
  · rw [folded_of_short long]
    by_cases capital : 'A'.val ≤ c.val ∧ c.val ≤ 'Z'.val
    · have range : 65 ≤ c.val.toNat ∧ c.val.toNat ≤ 90 := capital
      rw [isLower_iff, toLower_of_capital capital]
      omega
    · exact .inl (toLower_of_other capital)

/-- A small letter is folded to itself. -/
theorem folded_of_isLower {c : Char} (small : c.isLower = true) : folded c = c := by
  have range := (isLower_iff c).mp small
  have short : c ≠ 'ſ' := by
    rintro rfl
    exact absurd range.2 (by decide)
  rw [folded_of_short short]
  refine toLower_of_other fun capital => ?_
  have upper : c.val.toNat ≤ 90 := capital.2
  omega

theorem folded_folded (c : Char) : folded (folded c) = folded c := by
  rcases folded_eq_or c with same | small
  · rw [same, same]
  · exact folded_of_isLower small

/-- What is true of no letter does not depend on the folding. -/
theorem apply_folded {p : Char → Bool}
    (none : ∀ {letter c : Char}, letter.isLower = true → isLetter letter c = true → p c = false)
    (c : Char) : p (folded c) = p c := by
  rcases folded_eq_or c with same | small
  · rw [same]
  · rw [none small ((isLetter_iff small c).mpr rfl),
      none small ((isLetter_iff small _).mpr (folded_folded c))]

/-- No letter stands before the words of a heading. -/
theorem isDecoration_of_isLetter {letter c : Char} (small : letter.isLower = true)
    (same : isLetter letter c = true) : isDecoration c = false := by
  rw [isLetter_iff small] at same
  subst same
  rw [Bool.eq_false_iff]
  intro mark
  simp only [isDecoration, isGap, Bool.or_eq_true, beq_iff_eq] at mark
  rcases mark with (((((rfl | rfl) | rfl) | rfl) | rfl) | rfl) | rfl <;> cases small

theorem isDecoration_of_isMark {c : Char} (mark : isMark c = true) : isDecoration c = true := by
  simp only [isMark, Bool.or_eq_true] at mark
  simp only [isDecoration, Bool.or_eq_true]
  tauto

theorem isDecoration_folded (c : Char) : isDecoration (folded c) = isDecoration c :=
  apply_folded isDecoration_of_isLetter c

theorem isMark_folded (c : Char) : isMark (folded c) = isMark c := by
  refine apply_folded (fun small same => ?_) c
  have plain := isDecoration_of_isLetter small same
  rw [Bool.eq_false_iff] at plain ⊢
  exact fun mark => plain (isDecoration_of_isMark mark)

theorem isGap_folded (c : Char) : isGap (folded c) = isGap c := by
  refine apply_folded (fun small same => ?_) c
  have plain := isDecoration_of_isLetter small same
  rw [Bool.eq_false_iff] at plain ⊢
  exact fun gap => plain (isDecoration_of_isGap gap).1

theorem isBlank_folded (c : Char) : isBlank (folded c) = isBlank c :=
  apply_folded (fun small same => (solid_of_isLetter small same).1) c

/-- Nothing is folded to a character other than a letter but that character itself. -/
theorem folded_eq_iff {mark : Char} (kept : folded mark = mark) (plain : mark.isLower = false)
    (c : Char) : folded c = mark ↔ c = mark := by
  constructor
  · rintro rfl
    rcases folded_eq_or c with same | small
    · exact same.symm
    · rw [plain] at small
      cases small
  · rintro rfl
    exact kept

/-! ### Headings whose letters are folded -/

theorem readLetters_map {letters : List Char} (small : ∀ letter ∈ letters, letter.isLower = true)
    (text : List Char) :
    readLetters letters (text.map folded)
      = (readLetters letters text).map fun (written, rest) =>
          (written.map folded, rest.map folded) := by
  induction letters generalizing text with
  | nil => rfl
  | cons letter letters ih =>
    cases text with
    | nil => rfl
    | cons c rest =>
      rw [List.forall_mem_cons] at small
      have same : isLetter letter (folded c) = isLetter letter c := by
        rw [Bool.eq_iff_iff, isLetter_iff small.1, isLetter_iff small.1, folded_folded]
      rw [List.map_cons, readLetters, readLetters, same, ih small.2]
      split
      · cases readLetters letters rest <;> rfl
      · rfl

theorem readWords_map {words : List String} (small : AreWords words) (text : List Char) :
    readWords words (text.map folded)
      = (readWords words text).map fun (written, rest) =>
          (written.map folded, rest.map folded) := by
  induction words, text using readWords.induct with
  | case1 text => rfl
  | case2 word text => exact readLetters_map (small.2 word List.mem_cons_self).2 text
  | case3 word words text more ih =>
    have first := readLetters_map (small.2 word List.mem_cons_self).2 text
    have others : AreWords words :=
      ⟨more, fun other mem => small.2 other (List.mem_cons_of_mem _ mem)⟩
    have gaps : isGap ∘ folded = isGap := funext isGap_folded
    rw [readWords.eq_3 _ _ _ more, readWords.eq_3 _ _ _ more, first]
    cases readLetters word.toList text with
    | none => rfl
    | some read =>
      obtain ⟨written, left⟩ := read
      simp only [Option.map_some, Option.bind_eq_bind, Option.bind_some, List.takeWhile_map,
        List.dropWhile_map, gaps, ih left others, List.isEmpty_map]
      split
      · rfl
      · cases readWords words (left.dropWhile isGap) <;> simp

theorem readEnding_map (text : List Char) :
    readEnding (text.map folded)
      = (readEnding text).map fun (ending, rest) => (ending.map folded, rest.map folded) := by
  have marks : isMark ∘ folded = isMark := funext isMark_folded
  have kept : folded ':' = ':' := rfl
  unfold readEnding
  rw [List.dropWhile_map, List.takeWhile_map, marks]
  cases text.dropWhile isMark with
  | nil => rfl
  | cons c rest =>
    by_cases colon : c = ':'
    · subst colon
      rw [List.map_cons, kept]
      simp only [Option.map_some, List.map_append, List.map_cons, kept, List.takeWhile_map,
        List.dropWhile_map, marks]
    · have other : folded c ≠ ':' := fun same => colon ((folded_eq_iff kept rfl c).mp same)
      simp [colon, other]

/-- A heading with all its letters folded. -/
def Heading.folded (h : Heading) : Heading where
  decoration := h.decoration.map Reply.folded
  wording := h.wording.map Reply.folded
  ending := h.ending.map Reply.folded
  rest := h.rest.map Reply.folded

/-- **What a heading is read as depends on its letters only as far as they are folded.** -/
theorem headingWith?_map {wording : List String} (small : AreWords wording) (line : List Char) :
    headingWith? (line.map folded) wording = (headingWith? line wording).map Heading.folded := by
  have marks : isDecoration ∘ folded = isDecoration := funext isDecoration_folded
  unfold headingWith?
  rw [List.dropWhile_map, List.takeWhile_map, marks, readWords_map small]
  cases readWords wording (line.dropWhile isDecoration) with
  | none => rfl
  | some read =>
    simp only [Option.map_some, Option.bind_eq_bind, Option.bind_some, readEnding_map]
    cases readEnding read.2 <;> rfl

/-- Two lines with the same letters have the same heading, but for the way it is written. -/
theorem heading?_of_folded {line other : List Char} (same : line.map folded = other.map folded) :
    (heading? line).map Heading.folded = (heading? other).map Heading.folded := by
  refine heading?_map_congr Heading.folded fun wording mem => ?_
  rw [← headingWith?_map (areWords_of_mem mem), ← headingWith?_map (areWords_of_mem mem), same]

/-- The letters of a heading may be replaced by others that count as the same. -/
theorem heading?_respelled {line : List Char} {h : Heading} (found : heading? line = some h)
    {wording : List Char} (same : wording.map folded = h.wording.map folded) :
    heading? (h.decoration ++ wording ++ h.ending ++ h.rest) = some { h with wording } := by
  have whole : h.decoration ++ h.wording ++ h.ending ++ h.rest = line := (heading?_append found).1
  have alike : (h.decoration ++ wording ++ h.ending ++ h.rest).map folded = line.map folded := by
    rw [← whole]
    simp only [List.map_append, same]
  have read := heading?_of_folded alike
  rw [found, Option.map_some, Option.map_eq_some_iff] at read
  obtain ⟨h', found', eq⟩ := read
  -- The parts of the two headings are equally long, so they are cut at the same places.
  have lengths : h'.decoration.length = h.decoration.length
      ∧ h'.wording.length = wording.length ∧ h'.ending.length = h.ending.length := by
    have decoration := congrArg (fun h => h.decoration.length) eq
    have written := congrArg (fun h => h.wording.length) eq
    have ending := congrArg (fun h => h.ending.length) eq
    have length := congrArg List.length same
    simp only [Heading.folded, List.length_map] at decoration written ending length
    exact ⟨decoration, written.trans length.symm, ending⟩
  have parts : h'.decoration ++ (h'.wording ++ (h'.ending ++ h'.rest))
      = h.decoration ++ (wording ++ (h.ending ++ h.rest)) := by
    simpa only [Heading.text, List.append_assoc] using (heading?_append found').1
  obtain ⟨decoration, parts⟩ := List.append_inj parts lengths.1
  obtain ⟨written, parts⟩ := List.append_inj parts lengths.2.1
  obtain ⟨ending, rest⟩ := List.append_inj parts lengths.2.2
  rw [found', ← decoration, ← written, ← ending, ← rest]

/-! ### What a heading means -/

/-- The words of the headings with a label, in small letters. -/
def Label.wording : Label → List String
  | .finalAnswer => ["final", "answer"]
  | .actionInput => ["action", "input"]
  | .action => ["action"]
  | .thought => ["thought"]
  | .observation => ["observation"]

/-- The labels in the order in which their wordings are tried. -/
def tried : List Label := [.finalAnswer, .actionInput, .action, .thought, .observation]

/-- The label of which a line has the wording: the first one with which a heading is read. -/
def meant? (line : List Char) : Option Label :=
  tried.find? fun label => (headingWith? line label.wording).isSome

theorem wordings_eq : wordings = tried.map Label.wording := rfl

theorem Label.areWords (label : Label) : AreWords label.wording := by
  cases label <;> exact areWords_of_mem (by decide)

/-- A heading is read with the wording of the label that is meant. -/
theorem exists_meant {line : List Char} {h : Heading} (found : heading? line = some h) :
    ∃ label, meant? line = some label ∧ headingWith? line label.wording = some h := by
  rw [heading?, wordings_eq, List.findSome?_map, List.findSome?_eq_some_iff] at found
  obtain ⟨before, label, after, split, read, none⟩ := found
  refine ⟨label, ?_, read⟩
  rw [meant?, List.find?_eq_some_iff_append]
  refine ⟨Option.isSome_of_eq_some read, before, after, split, fun other mem => ?_⟩
  simpa using none other mem

theorem readLetters_folded {letters text written rest : List Char}
    (small : ∀ letter ∈ letters, letter.isLower = true)
    (read : readLetters letters text = some (written, rest)) : written.map folded = letters := by
  induction letters, text using readLetters.induct generalizing written rest with
  | case1 text =>
    cases read
    rfl
  | case2 letter letters => cases read
  | case3 letter letters c text same ih =>
    rw [List.forall_mem_cons] at small
    rw [readLetters, if_pos same, Option.map_eq_some_iff] at read
    obtain ⟨⟨more, left⟩, read, eq⟩ := read
    cases eq
    rw [List.map_cons, ih small.2 read, (isLetter_iff small.1 c).mp same]
  | case4 letter letters c text other =>
    rw [readLetters, if_neg other] at read
    cases read

theorem isBlank_of_isGap {c : Char} (gap : isGap c = true) : isBlank c = true := by
  simp only [isGap, Bool.or_eq_true, beq_iff_eq] at gap
  rcases gap with rfl | rfl <;> rfl

/-- The words that are read are the ones that were looked for, whatever stands between them. -/
theorem words_of_readWords {words : List String} {text written rest : List Char}
    (small : AreWords words) (read : readWords words text = some (written, rest)) :
    Text.words (written.map folded) = words.map String.toList := by
  have word : ∀ word ∈ words, Text.words word.toList = [word.toList] := by
    intro word mem
    refine words_of_seen (small.2 word mem).1 fun c inside => ?_
    have letter := (small.2 word mem).2 c inside
    exact (solid_of_isLetter letter ((isLetter_iff letter c).mpr (folded_of_isLower letter))).1
  induction words, text using readWords.induct generalizing written rest with
  | case1 text => exact absurd rfl small.1
  | case2 one text =>
    rw [readLetters_folded (small.2 one List.mem_cons_self).2 read]
    exact word one List.mem_cons_self
  | case3 one words text more ih =>
    have others : AreWords words :=
      ⟨more, fun other mem => small.2 other (List.mem_cons_of_mem _ mem)⟩
    rw [readWords.eq_3 _ _ _ more, Option.bind_eq_bind, Option.bind_eq_some_iff] at read
    obtain ⟨⟨first, left⟩, here, read⟩ := read
    dsimp only at read
    split at read
    · cases read
    · rename_i gap
      rw [Option.bind_eq_some_iff] at read
      obtain ⟨⟨below, after⟩, there, eq⟩ := read
      cases eq
      have blanks : Blank ((left.takeWhile isGap).map folded) := by
        intro c mem
        obtain ⟨d, among, rfl⟩ := List.mem_map.mp mem
        rw [isBlank_folded]
        exact isBlank_of_isGap (List.mem_takeWhile_imp among)
      have behind := ih left others there fun other mem => word other (List.mem_cons_of_mem _ mem)
      cases gaps : left.takeWhile isGap with
      | nil =>
        rw [gaps] at gap
        exact absurd rfl gap
      | cons c more =>
        rw [gaps, List.map_cons, Blank, List.forall_mem_cons] at blanks
        rw [List.map_append, List.map_append, List.map_cons, List.append_assoc, List.cons_append,
          words_append_cons blanks.1, words_append_of_blank blanks.2, behind,
          readLetters_folded (small.2 one List.mem_cons_self).2 here,
          word one List.mem_cons_self]
        rfl

/-- The words of a heading, with their letters folded, are the ones with which it is read. -/
theorem words_of_headingWith? {line : List Char} {h : Heading} {label : Label}
    (read : headingWith? line label.wording = some h) :
    Text.words (h.wording.map folded) = label.wording.map String.toList := by
  rw [headingWith?, Option.bind_eq_bind, Option.bind_eq_some_iff] at read
  obtain ⟨⟨written, left⟩, words, read⟩ := read
  dsimp only at read
  rw [Option.bind_eq_some_iff] at read
  obtain ⟨ending, -, eq⟩ := read
  cases eq
  exact words_of_readWords label.areWords words

/-- Only an answer and an observation are written with an s, and so with a long one. -/
theorem meant_of_long {line : List Char} {h : Heading} {label : Label}
    (read : headingWith? line label.wording = some h) (long : 'ſ' ∈ h.wording) :
    label = .finalAnswer ∨ label = .observation := by
  have inside : 's' ∈ (h.wording.map folded).filter fun c => !isBlank c :=
    List.mem_filter.mpr ⟨List.mem_map.mpr ⟨'ſ', long, rfl⟩, rfl⟩
  rw [← words_flatten, words_of_headingWith? read] at inside
  cases label with
  | finalAnswer => exact .inl rfl
  | observation => exact .inr rfl
  | thought => exact absurd inside (by decide)
  | action => exact absurd inside (by decide)
  | actionInput => exact absurd inside (by decide)

theorem label_of_short {line : List Char} {h : Heading} {label : Label}
    (read : headingWith? line label.wording = some h) (short : 'ſ' ∉ h.wording) :
    h.label = label := by
  have same : h.wording.map Char.toLower = h.wording.map folded :=
    List.map_congr_left fun c mem => (folded_of_short fun long => short (long ▸ mem)).symm
  have back : String.ofList ∘ String.toList = id := funext fun _ => String.ofList_toList
  rw [Heading.label, same, words_of_headingWith? read, List.map_map, back, List.map_id]
  cases label <;> rfl

/-- A long s is in no wording, and every other heading passes for an observation. -/
theorem label_of_long {h : Heading} (long : 'ſ' ∈ h.wording) : h.label = .observation := by
  have inside : 'ſ' ∈ (Text.words (h.wording.map Char.toLower)).flatten := by
    rw [words_flatten]
    exact List.mem_filter.mpr ⟨List.mem_map.mpr ⟨'ſ', long, rfl⟩, rfl⟩
  have other : ∀ words : List String, 'ſ' ∉ (words.map String.toList).flatten →
      (Text.words (h.wording.map Char.toLower)).map String.ofList ≠ words := by
    have back : String.toList ∘ String.ofList = id := funext fun _ => String.toList_ofList
    rintro words none rfl
    rw [List.map_map, back, List.map_id] at none
    exact none inside
  rw [Heading.label, Label.ofWords, if_neg (other _ (by decide)), if_neg (other _ (by decide)),
    if_neg (other _ (by decide)), if_neg (other _ (by decide))]

/-- **A heading has the label that is meant, unless it is that of an answer with a long s.** -/
theorem label_eq {line : List Char} {h : Heading} {label : Label}
    (read : headingWith? line label.wording = some h) :
    h.label = if label = .finalAnswer ∧ 'ſ' ∈ h.wording then .observation else label := by
  by_cases long : 'ſ' ∈ h.wording
  · rw [label_of_long long]
    rcases meant_of_long read long with rfl | rfl
    · rw [if_pos ⟨rfl, long⟩]
    · rw [if_neg (by simp)]
  · rw [label_of_short read long, if_neg fun both => long both.2]

/-! ### Headings with the same letters -/

/-- What a heading means does not depend on what stands behind its colon. -/
theorem meant?_append_colon (before behind other : List Char) :
    meant? (before ++ ':' :: behind) = meant? (before ++ ':' :: other) := by
  unfold meant?
  congr 1
  funext label
  rw [headingWith?_append_colon label.areWords, headingWith?_append_colon label.areWords]
  cases readWords label.wording (before.dropWhile isDecoration) with
  | none => rfl
  | some read =>
    simp only [Option.bind_some, Option.isSome_map]
    exact readEnding_append_colon read.2 behind other

/-- A heading means the same without the rest of its line. -/
theorem meant?_text {line : List Char} {h : Heading} (found : heading? line = some h) :
    meant? h.text = meant? line := by
  obtain ⟨whole, colon⟩ := heading?_append found
  obtain ⟨before, behind, split⟩ := List.append_of_mem colon
  rw [← whole, split, List.append_assoc, List.cons_append]
  exact meant?_append_colon before behind (behind ++ h.rest)

theorem meant?_of_folded {line other : List Char} (same : line.map folded = other.map folded) :
    meant? line = meant? other := by
  unfold meant?
  congr 1
  funext label
  have read := congrArg Option.isSome (headingWith?_map label.areWords line)
  rw [same, headingWith?_map label.areWords, Option.isSome_map, Option.isSome_map] at read
  exact read.symm

/--
Headings with the same letters mean the same; they have the same label, too, unless it is an
answer that they mean.
-/
theorem label_of_folded {line other : List Char} (same : line.map folded = other.map folded)
    {h h' : Heading} (found : heading? line = some h) (found' : heading? other = some h') :
    (meant? line ≠ some .finalAnswer → h'.label = h.label) ∧
    (h'.label = .actionInput ↔ h.label = .actionInput) := by
  obtain ⟨label, meant, read⟩ := exists_meant found
  obtain ⟨label', meant', read'⟩ := exists_meant found'
  rw [meant?_of_folded same, meant', Option.some.injEq] at meant
  subst meant
  rw [meant?_of_folded same, meant', label_eq read, label_eq read']
  by_cases answer : label' = .finalAnswer
  · subst answer
    refine ⟨fun other => absurd rfl other, ?_⟩
    split <;> split <;> simp
  · simp [answer]

end Draftsman.Reply
