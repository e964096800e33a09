/-
Headings found by searching the whole reply.

A reply can be searched for its headings as for any pattern, over all its lines at once.  No
part of the pattern of a heading matches a line feed, and the pattern begins at the beginning
of a line; so what is found in a reply is what its lines have, read one by one.  A line is
matched in the way that is read: the marks before the words are all taken, since no word
begins with one of them, and the same holds of the gap between two words and of the marks
before the colon.

The places that are found cut the reply into its outline.
-/
import Draftsman.Proofs.Reply.Contents
import Draftsman.Proofs.Reply.Letters
import Draftsman.Proofs.Text.Pattern

namespace Draftsman.Reply

open Draftsman.Text

/-! ### The pattern of a heading -/

/-- Whether a character is a small letter, in either case, as Unicode folds single characters. -/
def alike (letter c : Char) : Bool :=
  c == letter || c == letter.toUpper || (letter == 's' && c == 'ſ') ||
    (letter == 'k' && c == '\u212a')

/-- One of some characters. -/
def anyOf (chars : String) : Pattern := .one chars.toList.contains

/-- Letters one behind the other, in either case. -/
def lettersPattern (letters : List Char) : Pattern :=
  letters.foldr (fun letter rest => .seq (.one (alike letter)) rest) .empty

/-- Words with blanks or tabs between them. -/
def wordsPattern : List String → Pattern
  | [] => .empty
  | [word] => lettersPattern word.toList
  | word :: words =>
    .seq (lettersPattern word.toList) <|
      .seq (anyOf " \t") (.seq (.many (anyOf " \t")) (wordsPattern words))

/-- The words of a heading. -/
def titlePattern : Pattern :=
  .either (wordsPattern ["final", "answer"]) <|
    .either (wordsPattern ["action", "input"]) <|
      .either (wordsPattern ["action"]) <|
        .either (wordsPattern ["thought"]) (wordsPattern ["observation"])

/-- The colon of a heading, and the marks around it. -/
def endingPattern : Pattern :=
  .seq (.many (anyOf " \t*_")) (.seq (anyOf ":") (.many (anyOf " \t*_")))

/-- A heading; its decoration is kept under 1, and its words under 2. -/
def headingPattern : Pattern :=
  .seq .lineStart <|
    .seq (.group 1 (.many (anyOf " \t>*_#-"))) (.seq (.group 2 titlePattern) endingPattern)

/-! ### Letters in either case -/

theorem toUpper_of_small {c : Char} (small : c.isLower = true) :
    c.toUpper.val.toNat + 32 = c.val.toNat := by
  have range := (isLower_iff c).mp small
  have inside : 'a'.val ≤ c.val ∧ c.val ≤ 'z'.val := range
  have letter : c.toUpper = _ := dif_pos inside
  have down : ('A'.val - 'a'.val).toNat = 4294967264 := rfl
  have value : c.toUpper.val.toNat = (c.val.toNat + ('A'.val - 'a'.val).toNat) % 2 ^ 32 := by
    rw [letter]
    exact UInt32.toNat_add _ _
  rw [value, down]
  omega

/-- A small letter and its capital are all that has the letter as its small form. -/
theorem toLower_eq_iff {letter : Char} (small : letter.isLower = true) (c : Char) :
    c.toLower = letter ↔ c = letter ∨ c = letter.toUpper := by
  have range := (isLower_iff letter).mp small
  have upper := toUpper_of_small small
  have same : ∀ a b : Char, a.val.toNat = b.val.toNat → a = b :=
    fun a b h => Char.ext (UInt32.toNat_inj.mp h)
  have capital : ∀ c : Char, ('A'.val ≤ c.val ∧ c.val ≤ 'Z'.val) ↔
      65 ≤ c.val.toNat ∧ c.val.toNat ≤ 90 := fun _ => Iff.rfl
  constructor
  · rintro rfl
    by_cases large : 'A'.val ≤ c.val ∧ c.val ≤ 'Z'.val
    · have lower := toLower_of_capital large
      exact .inr (same _ _ (by omega))
    · exact .inl (toLower_of_other large).symm
  · rintro (rfl | rfl)
    · exact toLower_of_other (by rw [capital]; omega)
    · have lower := toLower_of_capital ((capital letter.toUpper).mpr (by omega))
      exact same _ _ (by omega)

theorem alike_eq {letter : Char} (small : letter.isLower = true) (other : letter ≠ 'k')
    (c : Char) : alike letter c = isLetter letter c := by
  rw [Bool.eq_iff_iff]
  simp [alike, isLetter, toLower_eq_iff small, other]

/-! ### The parts of the pattern -/

theorem anyOf_decoration : anyOf " \t>*_#-" = .one isDecoration := by
  refine congrArg Pattern.one (funext fun c => Bool.eq_iff_iff.mpr ?_)
  simp [isDecoration, isGap, or_assoc]

theorem anyOf_mark : anyOf " \t*_" = .one isMark := by
  refine congrArg Pattern.one (funext fun c => Bool.eq_iff_iff.mpr ?_)
  simp [isMark, isGap, or_assoc]

theorem anyOf_gap : anyOf " \t" = .one isGap := by
  refine congrArg Pattern.one (funext fun c => Bool.eq_iff_iff.mpr ?_)
  simp [isGap]

/-- What is read, as a way to match it. -/
def fitOf (read : List Char × List Char) : Fit := ⟨read.1, [], read.2⟩

/-- No word is written with a `k`, which has a form that counts as no letter of a heading. -/
def Foldable (words : List String) : Prop := ∀ word ∈ words, 'k' ∉ word.toList

theorem ways_letters {letters : List Char} (small : ∀ letter ∈ letters, letter.isLower = true)
    (foldable : 'k' ∉ letters) (atStart : Bool) (text : List Char) :
    (lettersPattern letters).ways atStart text = (readLetters letters text).toList.map fitOf := by
  induction letters generalizing atStart text with
  | nil => rfl
  | cons letter letters ih =>
    rw [List.forall_mem_cons] at small
    rw [List.mem_cons, not_or] at foldable
    cases text with
    | nil => rfl
    | cons c rest =>
      have more := ih small.2 foldable.2
      change (Pattern.seq (.one (alike letter)) (lettersPattern letters)).ways atStart (c :: rest)
        = _
      rw [Pattern.ways, Pattern.ways, alike_eq small.1 (Ne.symm foldable.1), readLetters]
      split
      · rw [List.flatMap_singleton, Fit.andThen, more]
        cases readLetters letters rest <;> rfl
      · rfl

/-- What matches words as they are read begins with a letter. -/
theorem avoids_words {words : List String} (small : AreWords words) {p : Char → Bool}
    (other : ∀ c, p c = true → NoLetter c)
    (ways : ∀ atStart text,
      (wordsPattern words).ways atStart text = (readWords words text).toList.map fitOf) :
    (wordsPattern words).Avoids p := by
  intro atStart c text inside
  rw [ways, readWords_cons_of_noLetter (other c inside) small]
  rfl

theorem noLetter_of_isDecoration {c : Char} (mark : isDecoration c = true) : NoLetter c := by
  intro letter small
  rw [Bool.eq_false_iff]
  intro same
  rw [isDecoration_of_isLetter small same] at mark
  cases mark

theorem noLetter_of_isGap {c : Char} (gap : isGap c = true) : NoLetter c :=
  noLetter_of_isDecoration (isDecoration_of_isGap gap).1

/-- **Words are matched in the one way in which they are read.** -/
theorem ways_words {words : List String} (small : AreWords words) (foldable : Foldable words)
    (atStart : Bool) (text : List Char) :
    (wordsPattern words).ways atStart text = (readWords words text).toList.map fitOf := by
  induction words generalizing atStart text with
  | nil => exact absurd rfl small.1
  | cons word words ih =>
    have first := ways_letters (small.2 word List.mem_cons_self).2
      (foldable word List.mem_cons_self) atStart text
    cases words with
    | nil => exact first
    | cons next words =>
      have others : AreWords (next :: words) :=
        ⟨List.cons_ne_nil _ _, fun other mem => small.2 other (List.mem_cons_of_mem _ mem)⟩
      have behind := ih others fun other mem => foldable other (List.mem_cons_of_mem _ mem)
      have avoids : (wordsPattern (next :: words)).Avoids isGap :=
        avoids_words others (fun _ => noLetter_of_isGap) behind
      rw [wordsPattern.eq_3 _ _ (List.cons_ne_nil _ _), anyOf_gap, Pattern.ways, first,
        readWords.eq_3 _ _ _ (List.cons_ne_nil _ _)]
      cases readLetters word.toList text with
      | none => rfl
      | some read =>
        obtain ⟨written, left⟩ := read
        simp only [Option.toList_some, List.map_cons, List.map_nil, List.flatMap_singleton,
          Option.bind_eq_bind, Option.bind_some]
        cases left with
        | nil => rfl
        | cons c rest =>
          by_cases gap : isGap c = true
          · simp only [Fit.andThen, fitOf, ways_one_seq gap, ways_many_seq avoids, wholeRun, behind]
            rw [List.takeWhile_cons_of_pos gap, List.dropWhile_cons_of_pos gap]
            cases readWords (next :: words) (rest.dropWhile isGap) <;> simp [Fit.behind, fitOf]
          · simp [Fit.andThen, Pattern.ways, fitOf, gap]

theorem foldable_of_mem {wording : List String} (mem : wording ∈ wordings) : Foldable wording := by
  have all : wordings.all (fun wording => wording.all fun word => !word.toList.contains 'k')
      = true := rfl
  have here := List.all_eq_true.mp all wording mem
  simpa [Foldable] using here

theorem ways_title (atStart : Bool) (text : List Char) :
    titlePattern.ways atStart text
      = wordings.flatMap fun wording => (readWords wording text).toList.map fitOf := by
  have ways : ∀ wording ∈ wordings, (wordsPattern wording).ways atStart text
      = (readWords wording text).toList.map fitOf :=
    fun wording mem => ways_words (areWords_of_mem mem) (foldable_of_mem mem) atStart text
  rw [← List.flatMap_congr ways]
  simp [titlePattern, Pattern.ways, wordings]

theorem avoids_title : titlePattern.Avoids isDecoration := by
  intro atStart c text mark
  rw [ways_title, List.flatMap_eq_nil_iff]
  intro wording mem
  rw [readWords_cons_of_noLetter (noLetter_of_isDecoration mark) (areWords_of_mem mem)]
  rfl

/-- The ending of a heading is preferred as it is read. -/
theorem head?_ways_ending (atStart : Bool) (text : List Char) :
    (endingPattern.ways atStart text).head? = (readEnding text).map fitOf := by
  have colon : ∀ c, isMark c = true → ":".toList.contains c = false := by
    intro c mark
    simp only [isMark, isGap, Bool.or_eq_true, beq_iff_eq] at mark
    rcases mark with ((rfl | rfl) | rfl) | rfl <;> rfl
  have avoids := Pattern.Avoids.seq (Pattern.Avoids.one colon) (.many (.one isMark))
  rw [endingPattern, anyOf_mark, anyOf, ways_many_seq avoids, Fit.andThen, wholeRun, readEnding]
  cases text.dropWhile isMark with
  | nil => rfl
  | cons c rest =>
    by_cases same : c = ':'
    · subst same
      rw [ways_one_seq rfl, Fit.andThen, ways_many, List.head?_map, List.head?_map, head?_runs]
      rfl
    · simp [Pattern.ways, same]

/-- A heading as a way to match its line. -/
def Heading.fit (h : Heading) : Fit := ⟨h.text, [(1, h.decoration), (2, h.wording)], h.rest⟩

/-- **What is preferred at the beginning of a line is the heading that is read there.** -/
theorem head?_ways_heading (text : List Char) :
    (headingPattern.ways true text).head? = (heading? text).map Heading.fit := by
  have avoids := (avoids_title.group 2).seq endingPattern
  have start : headingPattern.ways true text = _ :=
    (List.flatMap_singleton ..).trans (Fit.andThen_none _ true text)
  rw [start, anyOf_decoration, ways_group_many_seq avoids, Fit.andThen, List.head?_map,
    Pattern.ways, Pattern.ways, ways_title, List.map_flatMap, List.flatMap_assoc,
    List.head?_flatMap, List.map_findSome?, heading?, List.map_findSome?]
  congr 1
  funext wording
  simp only [Function.comp_apply, headingWith?, Option.bind_eq_bind, wholeRun, Fit.kept]
  cases readWords wording (text.dropWhile isDecoration) with
  | none => rfl
  | some read =>
    simp only [Option.toList_some, List.map_cons, List.map_nil, List.flatMap_singleton,
      Option.bind_some, Fit.andThen, List.head?_map, head?_ways_ending]
    change Option.map _ (Option.map _ (Option.map _ (readEnding read.2))) = _
    cases readEnding read.2 <;> simp [Heading.fit, Heading.text, Fit.behind, fitOf, Fit.kept]

/-! ### What stands below a line -/

theorem isStop_feed : IsStop '\n' := ⟨rfl, noLetter_of_isBlank rfl⟩

theorem readEnding_append_feed (before below : List Char) :
    readEnding (before ++ '\n' :: below)
      = (readEnding before).map fun (ending, rest) => (ending, rest ++ '\n' :: below) := by
  have stops : isMark '\n' = false := rfl
  unfold readEnding
  rw [dropWhile_append_stop stops, takeWhile_append_stop stops]
  cases before.dropWhile isMark with
  | nil => rfl
  | cons c rest =>
    by_cases colon : c = ':'
    · subst colon
      simp [takeWhile_append_stop stops, dropWhile_append_stop stops]
    · simp [colon]

/-- A heading, and other lines below its own. -/
def Heading.above (h : Heading) (below : List Char) : Heading :=
  { h with rest := h.rest ++ '\n' :: below }

@[simp] theorem Heading.above_text (h : Heading) (below : List Char) :
    (h.above below).text = h.text := rfl

/-- **The heading of a line does not depend on the lines below it.** -/
theorem heading?_append_feed (line below : List Char) :
    heading? (line ++ '\n' :: below) = (heading? line).map (Heading.above · below) := by
  have stops : isDecoration '\n' = false := rfl
  rw [heading?, heading?, List.map_findSome?, ← List.head?_filterMap, ← List.head?_filterMap]
  refine congrArg List.head? (List.filterMap_congr fun wording mem => ?_)
  simp only [headingWith?, takeWhile_append_stop stops, dropWhile_append_stop stops,
    readWords_append_stop isStop_feed (areWords_of_mem mem), Option.bind_eq_bind,
    Function.comp_apply]
  cases readWords wording (line.dropWhile isDecoration) with
  | none => rfl
  | some read =>
    simp only [Option.map_some, Option.bind_some, readEnding_append_feed]
    cases readEnding read.2 <;> rfl

/-! ### Line by line -/

/-- A heading as it is found at a place. -/
def Heading.found (h : Heading) (place : Nat) : Match := ⟨place, h.text, h.fit.groups⟩

/-- The headings of lines, of which the first one begins at a place. -/
def headingsFrom (place : Nat) : List (List Char) → List Match
  | [] => []
  | line :: rest =>
    ((heading? line).map (Heading.found · place)).toList
      ++ headingsFrom (place + byteSize line) rest

theorem fit?_heading_start (text : List Char) :
    headingPattern.fit? false true text = (heading? text).map Heading.fit := by
  rw [Pattern.fit?, head?_ways_heading]
  cases heading? text <;> rfl

theorem fit?_heading_inside (ended : Bool) (text : List Char) :
    headingPattern.fit? ended false text = none := rfl

theorem not_feed_of_cons {c : Char} {rest : List Char} (whole : '\n' ∉ c :: rest) :
    (c == '\n') = false ∧ '\n' ∉ rest := by
  rw [List.mem_cons, not_or] at whole
  exact ⟨beq_eq_false_iff_ne.mpr (Ne.symm whole.1), whole.2⟩

/-- Inside a line nothing is found, and the search goes on behind the next character. -/
theorem matchesFrom_inside_cons {c : Char} (inside : (c == '\n') = false) (covered : Nat)
    (ended : Bool) (place : Nat) (rest : List Char) :
    headingPattern.matchesFrom covered ended false place (c :: rest)
      = headingPattern.matchesFrom (covered - 1) (decide (0 < covered)) false
          (place + c.utf8Size) rest := by
  cases covered with
  | zero =>
    rw [Pattern.matchesFrom, fit?_heading_inside]
    dsimp only
    rw [inside]
    rfl
  | succ covered =>
    rw [Pattern.matchesFrom, inside]
    rfl

/-- Nothing is found before the end of a line. -/
theorem matchesFrom_inside {line : List Char} (whole : '\n' ∉ line) (below : List Char)
    {covered : Nat} (within : covered ≤ line.length) (ended : Bool) (place : Nat) :
    headingPattern.matchesFrom covered ended false place (line ++ '\n' :: below)
      = headingPattern.matchesFrom 0 false true (place + byteSize (line ++ ['\n'])) below := by
  induction line generalizing covered ended place with
  | nil =>
    obtain rfl := Nat.le_zero.mp within
    rfl
  | cons c rest ih =>
    obtain ⟨inside, whole⟩ := not_feed_of_cons whole
    have room : covered - 1 ≤ rest.length := Nat.sub_le_of_le_add within
    rw [List.cons_append, List.cons_append, byteSize_cons, ← Nat.add_assoc,
      matchesFrom_inside_cons inside]
    exact ih whole room _ _

/-- Nothing is found before the end of the last line. -/
theorem matchesFrom_inside_last {line : List Char} (whole : '\n' ∉ line) (covered : Nat)
    (ended : Bool) (place : Nat) :
    headingPattern.matchesFrom covered ended false place line = [] := by
  induction line generalizing covered ended place with
  | nil => cases covered <;> rfl
  | cons c rest ih =>
    obtain ⟨inside, whole⟩ := not_feed_of_cons whole
    rw [matchesFrom_inside_cons inside]
    exact ih whole _ _ _

/-- **What is found in a text is what its lines have.** -/
theorem matchesFrom_heading (text : List Char) (place : Nat) :
    headingPattern.matchesFrom 0 false true place text = headingsFrom place (wholeLines text) := by
  induction text using byLines generalizing place with
  | nil => rfl
  | last line some whole =>
    rw [wholeLines_last some whole, headingsFrom, headingsFrom, List.append_nil]
    cases line with
    | nil => exact absurd rfl some
    | cons c rest =>
      obtain ⟨inside, whole⟩ := not_feed_of_cons whole
      rw [Pattern.matchesFrom, fit?_heading_start]
      cases heading? (c :: rest) with
      | none => simp [inside, matchesFrom_inside_last whole]
      | some h => simp [inside, matchesFrom_inside_last whole, Heading.fit, Heading.found]
  | ended line below whole ih =>
    rw [wholeLines_ended whole, headingsFrom, ← ih, heading?_append_feed, Option.map_map]
    cases line with
    | nil => rfl
    | cons c rest =>
      -- Only the first character can begin a match; what it covers ends before the line does.
      obtain ⟨inside, whole⟩ := not_feed_of_cons whole
      have size : byteSize (c :: rest ++ ['\n']) = c.utf8Size + byteSize (rest ++ ['\n']) := by
        rw [List.cons_append, byteSize_cons]
      rw [size, ← Nat.add_assoc, List.cons_append, Pattern.matchesFrom, fit?_heading_start,
        ← List.cons_append, heading?_append_feed]
      cases found : heading? (c :: rest) with
      | none =>
        simp only [Option.map_none, inside, Option.toList_none, List.nil_append]
        exact matchesFrom_inside whole below (Nat.zero_le _) false _
      | some h =>
        have within : (h.above below).text.length - 1 ≤ rest.length := by
          have length := congrArg List.length (heading?_append found).1
          rw [List.length_append, List.length_cons] at length
          rw [Heading.above_text]
          omega
        have more := matchesFrom_inside whole below within (!h.text.isEmpty)
          (place + c.utf8Size)
        simp only [Option.map_some, inside, Option.toList_some, List.singleton_append]
        exact congrArg (List.cons (h.found place)) more

/-- The headings in a text are found line by line. -/
theorem matches_heading (text : List Char) :
    headingPattern.matches text = headingsFrom 0 (wholeLines text) := matchesFrom_heading text 0

end Draftsman.Reply
