/-
What is left of a text without the blanks at its ends.
-/
import Mathlib.Data.List.DropRight
import Mathlib.Data.List.TakeWhile
import Draftsman.Text.Alphanumeric
import Draftsman.Text.Blank

namespace Draftsman.Text

/-- A text that holds nothing but blanks. -/
def Blank (text : List Char) : Prop := ∀ c ∈ text, isBlank c = true

theorem blank_nil : Blank [] := List.forall_mem_nil _

theorem blank_singleton {c : Char} (blank : isBlank c = true) : Blank [c] :=
  List.forall_mem_singleton.mpr blank

/-- No range of blanks meets a range of letters and digits. -/
theorem isBlank_of_isAlphanumeric {c : Char} (letter : isAlphanumeric c = true) :
    isBlank c = false := by
  have apart : ∀ r ∈ blankRanges, ∀ s ∈ alphanumericRanges, r.2 < s.1 ∨ s.2 < r.1 := by
    decide +kernel
  rw [← Bool.not_eq_true]
  intro blank
  simp only [isBlank, isAlphanumeric, Ranges.covers, List.any_eq_true, Bool.and_eq_true,
    decide_eq_true_eq] at blank letter
  obtain ⟨r, mem, low, high⟩ := blank
  obtain ⟨s, mem', low', high'⟩ := letter
  have := apart r mem s mem'
  omega

/-! ### Blanks at the beginning -/

theorem trimStart_cons_of_blank {c : Char} (blank : isBlank c = true) (text : List Char) :
    trimStart (c :: text) = trimStart text := List.dropWhile_cons_of_pos blank

theorem trimStart_cons_of_not {c : Char} (solid : isBlank c = false) (text : List Char) :
    trimStart (c :: text) = c :: text := List.dropWhile_cons_of_neg (by simp [solid])

theorem trimStart_eq_nil {text : List Char} (blank : Blank text) : trimStart text = [] :=
  List.dropWhile_eq_nil_iff.mpr blank

/-- Blanks before a text are lost with those at its beginning. -/
theorem trimStart_append_of_blank {blanks : List Char} (blank : Blank blanks) (text : List Char) :
    trimStart (blanks ++ text) = trimStart text := by
  show (blanks ++ text).dropWhile isBlank = _
  rw [List.dropWhile_append_of_pos blank]
  rfl

/-- What is behind something that is not blank stays. -/
theorem trimStart_append_of_not {start : List Char} (solid : ¬ Blank start) (text : List Char) :
    trimStart (start ++ text) = trimStart start ++ text := by
  have left : (start.dropWhile isBlank).isEmpty = false := by
    rw [List.isEmpty_eq_false_iff, ne_eq, List.dropWhile_eq_nil_iff]
    exact solid
  show (start ++ text).dropWhile isBlank = _
  rw [List.dropWhile_append, left]
  rfl

theorem mem_of_mem_trimStart {c : Char} {text : List Char} (mem : c ∈ trimStart text) : c ∈ text :=
  (List.dropWhile_sublist _).mem mem

/-! ### Blanks at the end -/

/-- Blanks behind a text are lost with those at its end. -/
theorem trimEnd_append_of_blank (text : List Char) {blanks : List Char} (blank : Blank blanks) :
    trimEnd (text ++ blanks) = trimEnd text := by
  have reversed : ∀ c ∈ blanks.reverse, isBlank c = true :=
    fun c mem => blank c (List.mem_reverse.mp mem)
  show ((text ++ blanks).reverse.dropWhile isBlank).reverse = _
  rw [List.reverse_append, List.dropWhile_append_of_pos reversed]
  rfl

/-- What is lost at the end of a text are blanks. -/
theorem trimEnd_append (text : List Char) :
    ∃ blanks, Blank blanks ∧ trimEnd text ++ blanks = text := by
  refine ⟨(text.reverse.takeWhile isBlank).reverse, ?_, ?_⟩
  · intro c mem
    exact List.mem_takeWhile_imp (List.mem_reverse.mp mem)
  · show (text.reverse.dropWhile isBlank).reverse ++ _ = _
    rw [← List.reverse_append, List.takeWhile_append_dropWhile, List.reverse_reverse]

/-- What does not change with one blank at the end of a text does not change with all of them. -/
theorem apply_trimEnd {α : Type} {f : List Char → α}
    (one : ∀ text c, isBlank c = true → f (text ++ [c]) = f text) (text : List Char) :
    f (trimEnd text) = f text := by
  have behind : ∀ blanks, Blank blanks → ∀ start, f (start ++ blanks) = f start := by
    intro blanks
    induction blanks with
    | nil =>
      intro _ start
      rw [List.append_nil]
    | cons c rest ih =>
      intro blank start
      obtain ⟨first, others⟩ := List.forall_mem_cons.mp blank
      rw [List.append_cons, ih others, one start c first]
  obtain ⟨blanks, blank, same⟩ := trimEnd_append text
  rw [← behind blanks blank (trimEnd text), same]

/-- Texts that differ in the blanks at their ends can be put behind the same text. -/
theorem trimEnd_append_congr (start : List Char) {text other : List Char}
    (same : trimEnd text = trimEnd other) : trimEnd (start ++ text) = trimEnd (start ++ other) := by
  have cut : ∀ text, trimEnd (start ++ text) = trimEnd (start ++ trimEnd text) := by
    intro text
    obtain ⟨blanks, blank, whole⟩ := trimEnd_append text
    rw [← trimEnd_append_of_blank (start ++ trimEnd text) blank, List.append_assoc, whole]
  rw [cut text, cut other, same]

/-- It does not matter whether the blanks at the end of a text are lost first. -/
theorem trim_trimEnd (text : List Char) : trim (trimEnd text) = trim text := by
  obtain ⟨blanks, blank, same⟩ := trimEnd_append text
  suffices trim (trimEnd text) = trim (trimEnd text ++ blanks) by rw [this, same]
  unfold trim
  by_cases all : Blank (trimEnd text)
  · rw [trimStart_append_of_blank all, trimStart_eq_nil all, trimStart_eq_nil blank]
  · rw [trimStart_append_of_not all, trimEnd_append_of_blank _ blank]

theorem dropEnd_sublist (p : Char → Bool) (text : List Char) : (dropEnd p text).Sublist text := by
  rw [dropEnd, ← List.reverse_sublist, List.reverse_reverse]
  exact List.dropWhile_sublist p

/-- Trimming takes characters away, and does nothing else. -/
theorem trim_sublist (text : List Char) : (trim text).Sublist text :=
  (dropEnd_sublist isBlank _).trans (List.dropWhile_sublist isBlank)

theorem trim_cons_of_blank {c : Char} (blank : isBlank c = true) (text : List Char) :
    trim (c :: text) = trim text := by
  rw [trim, trimStart_cons_of_blank blank, ← trim]

theorem trim_append_of_blank (text : List Char) {blanks : List Char} (blank : Blank blanks) :
    trim (text ++ blanks) = trim text := by
  rw [← trim_trimEnd, trimEnd_append_of_blank text blank, trim_trimEnd]

/-- What is trimmed has no blanks left to be trimmed. -/
theorem trim_trim (text : List Char) : trim (trim text) = trim text := by
  have start : trimStart (trimStart text) = trimStart text := List.dropWhile_idempotent isBlank text
  calc trim (trim text) = trim (trimStart text) := trim_trimEnd _
    _ = trim text := by rw [trim, start, ← trim]

/-! ### The two ends of a text -/

/-- A character is dropped at the end of a text if all that is behind it is dropped, too. -/
theorem dropEnd_cons (p : Char → Bool) (c : Char) (text : List Char) :
    dropEnd p (c :: text) = if dropEnd p text = [] ∧ p c = true then [] else c :: dropEnd p text := by
  unfold dropEnd
  rw [List.reverse_cons, List.dropWhile_append]
  cases text.reverse.dropWhile p with
  | nil => by_cases drops : p c = true <;> simp [drops]
  | cons d rest => simp

/-- It does not matter at which end characters are dropped first. -/
theorem dropStart_dropEnd_comm (p q : Char → Bool) (text : List Char) :
    dropStart p (dropEnd q text) = dropEnd q (dropStart p text) := by
  induction text with
  | nil => rfl
  | cons c rest ih =>
    by_cases drops : p c = true
    · have first : dropStart p (c :: rest) = dropStart p rest := List.dropWhile_cons_of_pos drops
      rw [first, ← ih, dropEnd_cons]
      by_cases gone : dropEnd q rest = [] ∧ q c = true
      · rw [if_pos gone, gone.1]
      · rw [if_neg gone]
        exact List.dropWhile_cons_of_pos drops
    · have stays : ∀ more, dropStart p (c :: more) = c :: more :=
        fun more => List.dropWhile_cons_of_neg drops
      rw [stays, dropEnd_cons]
      by_cases gone : dropEnd q rest = [] ∧ q c = true
      · rw [if_pos gone]
        rfl
      · rw [if_neg gone, stays]

section Ends

variable {p : Char → Bool} {text : List Char}

theorem dropStart_eq_self_iff : dropStart p text = text ↔ ∀ c ∈ text.head?, p c = false := by
  cases text with
  | nil => exact iff_of_true rfl nofun
  | cons c rest =>
    have first : (∀ d ∈ (c :: rest).head?, p d = false) ↔ p c = false := by simp
    rw [first, dropStart, List.dropWhile_eq_self_iff]
    simp

/-- What is dropped at the end is what would be dropped at the beginning, seen from behind. -/
theorem dropEnd_eq_self_iff : dropEnd p text = text ↔ ∀ c ∈ text.getLast?, p c = false := by
  rw [← List.head?_reverse, ← dropStart_eq_self_iff, dropEnd, ← dropStart,
    List.reverse_eq_iff]

end Ends

/-! ### Texts that are blank -/

theorem trimEnd_eq_nil_iff (text : List Char) : trimEnd text = [] ↔ Blank text := by
  show (text.reverse.dropWhile isBlank).reverse = [] ↔ _
  rw [List.reverse_eq_nil_iff, List.dropWhile_eq_nil_iff]
  exact forall_congr' fun c => by rw [List.mem_reverse]

/-- What is left of a text is not blank, unless it is nothing. -/
theorem trim_eq_nil_iff (text : List Char) : trim text = [] ↔ Blank (trim text) := by
  constructor
  · intro nothing
    rw [nothing]
    exact nofun
  · intro blank
    obtain ⟨blanks, behind, whole⟩ := trimEnd_append (trimStart text)
    rw [trim, trimEnd_eq_nil_iff, ← whole]
    exact List.forall_mem_append.mpr ⟨blank, behind⟩

/-- Nothing is left of a text exactly if it holds nothing but blanks. -/
theorem isAllBlank_iff (text : List Char) : isAllBlank text = true ↔ Blank text := by
  have whole : text.takeWhile isBlank ++ trimStart text = text := List.takeWhile_append_dropWhile
  rw [isAllBlank, List.isEmpty_iff, trim, trimEnd_eq_nil_iff]
  constructor
  · intro rest c mem
    rw [← whole, List.mem_append] at mem
    rcases mem with early | late
    · exact List.mem_takeWhile_imp early
    · exact rest c late
  · intro blank c mem
    exact blank c (mem_of_mem_trimStart mem)

/-- Two strings together hold nothing but blanks exactly if each of them does. -/
theorem blankString_append (s t : String) :
    blankString (s ++ t) = (blankString s && blankString t) := by
  rw [Bool.eq_iff_iff, Bool.and_eq_true]
  simp only [blankString, isAllBlank_iff, String.toList_append]
  exact List.forall_mem_append

/-! ### Texts without blanks at their ends -/

/-- Texts that hold something, and no blanks at their ends. -/
structure Solid (text : List Char) : Prop where
  something : text ≠ []
  whole : trim text = text

instance (text : List Char) : Decidable (Solid text) :=
  decidable_of_iff (text ≠ [] ∧ trim text = text)
    ⟨fun h => ⟨h.1, h.2⟩, fun h => ⟨h.something, h.whole⟩⟩

theorem Solid.not_blank {text : List Char} (solid : Solid text) : ¬ Blank text := by
  rw [← isAllBlank_iff, isAllBlank, solid.whole, List.isEmpty_iff]
  exact solid.something

theorem Solid.start {text : List Char} (solid : Solid text) : trimStart text = text := by
  obtain ⟨blanks, -, cut⟩ := trimEnd_append (trimStart text)
  have within : (trimStart text).length ≤ text.length := (List.dropWhile_sublist _).length_le
  rw [← trim, solid.whole] at cut
  rw [← cut, List.length_append] at within
  obtain rfl : blanks = [] := List.length_eq_zero_iff.mp (by omega)
  rw [← cut, List.append_nil]

theorem Solid.finish {text : List Char} (solid : Solid text) : trimEnd text = text := by
  have whole := solid.whole
  rwa [trim, solid.start] at whole

/-- A text without any blanks is solid. -/
theorem solid_of_seen {text : List Char} (something : text ≠ [])
    (seen : text.any isBlank = false) : Solid text := by
  have seen : ∀ c ∈ text, isBlank c = false := by simpa using seen
  have start : ∀ text : List Char, (∀ c ∈ text, isBlank c = false) → trimStart text = text := by
    intro text seen
    cases text with
    | nil => rfl
    | cons c rest => exact trimStart_cons_of_not (seen c List.mem_cons_self) rest
  have finish : trimEnd text = text := by
    show (trimStart text.reverse).reverse = text
    rw [start _ fun c mem => seen c (List.mem_reverse.mp mem), List.reverse_reverse]
  exact ⟨something, by rw [trim, start text seen, finish]⟩

/-- What is before something that is not blank stays. -/
theorem trimEnd_append_of_not (text : List Char) {behind : List Char} (seen : ¬ Blank behind) :
    trimEnd (text ++ behind) = text ++ trimEnd behind := by
  have reversed : ¬ Blank behind.reverse := fun blank =>
    seen fun c mem => blank c (List.mem_reverse.mpr mem)
  show (trimStart (text ++ behind).reverse).reverse = text ++ (trimStart behind.reverse).reverse
  rw [List.reverse_append, trimStart_append_of_not reversed, List.reverse_append,
    List.reverse_reverse]

/-- Trimming loses all that was put behind a text exactly if that is blank. -/
theorem trim_append_eq_iff (text behind : List Char) :
    trim (text ++ behind) = trim text ↔ Blank behind := by
  constructor
  · intro same
    by_contra seen
    by_cases blank : Blank text
    · -- Nothing is left of the text, but something of what is behind it.
      have left : trim (text ++ behind) = trim behind := by
        rw [trim, trimStart_append_of_blank blank, ← trim]
      have nothing : trim behind = [] := by
        rw [← left, same, trim, trimStart_eq_nil blank]
        rfl
      rw [← isAllBlank_iff, isAllBlank, nothing] at seen
      exact seen rfl
    · have longer : trim (text ++ behind) = trimStart text ++ trimEnd behind := by
        rw [trim, trimStart_append_of_not blank, trimEnd_append_of_not _ seen]
      have something : trimEnd behind ≠ [] := fun nothing =>
        seen ((trimEnd_eq_nil_iff behind).mp nothing)
      have short : (trim text).length ≤ (trimStart text).length :=
        (dropEnd_sublist isBlank _).length_le
      have positive := List.length_pos_iff.mpr something
      rw [← same, longer, List.length_append] at short
      omega
  · exact trim_append_of_blank text

/-- A text is solid if it begins and ends with one that is. -/
theorem Solid.append {a b : List Char} (first : Solid a) (last : Solid b) (middle : List Char) :
    Solid (a ++ middle ++ b) where
  something := by simp [first.something]
  whole := by
    rw [trim, List.append_assoc, trimStart_append_of_not first.not_blank, first.start,
      ← List.append_assoc, trimEnd_append_of_not _ last.not_blank, last.finish]

/-- Blanks around a solid text are all that is lost of it. -/
theorem Solid.trim_padded {text : List Char} (solid : Solid text) {before behind : List Char}
    (blank : Blank before) (blank' : Blank behind) : trim (before ++ text ++ behind) = text := by
  rw [trim, List.append_assoc, trimStart_append_of_blank blank,
    trimStart_append_of_not solid.not_blank, trimEnd_append_of_blank _ blank', ← trim, solid.whole]

/-- What is not blank is not lost. -/
theorem mem_trim {c : Char} (seen : isBlank c = false) {text : List Char} (mem : c ∈ text) :
    c ∈ trim text := by
  have start : c ∈ trimStart text := by
    rw [← List.takeWhile_append_dropWhile (p := isBlank) (l := text), List.mem_append] at mem
    rcases mem with early | late
    · rw [List.mem_takeWhile_imp early] at seen
      cases seen
    · exact late
  obtain ⟨blanks, blank, cut⟩ := trimEnd_append (trimStart text)
  rw [← cut, List.mem_append] at start
  rcases start with here | behind
  · exact here
  · rw [blank c behind] at seen
    cases seen

end Draftsman.Text
