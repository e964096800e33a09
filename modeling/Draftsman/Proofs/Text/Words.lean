/-
The words of a text.

A text is cut into words at its blanks, of which nothing is left.  Its words are therefore all
of it that is not blank, and a text may be put together with blanks without changing what the
words on both sides are.
-/
import Draftsman.Proofs.Text.Cut

namespace Draftsman.Text

/-- The words on both sides of a blank. -/
theorem words_append_cons {c : Char} (blank : isBlank c = true) (before behind : List Char) :
    words (before ++ c :: behind) = words before ++ words behind := by
  rw [words, List.splitOnP_append_cons _ _ blank, List.filter_append]
  rfl

/-- Blanks before a text hold no words. -/
theorem words_append_of_blank {blanks : List Char} (blank : Blank blanks) (text : List Char) :
    words (blanks ++ text) = words text := by
  induction blanks with
  | nil => rfl
  | cons c rest ih =>
    rw [Blank, List.forall_mem_cons] at blank
    exact (words_append_cons blank.1 [] (rest ++ text)).trans (ih blank.2)

/-- A text without blanks is a word, unless there is nothing of it. -/
theorem words_of_seen {word : List Char} (something : word ≠ [])
    (seen : ∀ c ∈ word, isBlank c = false) : words word = [word] := by
  rw [words, List.splitOnP_eq_singleton seen]
  simp [something]

/-- The words of a text are all of it but its blanks. -/
theorem words_flatten (text : List Char) :
    (words text).flatten = text.filter fun c => !isBlank c := by
  have all : ∀ text : List Char, (text.splitOnP isBlank).flatten
      = text.filter fun c => !isBlank c := by
    intro text
    induction text with
    | nil => simp
    | cons c rest ih =>
      rw [List.splitOnP_cons_eq_if_modifyHead]
      cases blank : isBlank c with
      | true => simpa [blank] using ih
      | false =>
        obtain ⟨part, more, split⟩ := List.exists_cons_of_ne_nil (List.splitOnP_ne_nil isBlank rest)
        rw [split] at ih
        simpa [blank, split] using ih
  rw [← all, words]
  generalize text.splitOnP isBlank = parts
  induction parts with
  | nil => rfl
  | cons part parts ih =>
    cases part with
    | nil => simpa using ih
    | cons c rest => simpa using ih

end Draftsman.Text
