/-
What is left of a name and of an input when they are cleaned.

A model puts a name into backquotes or brackets and ends it with a full stop, and it puts
an input into a fence or into quotes.  Cleaning takes all this away, and it does nothing
but take characters away (`OnlyDrops`).  So a text that is the same as before has been
left as it was by every step, and that can be told from its ends; and a text from which
something has been taken away is another one.
-/
import Draftsman.Reply.Decision
import Draftsman.Proofs.Text.Cut

namespace Draftsman.Reply

open Draftsman.Text

/-! ### Steps that take characters away -/

/-- Changes to a text that do nothing but take characters away. -/
def OnlyDrops (step : List Char → List Char) : Prop := ∀ text, (step text).Sublist text

section Steps

variable {step next : List Char → List Char}

theorem OnlyDrops.comp (first : OnlyDrops step) (last : OnlyDrops next) :
    OnlyDrops fun text => next (step text) :=
  fun text => (last (step text)).trans (first text)

/-- If two steps leave a text as it is, then so does each of them. -/
theorem OnlyDrops.eq_self (first : OnlyDrops step) (last : OnlyDrops next) {text : List Char}
    (same : next (step text) = text) : step text = text ∧ next text = text := by
  have covered := last (step text)
  rw [same] at covered
  have still : step text = text := (first text).antisymm covered
  rw [still] at same
  exact ⟨still, same⟩

/-- What is left of a text that is not as long as another is not that other one. -/
theorem OnlyDrops.ne_of_length_lt (drops : OnlyDrops step) {text other : List Char}
    (short : text.length < other.length) : step text ≠ other := by
  rintro rfl
  exact Nat.not_lt_of_le (drops text).length_le short

end Steps

theorem onlyDrops_dropStart (p : Char → Bool) : OnlyDrops (dropStart p) :=
  fun _ => List.dropWhile_sublist p

theorem onlyDrops_dropEnd (p : Char → Bool) : OnlyDrops (dropEnd p) := dropEnd_sublist p

theorem onlyDrops_trim : OnlyDrops trim := trim_sublist

/-! ### Names -/

theorem onlyDrops_cleanName : OnlyDrops cleanName :=
  (((onlyDrops_trim.comp (onlyDrops_dropStart decoratesName)).comp
    (onlyDrops_dropEnd decoratesName)).comp (onlyDrops_dropEnd endsName)).comp onlyDrops_trim

/--
**A name is clean exactly if its ends are.**  It neither begins nor ends with a blank or
with something that decorates a name, and it does not end with something that ends a line.
-/
theorem cleanName_eq_self_iff (name : List Char) :
    cleanName name = name ↔
      trim name = name ∧ (∀ c ∈ name.head?, decoratesName c = false) ∧
        ∀ c ∈ name.getLast?, decoratesName c = false ∧ endsName c = false := by
  constructor
  · intro clean
    have started := onlyDrops_trim.comp (onlyDrops_dropStart decoratesName)
    have finished := started.comp (onlyDrops_dropEnd decoratesName)
    have unended := finished.comp (onlyDrops_dropEnd endsName)
    obtain ⟨four, -⟩ := unended.eq_self onlyDrops_trim clean
    obtain ⟨three, ending⟩ := finished.eq_self (onlyDrops_dropEnd endsName) four
    obtain ⟨two, finish⟩ := started.eq_self (onlyDrops_dropEnd decoratesName) three
    obtain ⟨whole, start⟩ := onlyDrops_trim.eq_self (onlyDrops_dropStart decoratesName) two
    refine ⟨whole, dropStart_eq_self_iff.mp start, fun c mem => ⟨?_, ?_⟩⟩
    · exact dropEnd_eq_self_iff.mp finish c mem
    · exact dropEnd_eq_self_iff.mp ending c mem
  · rintro ⟨whole, first, last⟩
    have start := dropStart_eq_self_iff.mpr first
    have finish := dropEnd_eq_self_iff.mpr fun c mem => (last c mem).1
    have ending := dropEnd_eq_self_iff.mpr fun c mem => (last c mem).2
    rw [cleanName, whole, start, finish, ending, whole]

/-- Blanks around a name are taken away first. -/
theorem cleanName_trim (text : List Char) : cleanName (trim text) = cleanName text := by
  rw [cleanName, trim_trim, ← cleanName]

/-- An action that is written on one line, and has its input elsewhere, is all name. -/
theorem toolAndInput_of_not_mem {body : List Char} (whole : '\n' ∉ body) (input : List Char) :
    toolAndInput body (some input) = (cleanName body, cleanInput input) := by
  have one : '\n' ∉ trim body := fun mem => whole ((trim_sublist body).mem mem)
  rw [toolAndInput, firstLine, cut_eq_none one]
  exact congrArg (·, cleanInput input) (cleanName_trim body)

/-! ### Inputs -/

/-- Texts that are put into quotes: a quote stands at either end, and none between them. -/
def Quoted (text : List Char) : Prop :=
  ∃ quote ∈ ['"', '\''], ∃ inner, text = quote :: (inner ++ [quote]) ∧
    hasBareQuote quote false inner = false

theorem insideQuotes?_eq_some_iff {quote : Char} {text inner : List Char} :
    insideQuotes? quote text = some inner ↔
      text = quote :: (inner ++ [quote]) ∧ hasBareQuote quote false inner = false := by
  constructor
  · intro found
    rw [insideQuotes?, Option.bind_eq_bind, Option.bind_eq_some_iff] at found
    obtain ⟨rest, first, found⟩ := found
    rw [Option.bind_eq_some_iff] at found
    obtain ⟨middle, last, found⟩ := found
    split at found
    · cases found
    · rename_i none
      cases found
      rw [eq_append_of_dropPrefix? first, eq_append_of_dropLast? last]
      exact ⟨rfl, by simpa using none⟩
  · rintro ⟨rfl, none⟩
    simp [insideQuotes?, dropPrefix?, dropLast?, none]

instance (text : List Char) : Decidable (Quoted text) :=
  decidable_of_iff ((['"', '\''].any fun quote => (insideQuotes? quote text).isSome) = true) <| by
    simp only [Quoted, List.any_eq_true, Option.isSome_iff_exists, insideQuotes?_eq_some_iff]

theorem unquoted_eq_self {text : List Char} (bare : ¬ Quoted text) : unquoted text = text := by
  have none : (['"', '\''].findSome? fun quote => insideQuotes? quote text) = none := by
    rw [List.findSome?_eq_none_iff]
    intro quote mem
    rw [Option.eq_none_iff_forall_ne_some]
    intro inner found
    exact bare ⟨quote, mem, inner, insideQuotes?_eq_some_iff.mp found⟩
  rw [unquoted, none]
  rfl

theorem onlyDrops_unquoted : OnlyDrops unquoted := by
  intro text
  rw [unquoted]
  cases found : ['"', '\''].findSome? fun quote => insideQuotes? quote text with
  | none => exact List.Sublist.refl text
  | some inner =>
    obtain ⟨quote, -, inside⟩ := List.exists_of_findSome?_eq_some found
    obtain ⟨whole, -⟩ := insideQuotes?_eq_some_iff.mp inside
    rw [Option.getD_some, whole]
    exact (List.sublist_append_left inner [quote]).cons quote

theorem unfenced_eq_self {text : List Char} (open_ : ¬ fence <+: text) : unfenced text = text := by
  unfold unfenced
  split
  · rename_i rest found
    exact absurd ⟨rest, (eq_append_of_dropPrefix? found).symm⟩ open_
  · rfl

theorem onlyDrops_insideFence : OnlyDrops insideFence := by
  -- Of a text that ends with a fence nothing but the fence is lost.
  have ending : ∀ text whole : List Char, text.Sublist whole →
      ((dropSuffix? fence text).getD whole).Sublist whole := by
    intro text whole within
    cases found : dropSuffix? fence text with
    | none => exact List.Sublist.refl whole
    | some rest =>
      rw [eq_append_of_dropSuffix? found] at within
      exact (List.sublist_append_left rest fence).trans within
  intro text
  unfold insideFence
  split
  · rename_i tag body lines
    rw [eq_append_of_cut lines]
    exact (ending (trimEnd body) body (dropEnd_sublist isBlank body)).trans
      ((List.sublist_cons_self '\n' body).trans (List.sublist_append_right tag _))
  · exact ending text text (List.Sublist.refl text)

theorem onlyDrops_unfenced : OnlyDrops unfenced := by
  intro text
  unfold unfenced
  split
  · rename_i rest found
    rw [eq_append_of_dropPrefix? found]
    exact ((onlyDrops_insideFence.comp onlyDrops_trim) rest).trans
      (List.sublist_append_right fence rest)
  · exact List.Sublist.refl text

theorem onlyDrops_cleanInput : OnlyDrops cleanInput :=
  (onlyDrops_trim.comp onlyDrops_unfenced).comp onlyDrops_unquoted

/-- Blanks around an input are taken away first. -/
theorem cleanInput_cons_of_blank {c : Char} (blank : isBlank c = true) (text : List Char) :
    cleanInput (c :: text) = cleanInput text := by
  rw [cleanInput, trim_cons_of_blank blank, ← cleanInput]

/-- An input in which there is nothing to clean is left as it is. -/
theorem cleanInput_eq_self {text : List Char} (whole : trim text = text)
    (unfenced : ¬ fence <+: text) (bare : ¬ Quoted text) : cleanInput text = text := by
  rw [cleanInput, whole, unfenced_eq_self unfenced, unquoted_eq_self bare]

/-- What is put into a fence is what is read out of it, whatever stands behind its opening. -/
theorem cleanInput_fenced {tag text : List Char} (line : '\n' ∉ tag) (whole : trim text = text)
    (bare : ¬ Quoted text) :
    cleanInput (fence ++ (tag ++ '\n' :: text ++ ['\n']) ++ fence) = text := by
  have marks : Solid fence := ⟨by decide, by decide⟩
  have opened : fence ++ (tag ++ '\n' :: text ++ ['\n']) ++ fence
      = fence ++ (tag ++ '\n' :: ((text ++ ['\n']) ++ fence)) := by simp
  have closed : trimEnd ((text ++ ['\n']) ++ fence) = (text ++ ['\n']) ++ fence := by
    rw [trimEnd_append_of_not _ marks.not_blank, marks.finish]
  have inside : insideFence (tag ++ '\n' :: ((text ++ ['\n']) ++ fence)) = text ++ ['\n'] := by
    rw [insideFence, cut_append line]
    dsimp only
    rw [closed, dropSuffix?_append, Option.getD_some]
  rw [cleanInput, (marks.append marks _).whole, opened, unfenced, dropPrefix?_append]
  dsimp only
  rw [inside, trim_append_of_blank text (blank_singleton rfl), whole, unquoted_eq_self bare]

end Draftsman.Reply
