/-
How clean the name of a tool comes out.

Cleaning takes characters of some kinds off the ends of a name, one kind after the other and
each kind once: at the beginning blanks, what decorates a name, and blanks again; at the end
blanks, what decorates a name, what ends a line, and blanks again.  The ends do not depend on
each other.  So all that might be taken off an end is taken off exactly if the kinds stand
there in the order in which they are taken (`InOrder`); if a model writes them in another
order, such as a full stop behind the backquote that closes a name, then one of them is left.
-/
import Draftsman.Proofs.Reply.Call
import Draftsman.Proofs.Reply.Cleaning
import Draftsman.Proofs.Reply.Heading

namespace Draftsman.Reply

open Draftsman.Text

/-! ### Kinds that are taken off one after the other -/

/-- A text without the characters of some kinds at its beginning, one kind after the other. -/
def peelStart (kinds : List (Char → Bool)) (text : List Char) : List Char :=
  kinds.foldl (fun rest kind => dropStart kind rest) text

/-- A text without the characters of some kinds at its end, one kind after the other. -/
def peelEnd (kinds : List (Char → Bool)) (text : List Char) : List Char :=
  kinds.foldl (fun rest kind => dropEnd kind rest) text

/-- Whether a character is of any of some kinds. -/
def isAnyOf (kinds : List (Char → Bool)) (c : Char) : Bool := kinds.any fun kind => kind c

/-- Texts made of runs of characters of some kinds, in the order of the kinds. -/
inductive Runs : List (Char → Bool) → List Char → Prop
  | nil : Runs [] []
  | cons {kind : Char → Bool} {kinds : List (Char → Bool)} {run rest : List Char}
      (all : ∀ c ∈ run, kind c = true) (others : Runs kinds rest) :
      Runs (kind :: kinds) (run ++ rest)

/-- Texts at whose beginning characters of some kinds stand in the order of the kinds. -/
def InOrder (kinds : List (Char → Bool)) (text : List Char) : Prop :=
  Runs kinds (text.takeWhile (isAnyOf kinds))

section Peel

variable {kinds : List (Char → Bool)}

theorem peelStart_suffix (kinds : List (Char → Bool)) (text : List Char) :
    peelStart kinds text <:+ text := by
  induction kinds generalizing text with
  | nil => exact List.suffix_refl text
  | cons kind others ih => exact (ih (dropStart kind text)).trans (List.dropWhile_suffix kind)

/-- What is taken off at the end is what would be taken off at the beginning, seen from behind. -/
theorem peelEnd_eq_reverse (kinds : List (Char → Bool)) (text : List Char) :
    peelEnd kinds text = (peelStart kinds text.reverse).reverse := by
  induction kinds generalizing text with
  | nil => exact text.reverse_reverse.symm
  | cons kind others ih =>
    show peelEnd others (dropEnd kind text) = (peelStart others (dropStart kind text.reverse)).reverse
    rw [ih, dropEnd, List.reverse_reverse, dropStart]

theorem peelEnd_prefix (kinds : List (Char → Bool)) (text : List Char) :
    peelEnd kinds text <+: text := by
  rw [peelEnd_eq_reverse, ← List.reverse_suffix, List.reverse_reverse]
  exact peelStart_suffix kinds text.reverse

/-- Nothing behind a character of another kind is taken off, nor is that character. -/
theorem peelStart_append_stop {c : Char} (other : isAnyOf kinds c = false)
    (before behind : List Char) :
    peelStart kinds (before ++ c :: behind) = peelStart kinds before ++ c :: behind := by
  induction kinds generalizing before with
  | nil => rfl
  | cons kind others ih =>
    rw [isAnyOf, List.any_cons, Bool.or_eq_false_iff] at other
    show peelStart others ((before ++ c :: behind).dropWhile kind)
      = peelStart others (before.dropWhile kind) ++ c :: behind
    rw [dropWhile_append_stop other.1, ih other.2]

/-- Runs may lose characters at their beginning. -/
theorem Runs.dropWhile {text : List Char} (runs : Runs kinds text) (p : Char → Bool) :
    Runs kinds (text.dropWhile p) := by
  induction runs with
  | nil => exact Runs.nil
  | @cons kind others run rest all below ih =>
    rw [List.dropWhile_append]
    split
    · rw [← List.nil_append (rest.dropWhile p)]
      exact Runs.cons nofun ih
    · exact Runs.cons (fun c mem => all c ((List.dropWhile_sublist p).subset mem)) below

/-- Runs are what is taken off as a whole, one kind after the other. -/
theorem runs_iff (kinds : List (Char → Bool)) (text : List Char) :
    Runs kinds text ↔ peelStart kinds text = [] := by
  induction kinds generalizing text with
  | nil =>
    constructor
    · rintro ⟨⟩
      rfl
    · rintro rfl
      exact Runs.nil
  | cons kind others ih =>
    show _ ↔ peelStart others (text.dropWhile kind) = []
    rw [← ih]
    constructor
    · rintro (_ | ⟨all, below⟩)
      rw [List.dropWhile_append_of_pos all]
      exact below.dropWhile kind
    · intro below
      rw [← List.takeWhile_append_dropWhile (p := kind) (l := text)]
      exact Runs.cons (fun c mem => List.mem_takeWhile_imp mem) below

instance (kinds : List (Char → Bool)) (text : List Char) : Decidable (InOrder kinds text) :=
  decidable_of_iff _ (runs_iff kinds (text.takeWhile (isAnyOf kinds))).symm

/-- **All that might be taken off a text is taken off exactly if it stands in order.** -/
theorem head?_peelStart_iff (kinds : List (Char → Bool)) (text : List Char) :
    (∀ c ∈ (peelStart kinds text).head?, isAnyOf kinds c = false) ↔ InOrder kinds text := by
  have parts : peelStart kinds text
      = peelStart kinds (text.takeWhile (isAnyOf kinds)) ++ text.dropWhile (isAnyOf kinds) := by
    have stops := List.head?_dropWhile_not (isAnyOf kinds) text
    conv_lhs => rw [← List.takeWhile_append_dropWhile (p := isAnyOf kinds) (l := text)]
    cases rest : text.dropWhile (isAnyOf kinds) with
    | nil => rw [List.append_nil, List.append_nil]
    | cons c behind =>
      rw [rest] at stops
      exact peelStart_append_stop stops _ behind
  rw [InOrder, runs_iff, parts]
  cases left : peelStart kinds (text.takeWhile (isAnyOf kinds)) with
  | nil =>
    refine iff_of_true ?_ rfl
    intro c first
    have stops := List.head?_dropWhile_not (isAnyOf kinds) text
    rw [List.nil_append] at first
    rw [Option.mem_def.mp first] at stops
    exact stops
  | cons c rest =>
    -- What is left of the margin is still of one of the kinds.
    have mem : c ∈ text.takeWhile (isAnyOf kinds) := by
      refine (peelStart_suffix kinds _).subset ?_
      rw [left]
      exact List.mem_cons_self
    refine iff_of_false (fun clean => ?_) (List.cons_ne_nil c rest)
    have none := clean c rfl
    rw [List.mem_takeWhile_imp mem] at none
    cases none

end Peel

/-! ### Cleaning as peeling -/

/-- What is taken off the beginning of a name. -/
def startKinds : List (Char → Bool) := [isBlank, decoratesName, isBlank]

/-- What is taken off the end of a name. -/
def endKinds : List (Char → Bool) := [isBlank, decoratesName, endsName, isBlank]

theorem isAnyOf_startKinds (c : Char) :
    isAnyOf startKinds c = false ↔ isBlank c = false ∧ decoratesName c = false := by
  simp only [isAnyOf, startKinds, List.any_cons, List.any_nil, Bool.or_eq_false_iff]
  constructor
  · rintro ⟨blank, decorates, -⟩
    exact ⟨blank, decorates⟩
  · rintro ⟨blank, decorates⟩
    exact ⟨blank, decorates, blank, trivial⟩

theorem isAnyOf_endKinds (c : Char) :
    isAnyOf endKinds c = false ↔
      isBlank c = false ∧ decoratesName c = false ∧ endsName c = false := by
  simp only [isAnyOf, endKinds, List.any_cons, List.any_nil, Bool.or_eq_false_iff]
  constructor
  · rintro ⟨blank, decorates, ends, -⟩
    exact ⟨blank, decorates, ends⟩
  · rintro ⟨blank, decorates, ends⟩
    exact ⟨blank, decorates, ends, blank, trivial⟩

/-- Cleaning may do its work at the beginning first. -/
theorem cleanName_eq_peelEnd (text : List Char) :
    cleanName text = peelEnd endKinds (peelStart startKinds text) := by
  simp only [cleanName, trim, trimStart, trimEnd, peelEnd, peelStart, endKinds, startKinds,
    List.foldl_cons, List.foldl_nil, dropStart_dropEnd_comm]

/-- Cleaning may do its work at the end first. -/
theorem cleanName_eq_peelStart (text : List Char) :
    cleanName text = peelStart startKinds (peelEnd endKinds text) := by
  simp only [cleanName, trim, trimStart, trimEnd, peelEnd, peelStart, endKinds, startKinds,
    List.foldl_cons, List.foldl_nil, dropStart_dropEnd_comm]

/-- Names in which nothing is left to be cleaned. -/
structure FullyClean (name : List Char) : Prop where
  something : name ≠ []
  fixed : cleanName name = name
  first : ∀ c ∈ name.head?, isBlank c = false ∧ decoratesName c = false
  last : ∀ c ∈ name.getLast?, isBlank c = false ∧ decoratesName c = false ∧ endsName c = false

/-- A name is fully clean if its ends are. -/
theorem fullyClean_iff {name : List Char} (something : name ≠ []) :
    FullyClean name ↔
      (∀ c ∈ name.head?, isAnyOf startKinds c = false) ∧
        ∀ c ∈ name.getLast?, isAnyOf endKinds c = false := by
  simp only [isAnyOf_startKinds, isAnyOf_endKinds]
  constructor
  · intro clean
    exact ⟨clean.first, clean.last⟩
  · rintro ⟨first, last⟩
    have whole : trim name = name := by
      have early : dropStart isBlank name = name :=
        dropStart_eq_self_iff.mpr fun c mem => (first c mem).1
      have late : dropEnd isBlank name = name :=
        dropEnd_eq_self_iff.mpr fun c mem => (last c mem).1
      rw [trim, trimStart, early, trimEnd, late]
    have fixed := (cleanName_eq_self_iff name).mpr
      ⟨whole, fun c mem => (first c mem).2, fun c mem => (last c mem).2⟩
    exact ⟨something, fixed, first, last⟩

/-- Texts around which all that does not belong to a name stands in order. -/
structure Peelable (text : List Char) : Prop where
  start : InOrder startKinds text
  finish : InOrder endKinds text.reverse

instance (text : List Char) : Decidable (Peelable text) :=
  decidable_of_iff (InOrder startKinds text ∧ InOrder endKinds text.reverse)
    ⟨fun h => ⟨h.1, h.2⟩, fun h => ⟨h.start, h.finish⟩⟩

/-- **A name comes out clean exactly if what is around it stands in order.** -/
theorem fullyClean_cleanName_iff {text : List Char} (something : cleanName text ≠ []) :
    FullyClean (cleanName text) ↔ Peelable text := by
  have first : (cleanName text).head? = (peelStart startKinds text).head? := by
    obtain ⟨rest, whole⟩ := peelEnd_prefix endKinds (peelStart startKinds text)
    rw [← cleanName_eq_peelEnd] at whole
    rw [← whole, List.head?_append_of_ne_nil _ something]
  have last : (cleanName text).getLast? = (peelStart endKinds text.reverse).head? := by
    obtain ⟨rest, whole⟩ := peelStart_suffix startKinds (peelEnd endKinds text)
    rw [← cleanName_eq_peelStart, peelEnd_eq_reverse] at whole
    rw [← List.getLast?_reverse, ← whole, List.getLast?_append_of_ne_nil _ something]
  rw [fullyClean_iff something, first, last, head?_peelStart_iff, head?_peelStart_iff]
  exact ⟨fun h => ⟨h.1, h.2⟩, fun h => ⟨h.start, h.finish⟩⟩

/-! ### The name of an action -/

/-- What the name of a tool is read from: the first line of an action, or that up to a bracket. -/
def nameText (body : List Char) (input : Option (List Char)) : List Char :=
  let line := (firstLine (trim body)).1
  match input with
  | some _ => line
  | none => ((shorthand? line).map Prod.fst).getD line

theorem toolAndInput_fst (body : List Char) (input : Option (List Char)) :
    (toolAndInput body input).1 = cleanName (nameText body input) := by
  unfold toolAndInput nameText
  cases input with
  | some given => dsimp only
  | none =>
    dsimp only
    cases shorthand? (firstLine (trim body)).1 with
    | none => dsimp only [Option.map_none, Option.getD_none]
    | some parts => dsimp only [Option.map_some, Option.getD_some]

theorem trim_cleanName (text : List Char) : trim (cleanName text) = cleanName text := trim_trim _

/--
**When the name of a tool is clean.**  The name that a reply uses is never empty, and has no
blanks around it.  It is fully clean exactly if what stands around it in the reply is written
in the order in which it is taken off.
-/
theorem tool_clean_iff {reply thought tool input : String}
    (said : decision reply = .ok (.act thought tool input)) :
    ∃ body, (outline reply.toList).find? .action = some body ∧
      tool.toList = cleanName (nameText body ((outline reply.toList).find? .actionInput)) ∧
      tool ≠ "" ∧ trim tool.toList = tool.toList ∧
      (FullyClean tool.toList ↔
        Peelable (nameText body ((outline reply.toList).find? .actionInput))) := by
  obtain ⟨named, -, body, acts, call⟩ :=
    (decision_eq_act_iff (outline reply.toList) tool input).mp ⟨thought, said⟩
  have read : tool.toList = cleanName (nameText body ((outline reply.toList).find? .actionInput)) := by
    rw [← toolAndInput_fst, call]
  have something : cleanName (nameText body ((outline reply.toList).find? .actionInput)) ≠ [] := by
    rw [← read, ne_eq, String.toList_eq_nil_iff]
    exact named
  refine ⟨body, acts, read, named, ?_, ?_⟩
  · rw [read, trim_cleanName]
  · rw [read, fullyClean_cleanName_iff something]

/-- A full stop inside the brackets around a name is taken off behind them. -/
theorem tool_clean_iff_enclosed :
    decision "Action: (look up.) \nAction Input: up" = .ok (.act "" "look up" "up") ∧
    FullyClean "look up".toList := by
  have said : decision "Action: (look up.) \nAction Input: up" = .ok (.act "" "look up" "up") := by
    decide +kernel
  obtain ⟨body, acts, -, -, -, clean⟩ := tool_clean_iff said
  obtain rfl : "(look up.) \n".toList = body := Option.some.inj acts
  exact ⟨said, clean.mpr (by decide)⟩

/-- A full stop behind a backquote is taken off, and then the backquote is left. -/
theorem not_tool_clean :
    ¬ ∀ reply thought tool input : String,
      decision reply = .ok (.act thought tool input) → FullyClean tool.toList := by
  intro claimed
  have said : decision "Action: `look`.\nAction Input: up" = .ok (.act "" "look`" "up") := by
    decide +kernel
  have clean := claimed _ _ _ _ said
  exact absurd (clean.last '`' rfl).2.1 (by decide)

end Draftsman.Reply
