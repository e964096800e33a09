/-
Replies whose headings are written in other letters.

When the letters of headings are replaced by others that count as the same, every heading
stays where it is and means what it meant, and the text below it stays the same, except for
remarks in an input.  What a heading begins may change only if it means an answer: with a long
s it begins an observation.  So the letters of a reply make no difference to what kind of
result it has exactly if none of its headings means an answer; if one does, then the reply
concludes when it is written with short letters, and does not when it is written with long ones.
-/
import Mathlib.Data.List.Forall2
import Draftsman.Reply.Decision
import Draftsman.Proofs.Reply.Letters

namespace Draftsman.Reply

open Draftsman.Text

/-! ### Lines with other letters -/

/-- Lines stay lines if every character is replaced by another, and line feeds are kept. -/
theorem wholeLines_map {f : Char → Char} (ends : ∀ c, f c = '\n' ↔ c = '\n') (text : List Char) :
    wholeLines (text.map f) = (wholeLines text).map (List.map f) := by
  have whole : ∀ {line : List Char}, '\n' ∉ line → '\n' ∉ line.map f := by
    intro line whole mem
    obtain ⟨c, mem, same⟩ := List.mem_map.mp mem
    exact whole ((ends c).mp same ▸ mem)
  induction text using byLines with
  | nil => rfl
  | last line some plain =>
    rw [wholeLines_last some plain, wholeLines_last (by simpa using some) (whole plain)]
    rfl
  | ended line rest plain ih =>
    rw [List.map_append, List.map_cons, (ends '\n').mpr rfl, wholeLines_ended (whole plain), ih,
      wholeLines_ended plain, List.map_cons, List.map_append, List.map_singleton,
      (ends '\n').mpr rfl]

/-- Lines that differ only in the letters of their heading, if they have one. -/
inductive Respelled : List Char → List Char → Prop
  | kept (line : List Char) : Respelled line line
  | heading {line : List Char} {h : Heading} {wording : List Char} (found : heading? line = some h)
      (alike : wording.map folded = h.wording.map folded) :
      Respelled line (h.decoration ++ wording ++ h.ending ++ h.rest)

theorem Respelled.map_eq {line other : List Char} (respelled : Respelled line other) :
    other.map folded = line.map folded := by
  cases respelled with
  | kept => rfl
  | heading found alike =>
    rw [← (heading?_append found).1]
    simp only [Heading.text, List.map_append, alike]

/-- The heading of a line with other letters stands where it stood. -/
theorem Respelled.heading? {line other : List Char} (respelled : Respelled line other) {h : Heading}
    (found : Reply.heading? line = some h) :
    ∃ h', Reply.heading? other = some h' ∧ h'.decoration = h.decoration ∧ h'.rest = h.rest := by
  cases respelled with
  | kept => exact ⟨h, found, rfl, rfl⟩
  | heading found' alike =>
    obtain rfl := Option.some.inj (found.symm.trans found')
    exact ⟨_, heading?_respelled found alike, rfl, rfl⟩

theorem Respelled.eq_of_none {line other : List Char} (respelled : Respelled line other)
    (none : Reply.heading? line = none) : other = line := by
  cases respelled with
  | kept => rfl
  | heading found alike =>
    rw [none] at found
    cases found

theorem map_folded_respelled {lines lines' : List (List Char)}
    (respelled : List.Forall₂ Respelled lines lines') :
    lines'.map (List.map folded) = lines.map (List.map folded) := by
  induction respelled with
  | nil => rfl
  | cons one _ ih => rw [List.map_cons, List.map_cons, one.map_eq, ih]

/-- Lines of a text that get other letters are still its lines. -/
theorem wholeLines_respelled {reply : List Char} {lines : List (List Char)}
    (respelled : List.Forall₂ Respelled (wholeLines reply) lines) :
    wholeLines lines.flatten = lines := by
  have ends : ∀ c, folded c = '\n' ↔ c = '\n' := folded_eq_iff rfl rfl
  have same := map_folded_respelled respelled
  -- The lines of the new text are folded to the same as those of the old one.
  have lines_eq :
      (wholeLines lines.flatten).map (List.map folded) = lines.map (List.map folded) := by
    rw [← wholeLines_map ends, List.map_flatten, same, ← List.map_flatten, wholeLines_flatten,
      wholeLines_map ends]
  have lengths := congrArg (List.map List.length) lines_eq
  simp only [List.map_map, Function.comp_def, List.length_map] at lengths
  rw [List.eq_iff_flatten_eq]
  exact ⟨wholeLines_flatten _, lengths⟩

/-! ### Sections below headings with other letters -/

/-- What a section keeps of another one when headings get other letters. -/
structure Section.Respells (s' s : Section) : Prop where
  meant : meant? s'.heading = meant? s.heading
  /-- Nothing but an answer gets another label. -/
  label : meant? s.heading ≠ some .finalAnswer → s'.label = s.label
  /-- Nothing but an input, in which there may be remarks, gets another body. -/
  body : s.label ≠ .actionInput → s'.body = s.body

/-- The sections are where they were, and below other headings than that of an input there is
the same text as before. -/
theorem outlineLines_respelled {lines lines' : List (List Char)}
    (respelled : List.Forall₂ Respelled lines lines') (inInput : Bool) :
    (inInput = false →
      (outlineLines inInput lines').preamble = (outlineLines inInput lines).preamble) ∧
    List.Forall₂ (fun s s' => s'.Respells s) (outlineLines inInput lines).sections
      (outlineLines inInput lines').sections := by
  induction respelled generalizing inInput with
  | nil => exact ⟨fun _ => rfl, .nil⟩
  | @cons line line' rest rest' one _ ih =>
    cases found : heading? line with
    | none =>
      have plain : headingIn? inInput line = none := by rw [headingIn?, found]; rfl
      obtain rfl := one.eq_of_none found
      rw [outlineLines_cons_none _ plain, outlineLines_cons_none _ plain]
      exact ⟨fun outside => by rw [(ih inInput).1 outside], (ih inInput).2⟩
    | some h =>
      obtain ⟨h', found', decoration, behind⟩ := one.heading? found
      have remark : h'.isRemark = h.isRemark := by
        rw [Heading.isRemark, decoration, Heading.isRemark]
      by_cases hidden : (inInput && h.isRemark) = true
      · -- In the input of an action both lines are remarks.
        have plain : headingIn? inInput line = none := by
          rw [headingIn?, found, Option.filter_some, hidden]
          rfl
        have plain' : headingIn? inInput line' = none := by
          rw [headingIn?, found', Option.filter_some, remark, hidden]
          rfl
        rw [outlineLines_cons_none _ plain, outlineLines_cons_none _ plain']
        refine ⟨fun outside => ?_, (ih inInput).2⟩
        rw [outside] at hidden
        cases hidden
      · rw [Bool.not_eq_true] at hidden
        have here : headingIn? inInput line = some h := by
          rw [headingIn?, found, Option.filter_some, hidden]
          rfl
        have here' : headingIn? inInput line' = some h' := by
          rw [headingIn?, found', Option.filter_some, remark, hidden]
          rfl
        obtain ⟨label, input⟩ := label_of_folded one.map_eq.symm found found'
        have next : decide (h'.label = .actionInput) = decide (h.label = .actionInput) :=
          decide_eq_decide.mpr input
        have below := ih (h.label = .actionInput)
        rw [outlineLines_cons_some _ here, outlineLines_cons_some _ here', next]
        refine ⟨fun _ => rfl, .cons ⟨?_, ?_, ?_⟩ below.2⟩
        · rw [meant?_text found', meant?_text found, meant?_of_folded one.map_eq]
        · rw [meant?_text found]
          exact label
        · intro other
          have outside : (decide (h.label = .actionInput)) = false := by simpa using other
          rw [behind, below.1 outside]

/-- Every section begins with the heading of a line. -/
theorem exists_heading_of_mem {inInput : Bool} {lines : List (List Char)} :
    ∀ s ∈ (outlineLines inInput lines).sections,
      ∃ line ∈ lines, ∃ h, heading? line = some h ∧ s.label = h.label ∧ s.heading = h.text := by
  induction lines generalizing inInput with
  | nil => exact nofun
  | cons line rest ih =>
    have below : ∀ inInput, ∀ s ∈ (outlineLines inInput rest).sections, ∃ other ∈ line :: rest, ∃ h,
        heading? other = some h ∧ s.label = h.label ∧ s.heading = h.text := by
      intro inInput s mem
      obtain ⟨other, among, same⟩ := ih s mem
      exact ⟨other, List.mem_cons_of_mem _ among, same⟩
    cases found : headingIn? inInput line with
    | none =>
      rw [outlineLines_cons_none rest found]
      exact below inInput
    | some h =>
      rw [outlineLines_cons_some rest found]
      have first := (Option.filter_eq_some_iff.mp found).1
      exact List.forall_mem_cons.mpr ⟨⟨line, List.mem_cons_self, h, first, rfl, rfl⟩, below _⟩

/-! ### The kind of a result -/

/-- Whether a decision is to conclude. -/
def Decision.isFinal : Decision → Bool
  | .act .. => false
  | .conclude .. => true

/-- What kind of decision a reply makes, or why it decides nothing. -/
def Outline.kind (o : Outline) : Except Fault Bool := o.decision.map Decision.isFinal

theorem toolAndInput_fst_congr (body : List Char) {input other : Option (List Char)}
    (same : input.isSome = other.isSome) :
    (toolAndInput body input).1 = (toolAndInput body other).1 := by
  cases input <;> cases other
  · rfl
  · cases same
  · cases same
  · rfl

theorem Outline.kind_eq (o : Outline) :
    o.kind =
      match o.find? .finalAnswer with
      | some body => if (trim body).isEmpty then .error .emptyAnswer else .ok true
      | none =>
        match o.find? .action with
        | none => .error .noMarker
        | some body =>
          if (toolAndInput body (o.find? .actionInput)).1.isEmpty then .error .emptyAction
          else .ok false := by
  unfold kind decision
  cases o.find? .finalAnswer with
  | some body =>
    dsimp only
    split <;> rfl
  | none =>
    cases o.find? .action with
    | none => rfl
    | some body =>
      dsimp only
      split <;> rfl

/-- A reply concludes, or tries to, if it has an answer. -/
theorem Outline.kind_concludes_iff (o : Outline) :
    o.kind = .ok true ∨ o.kind = .error .emptyAnswer ↔ .finalAnswer ∈ o.labels := by
  rw [← Outline.find?_isSome, o.kind_eq]
  cases o.find? .finalAnswer with
  | some body =>
    dsimp only
    split <;> simp
  | none =>
    dsimp only
    split
    · simp
    · split <;> simp

/-- Outlines whose sections differ in nothing but what is given as an input. -/
abbrev SameButInputs (o o' : Outline) : Prop :=
  List.Forall₂ (fun s s' : Section => s'.label = s.label ∧
    (s.label ≠ .actionInput → s'.body = s.body)) o.sections o'.sections

theorem labels_of_sameButInputs {o o' : Outline} (same : SameButInputs o o') :
    o'.labels = o.labels := by
  obtain ⟨preamble, sections⟩ := o
  obtain ⟨preamble', sections'⟩ := o'
  unfold Outline.labels
  unfold SameButInputs at same
  dsimp only at same ⊢
  induction same with
  | nil => rfl
  | cons one _ ih => rw [List.map_cons, List.map_cons, one.1, ih]

theorem find?_of_sameButInputs {o o' : Outline} (same : SameButInputs o o') {label : Label}
    (other : label ≠ .actionInput) : o'.find? label = o.find? label := by
  obtain ⟨preamble, sections⟩ := o
  obtain ⟨preamble', sections'⟩ := o'
  unfold Outline.find?
  unfold SameButInputs at same
  dsimp only at same ⊢
  induction same with
  | nil => rfl
  | @cons s s' _ _ one _ ih =>
    rw [List.find?_cons, List.find?_cons, one.1]
    cases here : s.label == label with
    | true =>
      have body := one.2 (beq_iff_eq.mp here ▸ other)
      simp [body]
    | false => exact ih

/-- What is given as an input makes no difference to the kind, as long as something is. -/
theorem kind_of_sameButInputs {o o' : Outline} (same : SameButInputs o o') : o'.kind = o.kind := by
  have given : (o'.find? .actionInput).isSome = (o.find? .actionInput).isSome := by
    rw [Bool.eq_iff_iff, Outline.find?_isSome, Outline.find?_isSome, labels_of_sameButInputs same]
  have answer : o'.find? .finalAnswer = o.find? .finalAnswer := find?_of_sameButInputs same nofun
  have action : o'.find? .action = o.find? .action := find?_of_sameButInputs same nofun
  rw [Outline.kind_eq, Outline.kind_eq, answer, action]
  simp only [toolAndInput_fst_congr _ given]

/-! ### All letters of all headings -/

/-- A line with the letters of its heading replaced. -/
def respell (f : Char → Char) (line : List Char) : List Char :=
  match heading? line with
  | some h => h.decoration ++ h.wording.map f ++ h.ending ++ h.rest
  | none => line

section Respell

variable {f : Char → Char} (alike : ∀ c, folded (f c) = folded c)

include alike

theorem map_folded_map (wording : List Char) :
    (wording.map f).map folded = wording.map folded := by
  rw [List.map_map]
  exact List.map_congr_left fun c _ => alike c

theorem respelled_respell (line : List Char) : Respelled line (respell f line) := by
  unfold respell
  cases found : heading? line with
  | none => exact .kept line
  | some h => exact .heading found (map_folded_map alike h.wording)

theorem forall₂_respell (lines : List (List Char)) :
    List.Forall₂ Respelled lines (lines.map (respell f)) := by
  rw [List.forall₂_map_right_iff, List.forall₂_same]
  exact fun line _ => respelled_respell alike line

/-- The heading of a section has only letters that the replacement has made. -/
theorem exists_respelled_of_mem {inInput : Bool} {lines : List (List Char)} :
    ∀ s ∈ (outlineLines inInput (lines.map (respell f))).sections,
      ∃ (line : List Char) (h : Heading) (label : Label) (before : List Char),
        meant? s.heading = some label ∧ s.label = h.label ∧ h.wording = before.map f ∧
        headingWith? line label.wording = some h := by
  intro s mem
  obtain ⟨line, among, h, found, labelled, same⟩ := exists_heading_of_mem s mem
  obtain ⟨line, -, rfl⟩ := List.mem_map.mp among
  obtain ⟨label, meant, read⟩ := exists_meant found
  rw [← meant?_text found, ← same] at meant
  unfold respell at found read
  cases old : heading? line with
  | none =>
    rw [old] at found
    cases old.symm.trans found
  | some h₀ =>
    rw [old] at found read
    have new := heading?_respelled old (map_folded_map alike h₀.wording)
    obtain rfl := Option.some.inj (new.symm.trans found)
    exact ⟨_, _, label, h₀.wording, meant, labelled, rfl, read⟩

end Respell

/-- A long s as a short one. -/
def shortened (c : Char) : Char := if c = 'ſ' then 's' else c

/-- Every s as a long one. -/
def lengthened (c : Char) : Char := if folded c = 's' then 'ſ' else c

theorem folded_shortened (c : Char) : folded (shortened c) = folded c := by
  unfold shortened
  split
  · rename_i long
    rw [long]
    rfl
  · rfl

theorem folded_lengthened (c : Char) : folded (lengthened c) = folded c := by
  unfold lengthened
  split
  · rename_i same
    rw [same]
    rfl
  · rfl

/-- With short letters every heading has the label that is meant. -/
theorem label_shortened {inInput : Bool} {lines : List (List Char)} :
    ∀ s ∈ (outlineLines inInput (lines.map (respell shortened))).sections,
      meant? s.heading = some s.label := by
  intro s mem
  obtain ⟨line, h, label, before, meant, same, wording, read⟩ :=
    exists_respelled_of_mem folded_shortened s mem
  have short : 'ſ' ∉ h.wording := by
    rw [wording, List.mem_map]
    rintro ⟨c, -, long⟩
    unfold shortened at long
    split at long
    · cases long
    · rename_i other
      exact other long
  rw [meant, same, label_of_short read short]

/-- With long letters no heading has the label of an answer. -/
theorem label_lengthened {inInput : Bool} {lines : List (List Char)} :
    ∀ s ∈ (outlineLines inInput (lines.map (respell lengthened))).sections,
      s.label ≠ .finalAnswer := by
  intro s mem answer
  obtain ⟨line, h, label, before, -, same, wording, read⟩ :=
    exists_respelled_of_mem folded_lengthened s mem
  have labelled := label_eq read
  rw [← same, answer] at labelled
  split at labelled
  · cases labelled
  · rename_i other
    subst labelled
    -- The wording of an answer has an s, which the replacement has made long.
    have inside : 's' ∈ (Text.words (h.wording.map folded)).flatten := by
      rw [words_of_headingWith? read]
      decide
    rw [words_flatten, List.mem_filter, List.mem_map] at inside
    obtain ⟨⟨c, mem, small⟩, -⟩ := inside
    rw [wording, List.mem_map] at mem
    obtain ⟨d, mem, rfl⟩ := mem
    rw [folded_lengthened] at small
    refine other ⟨rfl, ?_⟩
    rw [wording, List.mem_map]
    exact ⟨d, mem, if_pos small⟩

/-! ### Replies whose headings get other letters -/

/-- Replies that differ only in the letters of their headings. -/
def SameButLetters (reply other : String) : Prop :=
  List.Forall₂ Respelled (wholeLines reply.toList) (wholeLines other.toList)

/-- If no heading means an answer, then all labels stay as they are. -/
theorem kind_of_unanswered {reply other : String} (same : SameButLetters reply other)
    (unanswered : ∀ s ∈ (outline reply.toList).sections, meant? s.heading ≠ some .finalAnswer) :
    (outline other.toList).kind = (outline reply.toList).kind := by
  have all := (outlineLines_respelled same false).2
  have both := (List.forall₂_and_left _ _).mpr ⟨unanswered, all⟩
  refine kind_of_sameButInputs (List.Forall₂.imp ?_ both)
  rintro s s' ⟨other, respells⟩
  exact ⟨respells.label other, respells.body⟩

/-- A reply whose headings get other letters. -/
def respelled (f : Char → Char) (reply : String) : String :=
  String.ofList ((wholeLines reply.toList).map (respell f)).flatten

theorem wholeLines_respelled_toList {f : Char → Char} (alike : ∀ c, folded (f c) = folded c)
    (reply : String) :
    wholeLines (respelled f reply).toList = (wholeLines reply.toList).map (respell f) := by
  rw [respelled, String.toList_ofList]
  exact wholeLines_respelled (forall₂_respell alike _)

theorem sameButLetters_respelled {f : Char → Char} (alike : ∀ c, folded (f c) = folded c)
    (reply : String) : SameButLetters reply (respelled f reply) := by
  rw [SameButLetters, wholeLines_respelled_toList alike]
  exact forall₂_respell alike _

theorem exists_of_mem_of_forall₂ {α β : Type} {R : α → β → Prop} {as : List α} {bs : List β}
    (all : List.Forall₂ R as bs) {a : α} (mem : a ∈ as) : ∃ b ∈ bs, R a b := by
  induction all with
  | nil => cases mem
  | cons one _ ih =>
    rcases List.mem_cons.mp mem with rfl | below
    · exact ⟨_, List.mem_cons_self, one⟩
    · obtain ⟨b, among, related⟩ := ih below
      exact ⟨b, List.mem_cons_of_mem _ among, related⟩

/-- With short letters a heading that means an answer begins one. -/
theorem mem_labels_shortened {reply : String} {s : Section}
    (mem : s ∈ (outline reply.toList).sections) (answer : meant? s.heading = some .finalAnswer) :
    .finalAnswer ∈ (outline (respelled shortened reply).toList).labels := by
  have all := (outlineLines_respelled (sameButLetters_respelled folded_shortened reply) false).2
  obtain ⟨s', mem', respells⟩ := exists_of_mem_of_forall₂ all mem
  have labelled := label_shortened s' (by rwa [← wholeLines_respelled_toList folded_shortened])
  rw [respells.meant, answer, Option.some.injEq] at labelled
  exact List.mem_map.mpr ⟨s', mem', labelled.symm⟩

/-- With long letters no heading begins an answer. -/
theorem not_mem_labels_lengthened (reply : String) :
    .finalAnswer ∉ (outline (respelled lengthened reply).toList).labels := by
  intro mem
  obtain ⟨s, mem, answer⟩ := List.mem_map.mp mem
  rw [outline, wholeLines_respelled_toList folded_lengthened] at mem
  exact label_lengthened s mem answer

/--
**What the letters of a heading decide.**  A heading has the label that is meant, in whatever
case it is written, unless it means an answer and has a long s; then it passes for an
observation.  So the letters of a reply make no difference to the kind of its result exactly
if none of its headings means an answer.
-/
theorem letters_immaterial_iff (reply : String) :
    (∀ line ∈ wholeLines reply.toList, ∀ h, heading? line = some h →
      ∃ label, meant? line = some label ∧ headingWith? line label.wording = some h ∧
        (h.label = label ∨ h.label = .observation) ∧
        (h.label = label ↔ ¬ (label = .finalAnswer ∧ 'ſ' ∈ h.wording))) ∧
    ((∀ other, SameButLetters reply other →
        (decision other).map Decision.isFinal = (decision reply).map Decision.isFinal) ↔
      ∀ s ∈ (outline reply.toList).sections, meant? s.heading ≠ some .finalAnswer) := by
  refine ⟨fun line _ h found => ?_, fun kept s mem answer => ?_, fun unanswered other same => ?_⟩
  · obtain ⟨label, meant, read⟩ := exists_meant found
    refine ⟨label, meant, read, ?_, ?_⟩
    · rw [label_eq read]
      split
      · exact .inr rfl
      · exact .inl rfl
    · rw [label_eq read]
      split
      · rename_i long
        refine iff_of_false ?_ (not_not_intro long)
        rw [long.1]
        exact nofun
      · rename_i short
        exact iff_of_true rfl short
  · -- With short letters the reply concludes, with long ones it does not.
    have short : (outline (respelled shortened reply).toList).kind = (outline reply.toList).kind :=
      kept _ (sameButLetters_respelled folded_shortened reply)
    have long : (outline (respelled lengthened reply).toList).kind = (outline reply.toList).kind :=
      kept _ (sameButLetters_respelled folded_lengthened reply)
    have concludes := (Outline.kind_concludes_iff _).mpr (mem_labels_shortened mem answer)
    rw [short, ← long, Outline.kind_concludes_iff] at concludes
    exact not_mem_labels_lengthened reply concludes
  · exact kind_of_unanswered same unanswered

/-- A remark in an input may be written in any letters, even if it looks like an answer. -/
theorem letters_immaterial_iff_remark :
    "# Final Anſwer: 42".toList ∈
        wholeLines "ACTION: look\n_action  INPUT_:\n# Final Anſwer: 42".toList ∧
    heading? "# Final Anſwer: 42".toList
      = some ⟨"# ".toList, "Final Anſwer".toList, ": ".toList, "42".toList⟩ ∧
    meant? "# Final Anſwer: 42".toList = some .finalAnswer ∧
    Heading.label ⟨"# ".toList, "Final Anſwer".toList, ": ".toList, "42".toList⟩ = .observation ∧
    ∀ other, SameButLetters "ACTION: look\n_action  INPUT_:\n# Final Anſwer: 42" other →
      (decision other).map Decision.isFinal = .ok false := by
  have mem : "# Final Anſwer: 42".toList ∈
      wholeLines "ACTION: look\n_action  INPUT_:\n# Final Anſwer: 42".toList := by decide
  have found : heading? "# Final Anſwer: 42".toList
      = some ⟨"# ".toList, "Final Anſwer".toList, ": ".toList, "42".toList⟩ := by decide
  obtain ⟨labels, kinds⟩ :=
    letters_immaterial_iff "ACTION: look\n_action  INPUT_:\n# Final Anſwer: 42"
  obtain ⟨label, meant, -, either, iff⟩ := labels _ mem _ found
  have answer : meant? "# Final Anſwer: 42".toList = some .finalAnswer := by decide
  obtain rfl := Option.some.inj (answer.symm.trans meant)
  have misread := either.resolve_left fun same => iff.mp same ⟨rfl, by decide⟩
  have act : (decision "ACTION: look\n_action  INPUT_:\n# Final Anſwer: 42").map Decision.isFinal
      = .ok false := by decide +kernel
  have unanswered : ∀ s ∈ (outline
      "ACTION: look\n_action  INPUT_:\n# Final Anſwer: 42".toList).sections,
      meant? s.heading ≠ some .finalAnswer := by decide
  exact ⟨mem, found, answer, misread, fun other same => (kinds.mpr unanswered other same).trans act⟩

/-- An answer below a heading with a long s is read as an observation, and is therefore lost. -/
theorem not_letters_immaterial :
    (¬ ∀ (line : List Char) (h : Heading), heading? line = some h → meant? line = some h.label) ∧
    ¬ ∀ reply other, SameButLetters reply other →
      (decision other).map Decision.isFinal = (decision reply).map Decision.isFinal := by
  constructor
  · intro claimed
    have found : heading? "Final Anſwer: 42".toList
        = some ⟨[], "Final Anſwer".toList, ": ".toList, "42".toList⟩ := by decide
    exact absurd (claimed _ _ found) (by decide)
  · intro claimed
    have same : SameButLetters "Final Answer: 42" (respelled lengthened "Final Answer: 42") :=
      sameButLetters_respelled folded_lengthened _
    have kinds := claimed _ _ same
    exact absurd kinds (by decide +kernel)

end Draftsman.Reply
