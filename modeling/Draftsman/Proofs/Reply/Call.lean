/-
The call that a reply makes, and where its input comes from.

A reply may hold any number of actions and inputs.  The first action counts, and the
sections behind it, up to the next action, are its own (`Outline.own`).  The input is looked
up for itself, though: the first one of the whole reply counts, wherever it stands.  So an
action receives its own input exactly if no input stands before it, and none behind the
next action while its own sections have none (`Outline.InputInPlace`).
-/
import Draftsman.Reply.Decision
import Draftsman.Proofs.Reply.Section

namespace Draftsman.Reply

/-! ### The call of an outline -/

/-- The call of an outline, whatever its thought. -/
theorem decision_eq_act_iff (o : Outline) (tool input : String) :
    (∃ thought, o.decision = .ok (.act thought tool input)) ↔
      tool ≠ "" ∧ o.find? .finalAnswer = none ∧
        ∃ body, o.find? .action = some body ∧
          toolAndInput body (o.find? .actionInput) = (tool.toList, input.toList) := by
  unfold Outline.decision
  cases o.find? .finalAnswer with
  | some answer =>
    refine iff_of_false ?_ nofun
    rintro ⟨thought, h⟩
    dsimp only at h
    split at h <;> cases h
  | none =>
    cases o.find? .action with
    | none =>
      refine iff_of_false ?_ nofun
      rintro ⟨thought, h⟩
      cases h
    | some body =>
      simp only [Option.some.injEq, exists_eq_left', true_and]
      generalize toolAndInput body (o.find? .actionInput) = call
      obtain ⟨name, text⟩ := call
      simp only [Prod.mk.injEq]
      constructor
      · rintro ⟨thought, h⟩
        split at h
        · cases h
        · rename_i named
          cases h
          rw [List.isEmpty_iff] at named
          refine ⟨?_, String.toList_ofList.symm, String.toList_ofList.symm⟩
          rwa [ne_eq, ← String.toList_eq_nil_iff, String.toList_ofList]
      · rintro ⟨named, rfl, rfl⟩
        have some : ¬ tool.toList.isEmpty = true := by
          rwa [List.isEmpty_iff, String.toList_eq_nil_iff]
        rw [if_neg some, String.ofList_toList, String.ofList_toList]
        exact ⟨_, rfl⟩

/-! ### The sections around the first action -/

namespace Outline

/-- The outline up to the first action. -/
def early (o : Outline) : Outline :=
  ⟨o.preamble, o.sections.takeWhile fun s => s.label != .action⟩

/-- The sections behind the first action. -/
def behind (o : Outline) : Outline :=
  ⟨[], (o.sections.dropWhile fun s => s.label != .action).tail⟩

/-- The sections that belong to the first action: those behind it and before the next one. -/
def own (o : Outline) : Outline := o.behind.early

/-- The sections from the second action on. -/
def late (o : Outline) : Outline :=
  ⟨[], o.behind.sections.dropWhile fun s => s.label != .action⟩

/--
The input that belongs to the first action: the first one among its own sections.  If there
is none, it is what the action itself says, in brackets or on the lines below its name.
-/
def ownInput (o : Outline) (body : List Char) : List Char :=
  match o.own.find? .actionInput with
  | some given => cleanInput given
  | none => (toolAndInput body none).2

/-- The first input that does not belong to the first action. -/
def strayInput? (o : Outline) : Option (List Char) :=
  (o.early.find? .actionInput).or (o.late.find? .actionInput)

/-- Whether the first input of a reply, if there is one, belongs to its first action. -/
structure InputInPlace (o : Outline) : Prop where
  /-- None stands before the action. -/
  early : .actionInput ∉ o.early.labels
  /-- None stands behind the next action only. -/
  late : .actionInput ∈ o.late.labels → .actionInput ∈ o.own.labels

/-- The sections are those before the first action, the action, its own and the late ones. -/
theorem sections_eq_around {o : Outline} {body : List Char} (acts : o.find? .action = some body) :
    ∃ action : Section, action.label = .action ∧
      o.sections = o.early.sections ++ action :: (o.own.sections ++ o.late.sections) := by
  obtain ⟨before, action, after, split, named, -, others⟩ := exists_first acts
  have passed : ∀ s ∈ before, (s.label != .action) = true := by simpa using others
  have first : o.early.sections = before := by
    rw [early, split, List.takeWhile_append_of_pos passed]
    simp [named]
  have rest : o.own.sections ++ o.late.sections = after := by
    have tail : o.behind.sections = after := by
      rw [behind, split, List.dropWhile_append_of_pos passed]
      simp [named]
    rw [own, early, late, tail]
    exact List.takeWhile_append_dropWhile
  exact ⟨action, named, by rw [first, rest, split]⟩

/-- The first input of a reply stands before its first action, among its sections, or behind. -/
theorem find?_input_around {o : Outline} {body : List Char} (acts : o.find? .action = some body) :
    o.find? .actionInput = (o.early.find? .actionInput).or
      ((o.own.find? .actionInput).or (o.late.find? .actionInput)) := by
  obtain ⟨action, named, around⟩ := sections_eq_around acts
  unfold find?
  rw [around, List.find?_append, List.find?_cons_of_neg (by simp [named]), List.find?_append,
    Option.map_or, Option.map_or]

theorem find?_eq_none_iff (o : Outline) (label : Label) :
    o.find? label = none ↔ label ∉ o.labels := by
  rw [← find?_isSome, Option.not_isSome_iff_eq_none]

/-- The input that is found is the action's own if it is in place. -/
theorem InputInPlace.find?_eq {o : Outline} {body : List Char} (inPlace : o.InputInPlace)
    (acts : o.find? .action = some body) :
    o.find? .actionInput = o.own.find? .actionInput := by
  rw [find?_input_around acts, (find?_eq_none_iff _ _).mpr inPlace.early, Option.none_or]
  cases own : o.own.find? .actionInput with
  | some given => rfl
  | none =>
    have absent : .actionInput ∉ o.late.labels := fun mem =>
      (find?_eq_none_iff _ _).mp own (inPlace.late mem)
    rw [(find?_eq_none_iff _ _).mpr absent, Option.none_or]

/-- The input that is found belongs to no action, or to another one, if it is not in place. -/
theorem exists_strayInput? {o : Outline} {body : List Char} (astray : ¬ o.InputInPlace)
    (acts : o.find? .action = some body) :
    ∃ stray, o.strayInput? = some stray ∧ o.find? .actionInput = some stray := by
  rw [find?_input_around acts, strayInput?]
  cases early : o.early.find? .actionInput with
  | some stray => exact ⟨stray, rfl, rfl⟩
  | none =>
    have none_early := (find?_eq_none_iff _ _).mp early
    cases late : o.late.find? .actionInput with
    | none =>
      have none_late := (find?_eq_none_iff _ _).mp late
      exact absurd ⟨none_early, fun mem => absurd mem none_late⟩ astray
    | some stray =>
      cases own : o.own.find? .actionInput with
      | none => exact ⟨stray, rfl, rfl⟩
      | some given =>
        have mem : .actionInput ∈ o.own.labels := by
          rw [← find?_isSome, own]
          rfl
        exact absurd ⟨none_early, fun _ => mem⟩ astray

end Outline

/-! ### The input that is received -/

/--
**When an action receives its own input.**  Of a reply that uses a tool the input is the
action's own if no input stands before the action, and none stands behind the next action
while the action's own sections have none.  Otherwise it is the first input that does not
belong to the action, and only by chance the text that the action should have received.
-/
theorem input_own_iff {reply thought tool input : String}
    (said : decision reply = .ok (.act thought tool input)) :
    ∃ body, (outline reply.toList).find? .action = some body ∧
      (input.toList = (outline reply.toList).ownInput body ↔
        (outline reply.toList).InputInPlace ∨
          ∃ stray, (outline reply.toList).strayInput? = some stray ∧
            cleanInput stray = (outline reply.toList).ownInput body) ∧
      (¬ (outline reply.toList).InputInPlace →
        ∃ stray, (outline reply.toList).strayInput? = some stray ∧
          input.toList = cleanInput stray) := by
  obtain ⟨-, -, body, acts, call⟩ :=
    (decision_eq_act_iff (outline reply.toList) tool input).mp ⟨thought, said⟩
  have received : input.toList
      = (toolAndInput body ((outline reply.toList).find? .actionInput)).2 := by rw [call]
  have astray : ¬ (outline reply.toList).InputInPlace →
      ∃ stray, (outline reply.toList).strayInput? = some stray ∧
        input.toList = cleanInput stray := by
    intro astray
    obtain ⟨stray, found, counts⟩ := Outline.exists_strayInput? astray acts
    exact ⟨stray, found, by rw [received, counts]; rfl⟩
  refine ⟨body, acts, ?_, astray⟩
  by_cases inPlace : (outline reply.toList).InputInPlace
  · refine iff_of_true ?_ (Or.inl inPlace)
    rw [received, inPlace.find?_eq acts, Outline.ownInput]
    cases (outline reply.toList).own.find? .actionInput <;> rfl
  · obtain ⟨stray, found, same⟩ := astray inPlace
    simp [inPlace, found, same]

/-- Two calls in one reply, each with its input. -/
def twoCalls : String :=
  "Action: look\nThought: up\nAction Input: up\nAction: feed\nAction Input: milk"

/-- Of two calls the first one is made, with its own input. -/
theorem input_own_iff_look :
    decision twoCalls = .ok (.act "up" "look" "up") ∧
    ∃ body, (outline twoCalls.toList).find? .action = some body ∧
      "up".toList = (outline twoCalls.toList).ownInput body := by
  have said : decision twoCalls = .ok (.act "up" "look" "up") := rfl
  obtain ⟨body, acts, own, -⟩ := input_own_iff said
  refine ⟨said, body, acts, own.mpr (Or.inl ⟨?_, ?_⟩)⟩
  · decide
  · decide

/-- An action without an input receives that of the next one. -/
theorem not_input_own :
    ¬ ∀ reply thought tool input : String, ∀ body : List Char,
      decision reply = .ok (.act thought tool input) →
      (outline reply.toList).find? .action = some body →
      input.toList = (outline reply.toList).ownInput body := by
  intro claimed
  have own := claimed "Action: look\nAction: feed\nAction Input: milk" "" "look" "milk"
    "look\n".toList rfl rfl
  exact absurd own (by decide)

end Draftsman.Reply
