/-
What becomes of the messages of a conversation.

Messages are taken one by one, and each of them either adds to what the model is told
beforehand or to the turns.  `Gathered` says what has become of the messages so far: which
piece of what was said each turn is made of.  In the end the pieces are the longest ones in
which only one side speaks, and nothing more is left to be put together.
-/
import Mathlib.Data.List.Forall2
import Mathlib.Data.List.Induction
import Mathlib.Data.List.SplitBy
import Draftsman.Provider.Conversation

namespace Draftsman

/-! ### What a conversation holds -/

/-- What the model is told beforehand. -/
def instructions (messages : List Message) : List Message :=
  messages.filter fun m => m.role = .system

/-- What the two sides say. -/
def spoken (messages : List Message) : List Message :=
  messages.filter fun m => m.role ≠ .system

/-- The longest pieces of what is said in which only one side speaks. -/
def runs (messages : List Message) : List (List Message) :=
  (spoken messages).splitBy fun a b => a.role == b.role

/-- The instructions, one below the other, if there are any. -/
def systemText (messages : List Message) : Option String :=
  if instructions messages = [] then none
  else some ("\n".intercalate ((instructions messages).map Message.content))

/-- What one side says in a turn: the messages of a piece, with an empty line between them. -/
structure Message.Joins (turn : Message) (piece : List Message) : Prop where
  role : ∀ m ∈ piece, m.role = turn.role
  content : turn.content = "\n\n".intercalate (piece.map Message.content)

theorem intercalate_concat {gap text : String} {texts : List String} (some_texts : texts ≠ []) :
    gap.intercalate (texts ++ [text]) = gap.intercalate texts ++ gap ++ text := by
  rw [String.intercalate_append_of_ne_nil some_texts (List.cons_ne_nil _ _),
    String.intercalate_singleton]

section Concat

variable {messages : List Message} {m : Message}

theorem instructions_concat (messages : List Message) (m : Message) :
    instructions (messages ++ [m])
      = instructions messages ++ (if m.role = .system then [m] else []) := by
  rw [instructions, List.filter_append, ← instructions]
  by_cases told : m.role = .system <;> simp [told]

theorem spoken_concat (messages : List Message) (m : Message) :
    spoken (messages ++ [m]) = spoken messages ++ (if m.role = .system then [] else [m]) := by
  rw [spoken, List.filter_append, ← spoken]
  by_cases told : m.role = .system <;> simp [told]

theorem systemText_told (told : m.role = .system) :
    systemText (messages ++ [m]) = addSystem m.content (systemText messages) := by
  unfold systemText
  rw [instructions_concat, if_pos told]
  by_cases none : instructions messages = []
  · simp [none, addSystem]
  · have some_texts : (instructions messages).map Message.content ≠ [] := by simpa using none
    simp [none, addSystem, intercalate_concat some_texts]

theorem systemText_said (said : m.role ≠ .system) :
    systemText (messages ++ [m]) = systemText messages := by
  unfold systemText
  rw [instructions_concat, if_neg said, List.append_nil]

end Concat

/-! ### Adding a message -/

section Add

variable {t : Turns} {m : Message}

theorem Turns.add_told (told : m.role = .system) :
    t.add m = { t with system := addSystem m.content t.system } := by
  rw [Turns.add, told]

theorem Turns.add_said (said : m.role ≠ .system) :
    t.add m = { t with turns := addTurn m t.turns } := by
  unfold Turns.add
  split
  · contradiction
  · rfl

end Add

/--
What has become of the messages so far.  The last turn stands first, and so does the last
one of the pieces that the turns are made of.
-/
structure Gathered (messages : List Message) (pieces : List (List Message)) (t : Turns) : Prop where
  system : t.system = systemText messages
  /-- Together the pieces are what was said. -/
  whole : pieces.reverse.flatten = spoken messages
  something : ∀ piece ∈ pieces, piece ≠ []
  joins : List.Forall₂ Message.Joins t.turns pieces
  sides : ∀ turn ∈ t.turns, turn.role ≠ .system
  /-- The sides take turns. -/
  apart : t.turns.IsChain fun later earlier => earlier.role ≠ later.role

section Gathered

variable {messages : List Message} {pieces : List (List Message)} {t : Turns} {m : Message}

theorem Gathered.start : Gathered [] [] ⟨none, []⟩ :=
  ⟨rfl, rfl, List.forall_mem_nil _, .nil, List.forall_mem_nil _, .nil⟩

/-- An instruction leaves the turns as they are. -/
theorem Gathered.tell (h : Gathered messages pieces t) (told : m.role = .system) :
    Gathered (messages ++ [m]) pieces (t.add m) := by
  rw [Turns.add_told told]
  refine ⟨?_, ?_, h.something, h.joins, h.sides, h.apart⟩
  · rw [systemText_told told, ← h.system]
  · rw [spoken_concat, if_pos told, List.append_nil, h.whole]

/-- One who goes on speaking adds to the last turn. -/
theorem Gathered.go_on {last : Message} {before : List Message} {piece : List Message}
    {others : List (List Message)} (h : Gathered messages (piece :: others) t)
    (turns : t.turns = last :: before) (said : m.role ≠ .system) (same : last.role = m.role) :
    Gathered (messages ++ [m]) ((piece ++ [m]) :: others) (t.add m) := by
  have joins := h.joins
  have sides := h.sides
  have apart := h.apart
  rw [turns] at joins sides apart
  obtain ⟨mine, theirs⟩ := List.forall₂_cons.mp joins
  have added : addTurn m t.turns = ⟨last.role, last.content ++ "\n\n" ++ m.content⟩ :: before := by
    rw [turns, addTurn, if_pos same]
  rw [Turns.add_said said, added]
  refine ⟨?_, ?_, ?_, .cons ⟨?_, ?_⟩ theirs, ?_, ?_⟩
  · rw [systemText_said said, ← h.system]
  · rw [spoken_concat, if_neg said, ← h.whole]
    simp
  · rw [List.forall_mem_cons]
    refine ⟨by simp, fun other mem => h.something other (List.mem_cons_of_mem _ mem)⟩
  · rw [List.forall_mem_append, List.forall_mem_singleton]
    exact ⟨mine.role, same.symm⟩
  · have some_texts : piece.map Message.content ≠ [] := by
      simpa using h.something piece List.mem_cons_self
    rw [List.map_append, List.map_singleton, intercalate_concat some_texts, ← mine.content]
  · rw [List.forall_mem_cons] at sides ⊢
    exact sides
  · rw [List.isChain_cons] at apart ⊢
    exact apart

/-- Another one who speaks begins a turn. -/
theorem Gathered.begin_turn (h : Gathered messages pieces t) (said : m.role ≠ .system)
    (other : ∀ last ∈ t.turns.head?, last.role ≠ m.role) :
    Gathered (messages ++ [m]) ([m] :: pieces) (t.add m) := by
  have added : addTurn m t.turns = m :: t.turns := by
    cases turns : t.turns with
    | nil => rfl
    | cons last before =>
      rw [turns] at other
      rw [addTurn, if_neg (other last rfl)]
  rw [Turns.add_said said, added]
  refine ⟨?_, ?_, ?_, .cons ⟨?_, ?_⟩ h.joins, ?_, ?_⟩
  · rw [systemText_said said, ← h.system]
  · rw [spoken_concat, if_neg said, ← h.whole]
    simp
  · exact List.forall_mem_cons.mpr ⟨List.cons_ne_nil m [], h.something⟩
  · exact List.forall_mem_singleton.mpr rfl
  · rw [List.map_singleton, String.intercalate_singleton]
  · exact List.forall_mem_cons.mpr ⟨said, h.sides⟩
  · exact List.isChain_cons.mpr ⟨other, h.apart⟩

/-- Whatever message comes next, it is gathered. -/
theorem Gathered.add (h : Gathered messages pieces t) (m : Message) :
    ∃ pieces, Gathered (messages ++ [m]) pieces (t.add m) := by
  by_cases told : m.role = .system
  · exact ⟨pieces, h.tell told⟩
  · cases turns : t.turns with
    | nil => exact ⟨_, h.begin_turn told (by simp [turns])⟩
    | cons last before =>
      by_cases same : last.role = m.role
      · obtain ⟨piece, others, -, -, rfl⟩ := List.forall₂_cons_left_iff.mp (turns ▸ h.joins)
        exact ⟨_, h.go_on turns told same⟩
      · exact ⟨_, h.begin_turn told (by simpa [turns] using same)⟩

/-- All messages of a conversation are gathered. -/
theorem gathered_foldl (messages : List Message) :
    ∃ pieces, Gathered messages pieces (messages.foldl Turns.add ⟨none, []⟩) := by
  induction messages using List.reverseRecOn with
  | nil => exact ⟨[], .start⟩
  | append_singleton messages m ih =>
    obtain ⟨pieces, h⟩ := ih
    rw [List.foldl_append]
    exact h.add m

end Gathered

/-! ### Pieces and runs -/

/-- A piece of one side is one run. -/
theorem Message.Joins.splitBy_eq {turn : Message} {piece : List Message} (joins : turn.Joins piece)
    (something : piece ≠ []) : piece.splitBy (fun a b => a.role == b.role) = [piece] := by
  refine List.splitBy_of_isChain something (List.Pairwise.isChain ?_)
  refine List.pairwise_of_forall_mem_list fun a mem b mem' => ?_
  rw [joins.role a mem, joins.role b mem', beq_self_eq_true]

/-- Pieces of alternate sides are the longest ones in which only one side speaks. -/
theorem splitBy_of_joins {turns : List Message} {pieces : List (List Message)}
    (joins : List.Forall₂ Message.Joins turns pieces) (something : ∀ piece ∈ pieces, piece ≠ [])
    (apart : turns.IsChain fun a b => a.role ≠ b.role) :
    pieces.flatten.splitBy (fun a b => a.role == b.role) = pieces := by
  induction joins with
  | nil => rfl
  | @cons turn piece turns pieces mine theirs ih =>
    rw [List.forall_mem_cons] at something
    rw [List.isChain_cons] at apart
    have between : ∀ a ∈ piece.getLast?, ∀ b ∈ pieces.flatten.head?,
        (a.role == b.role) = false := by
      intro a last b first
      cases theirs with
      | nil => cases first
      | @cons next other _ _ joins _ =>
        rw [List.flatten_cons, List.head?_append_of_ne_nil _ (something.2 other List.mem_cons_self)]
          at first
        rw [mine.role a (List.mem_of_mem_getLast? last), joins.role b (List.mem_of_mem_head? first)]
        simpa using apart.1 next rfl
    rw [List.flatten_cons, List.splitBy_append between, mine.splitBy_eq something.1,
      ih something.2 apart.2]
    rfl

/-! ### Nothing more to be put together -/

/-- Turns of alternate sides are not changed. -/
theorem ofMessages_alternate {turns : List Message} (sides : ∀ turn ∈ turns, turn.role ≠ .system)
    (apart : turns.IsChain fun a b => a.role ≠ b.role) :
    Turns.ofMessages turns = ⟨none, turns⟩ := by
  have entered : turns.foldl Turns.add ⟨none, []⟩ = ⟨none, turns.reverse⟩ := by
    induction turns using List.reverseRecOn with
    | nil => rfl
    | append_singleton turns last ih =>
      rw [List.forall_mem_append, List.forall_mem_singleton] at sides
      rw [List.isChain_append] at apart
      obtain ⟨before, -, differs⟩ := apart
      rw [List.foldl_append, ih sides.1 before, List.foldl_cons, List.foldl_nil,
        Turns.add_said sides.2, List.reverse_append]
      cases back : turns.reverse with
      | nil => rfl
      | cons m others =>
        have final : m ∈ turns.getLast? := by rw [← List.head?_reverse, back]; rfl
        rw [addTurn, if_neg (differs m final last rfl)]
        rfl
  rw [Turns.ofMessages, entered, List.reverse_reverse]

/-! ### What is sent -/

theorem Role.name_injective : Function.Injective Role.name := by
  intro a b
  cases a <;> cases b <;> decide

/-- No two messages are written alike. -/
theorem Message.toWire_injective : Function.Injective Message.toWire := by
  rintro ⟨role, content⟩ ⟨role', content'⟩ same
  simp only [Message.toWire, Json.Value.object.injEq, List.cons.injEq, Prod.mk.injEq,
    Json.Value.string.injEq, true_and, and_true] at same
  rw [Role.name_injective same.1, same.2]

/--
**Nothing is lost, moved or made up when messages are put together.**

The system messages are told beforehand, one below the other, if there are any.  What is left
of the conversation is cut into the longest pieces in which only one side speaks, and each
piece is a turn of that side with the texts of the piece, in their order.  So no turn is a
system message, the sides alternate, the turns are not changed when they are put together
again, and they can be told from what is sent.
-/
theorem ofMessages_gathers (messages : List Message) :
    let t := Turns.ofMessages messages
    t.system = systemText messages ∧
    List.Forall₂ Message.Joins t.turns (runs messages) ∧
    (∀ turn ∈ t.turns, turn.role ≠ .system) ∧
    t.turns.IsChain (fun a b => a.role ≠ b.role) ∧
    Turns.ofMessages t.turns = ⟨none, t.turns⟩ ∧
    ∀ turns : List Message, turns.map Message.toWire = t.turns.map Message.toWire →
      turns = t.turns := by
  intro t
  obtain ⟨pieces, h⟩ := gathered_foldl messages
  have sides : ∀ turn ∈ t.turns, turn.role ≠ .system := fun turn mem =>
    h.sides turn (List.mem_reverse.mp mem)
  have apart : t.turns.IsChain fun a b => a.role ≠ b.role := List.isChain_reverse.mpr h.apart
  have joins : List.Forall₂ Message.Joins t.turns pieces.reverse :=
    List.forall₂_reverse_iff.mpr h.joins
  have something : ∀ piece ∈ pieces.reverse, piece ≠ [] := fun piece mem =>
    h.something piece (List.mem_reverse.mp mem)
  refine ⟨h.system, ?_, sides, apart, ofMessages_alternate sides apart, ?_⟩
  · rw [runs, ← h.whole, splitBy_of_joins joins something apart]
    exact joins
  · intro turns same
    exact Message.toWire_injective.list_map same

/-- One side goes on after an instruction. -/
example :
    Turns.ofMessages
        [⟨.system, "rules"⟩, ⟨.user, "task"⟩, ⟨.system, "more"⟩, ⟨.user, ""⟩, ⟨.assistant, "done"⟩]
      = ⟨some "rules\nmore", [⟨.user, "task\n\n"⟩, ⟨.assistant, "done"⟩]⟩ := by
  decide

end Draftsman
