/-
Diagrams that are read from texts.

Whichever way a text describes a diagram, the diagram that is read from it is sound and has
no node with a blank label.  Written as JSON, such a diagram is read back as it is: the JSON
of a diagram is a normal form of all the texts that describe it.
-/
import Draftsman.Diagram.Svg
import Draftsman.Proofs.Diagram.Sound
import Draftsman.Proofs.Json.Codec
import Draftsman.Proofs.Text.Blank

namespace Draftsman.Diagram

open Draftsman.Text
open Draftsman.Json (Codec Field Row bind_eq_ok_iff)

/-! ### Diagrams that pass their check -/

/-- A diagram is returned after its check exactly if it is sound. -/
theorem checked_eq_ok_iff (d e : Diagram) :
    (d.check >>= fun _ => Except.ok d) = .ok e ↔ d.Sound ∧ d = e := by
  rw [bind_eq_ok_iff, ← check_eq_ok_iff]
  constructor
  · rintro ⟨_, passed, same⟩
    exact ⟨passed, Except.ok.inj same⟩
  · rintro ⟨passed, rfl⟩
    exact ⟨(), passed, rfl⟩

/-- The diagram whose nodes are labelled with their ids where they have no label to be seen. -/
def labelled (d : Diagram) : Diagram := { d with nodes := d.nodes.map Node.labelled }

theorem ofJson_eq_ok_iff (text : String) (d : Diagram) :
    ofJson text = .ok d ↔ ∃ e, codec.decode text = .ok e ∧ e.labelled.Sound ∧ e.labelled = d := by
  rw [ofJson, bind_eq_ok_iff]
  constructor
  · rintro ⟨e, decoded, checked⟩
    refine ⟨e, ?_, (checked_eq_ok_iff e.labelled d).mp checked⟩
    cases found : codec.decode text with
    | error fault => simp [found, Except.mapError] at decoded
    | ok e' => simpa [found, Except.mapError] using decoded
  · rintro ⟨e, decoded, sound, same⟩
    exact ⟨e, by rw [decoded]; rfl, (checked_eq_ok_iff e.labelled d).mpr ⟨sound, same⟩⟩

theorem ofLines_eq_ok_iff (text : String) (d : Diagram) :
    ofLines text = .ok d ↔ ∃ draft, Draft.empty.addLines 1 (lines text.toList) = .ok draft ∧
      draft.diagram.Sound ∧ draft.diagram = d := by
  rw [ofLines, bind_eq_ok_iff]
  exact exists_congr fun draft => and_congr_right fun _ => checked_eq_ok_iff draft.diagram d

theorem render_eq_ok_iff (text svg : String) :
    render text = .ok svg ↔ ∃ d, ofText text = .ok d ∧ d.svg = svg := by
  rw [render, bind_eq_ok_iff]
  simp only [Except.ok.injEq]

/-- **Every diagram that is read is sound.** -/
theorem sound_of_ofText {text : String} {d : Diagram} (read : ofText text = .ok d) : d.Sound := by
  rw [ofText] at read
  split at read
  · obtain ⟨e, -, sound, rfl⟩ := (ofJson_eq_ok_iff text d).mp read
    exact sound
  · obtain ⟨draft, -, sound, rfl⟩ := (ofLines_eq_ok_iff text d).mp read
    exact sound

/-! ### Labels

A node without a label of its own is labelled with its id, and that cannot be blank.
-/

/-- Nodes with a label that is not blank, or else is their id. -/
def Node.Labelled (node : Node) : Prop := blankString node.label = true → node.label = node.id

/-- Diagrams all of whose nodes have such a label. -/
def AllLabelled (d : Diagram) : Prop := ∀ node ∈ d.nodes, node.Labelled

theorem Node.Labelled.not_blank {node : Node} (labelled : node.Labelled)
    (named : blankString node.id = false) : blankString node.label = false := by
  by_contra seen
  have blank : blankString node.label = true := by simpa using seen
  rw [labelled blank, named] at blank
  cases blank

theorem AllLabelled.not_blank {d : Diagram} (labelled : d.AllLabelled) (sound : d.Sound) :
    ∀ node ∈ d.nodes, blankString node.label = false := by
  intro node mem
  exact (labelled node mem).not_blank (sound.named node.id (List.mem_map_of_mem mem))

theorem Node.labelled_labelled (node : Node) : node.labelled.Labelled := by
  intro blank
  rw [Node.labelled] at blank ⊢
  split at blank
  · rename_i absent
    rw [if_pos absent]
  · contradiction

theorem allLabelled_labelled (d : Diagram) : d.labelled.AllLabelled :=
  List.forall_mem_map.mpr fun node _ => node.labelled_labelled

theorem Node.plain_labelled (id : String) : (Node.plain id).Labelled := fun _ => rfl

/-- What is left of a text without the blanks at its ends is a blank string only if it is empty. -/
theorem not_blank_of_nonempty? {text : List Char} {s : String}
    (left : nonempty? (trim text) = some s) : blankString s = false := by
  rw [nonempty?] at left
  split at left
  · cases left
  · rename_i something
    obtain rfl := Option.some.inj left
    rw [← Bool.not_eq_true, blankString, String.toList_ofList, isAllBlank_iff, ← trim_eq_nil_iff]
    simpa using something

theorem eq_trim_of_labelled? {text label : List Char} {shape : Shape}
    (found : labelled? text = some (label, shape)) : ∃ inner, label = trim inner := by
  obtain ⟨⟨opener, closer, shape'⟩, -, found⟩ := List.exists_of_findSome?_eq_some found
  obtain ⟨inner, -, same⟩ := Option.map_eq_some_iff.mp found
  exact ⟨inner, (congrArg Prod.fst same).symm⟩

/-- The label of a declaration is what its delimiters hold, or else the id. -/
theorem declaration_labelled {line : List Char} {node : Node} (said : declaration line = .ok node) :
    node.Labelled := by
  simp only [declaration] at said
  split at said
  · cases said
  · split at said
    · obtain rfl := Except.ok.inj said
      exact Node.plain_labelled _
    · split at said
      · rename_i label shape found
        obtain rfl := Except.ok.inj said
        obtain ⟨inner, rfl⟩ := eq_trim_of_labelled? found
        intro blank
        cases left : nonempty? (trim inner) with
        | none => rfl
        | some s =>
          rw [left, Option.getD_some, not_blank_of_nonempty? left] at blank
          cases blank
      · cases said

theorem chain?_ne_declaration (line : List Char) (node : Node) :
    chain? line ≠ some (.ok (.declaration node)) := by
  unfold chain?
  intro said
  simp only at said
  split at said
  · cases said
  · split at said <;> cases said

/-- A node is only declared by a declaration. -/
theorem declaration_of_statementOf {line : List Char} {node : Node}
    (said : statementOf line = .ok (.declaration node)) : declaration line = .ok node := by
  unfold statementOf at said
  split at said
  · cases said
  · split at said
    · split at said <;> cases said
    · split at said
      · rename_i chain
        exact absurd (said ▸ chain) (chain?_ne_declaration line node)
      · cases declared : declaration line with
        | error fault => rw [declared] at said; cases said
        | ok other =>
          rw [declared] at said
          cases said
          rfl

theorem ofLine_labelled {line : List Char} {node : Node}
    (said : Statement.ofLine line = .ok (.declaration node)) : node.Labelled := by
  unfold Statement.ofLine at said
  split at said
  · cases said
  · cases said
  · exact declaration_labelled (declaration_of_statementOf said)

theorem mention_labelled {d : Diagram} (labelled : d.AllLabelled) (id : String) :
    (d.mention id).AllLabelled := by
  unfold mention
  split
  · exact labelled
  · exact List.forall_mem_append.mpr ⟨labelled, by simpa using Node.plain_labelled id⟩

theorem foldl_mention_labelled {d : Diagram} (labelled : d.AllLabelled) (ids : List String) :
    (ids.foldl mention d).AllLabelled := by
  induction ids generalizing d with
  | nil => exact labelled
  | cons id ids ih => exact ih (mention_labelled labelled id)

theorem place_labelled {d : Diagram} (labelled : d.AllLabelled) {node : Node}
    (new : node.Labelled) : (d.place node).AllLabelled := by
  unfold place
  split
  · intro other mem
    rcases List.mem_or_eq_of_mem_set mem with old | rfl
    · exact labelled other old
    · exact new
  · exact List.forall_mem_append.mpr ⟨labelled, by simpa using new⟩

/-- Whatever a line says, all nodes stay labelled. -/
theorem Draft.addLine_labelled {draft next : Draft} {number : Nat} {line : List Char}
    (labelled : draft.diagram.AllLabelled) (entered : draft.addLine number line = .ok next) :
    next.diagram.AllLabelled := by
  unfold Draft.addLine at entered
  split at entered
  · cases entered
  · rename_i statement said
    cases statement with
    | nothing =>
      cases entered
      exact labelled
    | title text =>
      cases entered
      exact labelled
    | direction direction =>
      cases entered
      exact labelled
    | declaration node =>
      simp only [Draft.add] at entered
      split at entered
      · cases entered
      · cases entered
        exact place_labelled labelled (ofLine_labelled said)
    | chain ids label =>
      cases entered
      exact foldl_mention_labelled labelled ids

theorem Draft.addLines_labelled {draft next : Draft} {number : Nat} {lines : List (List Char)}
    (labelled : draft.diagram.AllLabelled) (entered : draft.addLines number lines = .ok next) :
    next.diagram.AllLabelled := by
  induction lines generalizing draft number with
  | nil =>
    cases entered
    exact labelled
  | cons line lines ih =>
    obtain ⟨between, first, others⟩ := (bind_eq_ok_iff _ _ _).mp entered
    exact ih (Draft.addLine_labelled labelled first) others

/-- **Every diagram that is read has labels to be seen.** -/
theorem labelled_of_ofText {text : String} {d : Diagram} (read : ofText text = .ok d) :
    d.AllLabelled := by
  rw [ofText] at read
  split at read
  · obtain ⟨e, -, -, rfl⟩ := (ofJson_eq_ok_iff text d).mp read
    exact allLabelled_labelled e
  · obtain ⟨draft, entered, -, rfl⟩ := (ofLines_eq_ok_iff text d).mp read
    have none : Draft.empty.diagram.AllLabelled := List.forall_mem_nil _
    exact Draft.addLines_labelled none entered

/-! ### Diagrams as JSON -/

theorem Direction.codec_readsBack (direction : Direction) :
    Direction.codec.ReadsBack direction := by
  apply Codec.choice_readsBack
  cases direction <;> decide

theorem Shape.codec_readsBack (shape : Shape) : Shape.codec.ReadsBack shape := by
  apply Codec.choice_readsBack
  cases shape <;> decide

theorem Node.codec_readsBack (node : Node) : Node.codec.ReadsBack node := by
  have shape := Field.default_readsBack "shape" .box
    (Shape.codec_readsBack node.shape)
  have label := Field.default_readsBack "label" ""
    (Codec.string_readsBack node.label)
  have id := Field.required_readsBack "id" (Codec.string_readsBack node.id)
  have row := ((Row.nil_readsBack.cons shape nofun).cons label (by decide)).cons id (by decide)
  exact (Codec.record_readsBack "Node" row).map rfl

theorem Edge.codec_readsBack (e : Edge) : Edge.codec.ReadsBack e := by
  have label := Field.optional_string_readsBack "label" e.label
  have target := Field.required_readsBack "to" (Codec.string_readsBack e.target)
  have source := Field.required_readsBack "from" (Codec.string_readsBack e.source)
  have row := ((Row.nil_readsBack.cons label nofun).cons target (by decide)).cons source (by decide)
  exact (Codec.record_readsBack "Edge" row).map rfl

/-- Every diagram is read back from its JSON, be it sound or not. -/
theorem codec_readsBack (d : Diagram) : codec.ReadsBack d := by
  have edges := Field.default_readsBack "edges" []
    (Codec.list_readsBack fun e (_ : e ∈ d.edges) => e.codec_readsBack)
  have nodes := Field.default_readsBack "nodes" []
    (Codec.list_readsBack fun node (_ : node ∈ d.nodes) => node.codec_readsBack)
  have direction := Field.default_readsBack "direction" .topBottom
    (Direction.codec_readsBack d.direction)
  have title := Field.optional_string_readsBack "title" d.title
  have row := (((Row.nil_readsBack.cons edges nofun).cons nodes (by decide)).cons direction
    (by decide)).cons title (by decide)
  exact (Codec.record_readsBack "DiagramSpec" row).map rfl

theorem looksLikeJson_encode (d : Diagram) : looksLikeJson (codec.encode d) = true := by
  have text : (codec.encode d).toList = codec.text d := String.toList_ofList
  obtain ⟨rest, begins⟩ : ∃ rest, codec.text d = '\x7b' :: rest := ⟨_, rfl⟩
  rw [looksLikeJson, text, begins, trimStart_cons_of_not (by decide)]
  rfl

/-- Labels that are not blank stay as they are. -/
theorem labelled_of_not_blank {d : Diagram}
    (seen : ∀ node ∈ d.nodes, blankString node.label = false) : d.labelled = d := by
  have each : ∀ node ∈ d.nodes, node.labelled = node := by
    intro node mem
    rw [Node.labelled, seen node mem]
    rfl
  rw [labelled, List.map_congr_left each, List.map_id']

/--
**The JSON of a diagram is a normal form of the texts that describe it.**

It is read as the same diagram, so that the same document is drawn from it; and none of the
nodes has a blank label.
-/
theorem read_encode {text : String} {d : Diagram} (read : ofText text = .ok d) :
    ofText (codec.encode d) = .ok d ∧ render (codec.encode d) = render text ∧
      ∀ node ∈ d.nodes, blankString node.label = false := by
  have sound := sound_of_ofText read
  have seen := (labelled_of_ofText read).not_blank sound
  have same := labelled_of_not_blank seen
  have again : ofText (codec.encode d) = .ok d := by
    rw [ofText, if_pos (looksLikeJson_encode d), ofJson_eq_ok_iff]
    exact ⟨d, (codec_readsBack d).decode_encode, by rwa [same], same⟩
  exact ⟨again, by rw [render, render, again, read], seen⟩

/-- A diagram whose title and label hold characters that strings have to escape. -/
def quoted : Diagram where
  title := some "\"T\""
  direction := .leftRight
  nodes := [⟨"a", "a", .box⟩, ⟨"b", "b", .ellipse⟩]
  edges := [⟨"a", "b", some "\\ \x07 \u200b"⟩, ⟨"b", "a", none⟩]

/-- A text that describes it. -/
def quotedText : String :=
  "direction: lr\ntitle: \"T\"\n\na -> b: \\ \x07 \u200b\nb (())\nb -> a"

theorem read_encode_quoted :
    ofText quotedText = .ok quoted ∧ ofText (codec.encode quoted) = .ok quoted ∧
      render (codec.encode quoted) = render quotedText ∧
      ∀ node ∈ quoted.nodes, blankString node.label = false := by
  have read : ofText quotedText = .ok quoted := by decide +kernel
  exact ⟨read, read_encode read⟩

end Draftsman.Diagram
