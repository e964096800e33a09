/-
The order of lines.

What statements describe depends on their order only as far as one can expect: the last
title and the last direction hold, and edges are listed as they come.  Which node an id has
does not depend on it at all, since a declaration holds for mentions before and behind it.
So the lines of a text may change places, as long as those that set the title, and those
that set the direction, follow each other as before.
-/
import Draftsman.Proofs.Diagram.Draft

namespace Draftsman.Diagram

open Draftsman.Text

/-! ### Lines that are put together -/

/-- A text of lines, the last of which is not ended. -/
def joined (ls : List (List Char)) : String := String.ofList (['\n'].intercalate ls)

theorem ofLine_dropReturn (line : List Char) :
    Statement.ofLine (dropReturn line) = Statement.ofLine line := by
  rw [Statement.ofLine, Statement.ofLine, trim_dropReturn]

/-- Lines that say the same are entered alike. -/
theorem Draft.addLines_congr {ls ls' : List (List Char)}
    (same : ls.map Statement.ofLine = ls'.map Statement.ofLine) (draft : Draft) (number : Nat) :
    draft.addLines number ls = draft.addLines number ls' := by
  induction ls generalizing draft number ls' with
  | nil =>
    obtain rfl : ls' = [] := List.map_eq_nil_iff.mp same.symm
    rfl
  | cons line ls ih =>
    obtain ⟨line', rest, rfl, first, others⟩ := List.map_eq_cons_iff.mp same.symm
    rw [Draft.addLines, Draft.addLines, Draft.addLine, Draft.addLine, first]
    exact bind_congr fun next => ih others.symm next (number + 1)

/-- An empty line at the end is none. -/
theorem Draft.addLines_concat_nil (ls : List (List Char)) (draft : Draft) (number : Nat) :
    draft.addLines number (ls ++ [[]]) = draft.addLines number ls := by
  induction ls generalizing draft number with
  | nil => rfl
  | cons line ls ih => exact bind_congr fun next => ih next (number + 1)

/-- Lines are entered alike before and after they have been put together. -/
theorem Draft.addLines_joined {ls : List (List Char)} (whole : ∀ line ∈ ls, '\n' ∉ line)
    (draft : Draft) (number : Nat) :
    draft.addLines number (lines (joined ls).toList) = draft.addLines number ls := by
  rw [joined, String.toList_ofList]
  rcases List.eq_nil_or_concat ls with rfl | ⟨ended, last, rfl⟩
  · rfl
  · rw [List.concat_eq_append] at whole ⊢
    have split := List.splitOn_intercalate '\n' whole
      (List.append_ne_nil_of_right_ne_nil ended (List.cons_ne_nil last []))
    have alike : (ended.map dropReturn).map Statement.ofLine = ended.map Statement.ofLine := by
      rw [List.map_map]
      exact List.map_congr_left fun line _ => ofLine_dropReturn line
    rw [lines_of_splitOn split]
    -- A line can lose a carriage return, and the last one is lost if it is empty.
    cases last with
    | nil =>
      rw [Draft.addLines_concat_nil, List.isEmpty_nil, if_pos rfl, List.append_nil]
      exact Draft.addLines_congr alike draft number
    | cons c last =>
      refine Draft.addLines_congr ?_ draft number
      rw [List.map_append, List.map_append, alike]
      rfl

/-! ### The node of an id -/

/-- The node that has an id. -/
def node? (d : Diagram) (id : String) : Option Node := d.nodes.find? fun node => node.id == id

theorem find?_nodeOf (declared : List Node) (named : List String) (id : String) :
    ((named.map (nodeOf declared)).find? fun node => node.id == id)
      = if id ∈ named then some (nodeOf declared id) else none := by
  induction named with
  | nil => rfl
  | cons other named ih =>
    rw [List.map_cons, List.find?_cons, nodeOf_id, ih]
    by_cases same : other = id
    · simp [same]
    · simp [beq_false_of_ne same, Ne.symm same]

/-- Every id that is named has its node, and no other id has one. -/
theorem node?_describe (ss : List Statement) (id : String) :
    (describe ss).node? id
      = if id ∈ names ss then some (nodeOf (declarations ss) id) else none := by
  rw [node?, describe, find?_nodeOf]
  simp only [List.mem_eraseDups]

section Perm

variable {ss ss' : List Statement}

theorem declaredIds_perm (perm : ss.Perm ss') : (declaredIds ss).Perm (declaredIds ss') :=
  (perm.filterMap Statement.node?).map Node.id

/-- Which node is declared for an id does not depend on the order of declarations. -/
theorem nodeOf_perm {declared declared' : List Node} (perm : declared.Perm declared')
    (distinct : (declared.map Node.id).Nodup) (id : String) :
    nodeOf declared id = nodeOf declared' id := by
  by_cases mem : id ∈ declared.map Node.id
  · obtain ⟨node, here, rfl⟩ := List.mem_map.mp mem
    have distinct' := (perm.map Node.id).nodup_iff.mp distinct
    rw [nodeOf_eq_of_mem distinct here, nodeOf_eq_of_mem distinct' (perm.mem_iff.mp here)]
  · have absent := mt (perm.map Node.id).mem_iff.mpr mem
    rw [nodeOf_eq_plain mem, nodeOf_eq_plain absent]

/-- **Which node an id has does not depend on the order of statements.** -/
theorem node?_perm (perm : ss.Perm ss') (distinct : (declaredIds ss).Nodup) (id : String) :
    (describe ss).node? id = (describe ss').node? id := by
  have named : id ∈ names ss ↔ id ∈ names ss' := (perm.flatMap_right Statement.names).mem_iff
  have node := nodeOf_perm (perm.filterMap Statement.node?) distinct id
  rw [node?_describe, node?_describe, declarations, node]
  simp only [named, declarations]

end Perm

/-! ### What each line says -/

/-- What a line says of a kind. -/
def said {α : Type} (kind : Statement → Option α) (line : List Char) : Option α :=
  (Statement.ofLine line).toOption.bind kind

/-- Whether a line sets the title. -/
def setsTitle (line : List Char) : Bool := (said Statement.title? line).isSome

/-- Whether a line sets the direction. -/
def setsDirection (line : List Char) : Bool := (said Statement.direction? line).isSome

/-- The edges that a line draws. -/
def edgesOf (line : List Char) : List Edge :=
  ((Statement.ofLine line).toOption.map Statement.edges).getD []

theorem filterMap_statements {α : Type} (kind : Statement → Option α) (ls : List (List Char)) :
    (statements ls).filterMap kind
      = (ls.filter fun line => (said kind line).isSome).filterMap (said kind) := by
  rw [statements, List.filterMap_filterMap, List.filterMap_filter]
  refine List.filterMap_congr fun line _ => ?_
  rw [← said]
  cases said kind line <;> rfl

/-- What is said of a kind depends only on the lines that say something of it. -/
theorem filterMap_statements_congr {α : Type} {kind : Statement → Option α}
    {ls ls' : List (List Char)}
    (same : (ls.filter fun line => (said kind line).isSome)
      = ls'.filter fun line => (said kind line).isSome) :
    (statements ls).filterMap kind = (statements ls').filterMap kind := by
  rw [filterMap_statements, filterMap_statements, same]

theorem edges_describe_statements (ls : List (List Char)) :
    (describe (statements ls)).edges = ls.flatMap edgesOf := by
  show (statements ls).flatMap Statement.edges = ls.flatMap edgesOf
  induction ls with
  | nil => rfl
  | cons line ls ih =>
    rw [List.flatMap_cons, ← ih, edgesOf, statements, List.filterMap_cons, ← statements]
    cases (Statement.ofLine line).toOption <;> rfl

/-- The node that a line declares is the node of its id. -/
theorem node?_of_declared {ls : List (List Char)} (distinct : (declaredIds (statements ls)).Nodup)
    {line : List Char} (mem : line ∈ ls) {node : Node}
    (declared : Statement.ofLine line = .ok (.declaration node)) :
    (describe (statements ls)).node? node.id = some node := by
  have among : node ∈ declarations (statements ls) :=
    List.mem_filterMap.mpr ⟨_, mem_statements.mpr ⟨line, mem, declared⟩, rfl⟩
  have named := mem_names_of_declared (List.mem_map_of_mem among)
  rw [node?_describe, if_pos named, nodeOf_eq_of_mem distinct among]

theorem title_congr {ls ls' : List (List Char)}
    (titles : ls.filter setsTitle = ls'.filter setsTitle) :
    (describe (statements ls)).title = (describe (statements ls')).title := by
  rw [describe, describe, filterMap_statements_congr titles]

theorem direction_congr {ls ls' : List (List Char)}
    (directions : ls.filter setsDirection = ls'.filter setsDirection) :
    (describe (statements ls)).direction = (describe (statements ls')).direction := by
  rw [describe, describe, filterMap_statements_congr directions]

/-- The lines of a diagram, in whichever order they are entered, lead to a sound one. -/
theorem entered_of_perm {ls ls' : List (List Char)} {draft : Draft} {number : Nat}
    (perm : ls'.Perm ls) (entered : Draft.empty.addLines number ls = .ok draft)
    (sound : draft.diagram.Sound) :
    Draft.empty.addLines number ls' = .ok (.of (statements ls')) ∧
      (describe (statements ls')).Sound := by
  obtain ⟨readable, distinct, rfl⟩ := entered_iff.mp entered
  have order : (statements ls').Perm (statements ls) := perm.filterMap _
  have readable' : Readable ls' := fun line mem => readable line (perm.mem_iff.mp mem)
  have distinct' := (declaredIds_perm order).nodup_iff.mpr distinct
  have entered' := Draft.addLines_eq_ok readable' distinct' number
  refine ⟨entered', (Draft.coherent_of_addLines entered').sound fun none => sound.inhabited ?_⟩
  have quiet := nodes_describe_eq_nil_iff.mp none
  exact nodes_describe_eq_nil_iff.mpr fun s mem => quiet s (order.mem_iff.mpr mem)

/--
**Lines may change places.**

The text of the lines of a diagram in another order, those that set the title and those that
set the direction following each other as before, is a diagram with the same title and the
same direction.  Every id has the same node in both, and each line draws its edges where it
stands now.  What a line declares of an id holds wherever the line stands.
-/
theorem ofLines_reordered {text : String} {d : Diagram} {ls : List (List Char)}
    (read : ofLines text = .ok d) (perm : ls.Perm (lines text.toList))
    (titles : ls.filter setsTitle = (lines text.toList).filter setsTitle)
    (directions : ls.filter setsDirection = (lines text.toList).filter setsDirection) :
    ∃ e, ofLines (joined ls) = .ok e ∧
      (∀ other : String, lines other.toList = ls → ofLines other = .ok e) ∧
      e.title = d.title ∧ e.direction = d.direction ∧ (∀ id, e.node? id = d.node? id) ∧
      d.edges = (lines text.toList).flatMap edgesOf ∧ e.edges = ls.flatMap edgesOf ∧
      ∀ line ∈ ls, ∀ node, Statement.ofLine line = .ok (.declaration node) →
        e.node? node.id = some node := by
  obtain ⟨draft, entered, sound, rfl⟩ := (ofLines_eq_ok_iff text d).mp read
  obtain ⟨entered', sound'⟩ := entered_of_perm perm entered sound
  obtain ⟨-, distinct', -⟩ := entered_iff.mp entered'
  obtain ⟨-, -, rfl⟩ := entered_iff.mp entered
  have order : (statements ls).Perm (statements (lines text.toList)) := perm.filterMap _
  have whole : ∀ line ∈ ls, '\n' ∉ line := fun line mem =>
    whole_of_mem_lines (perm.mem_iff.mp mem)
  refine ⟨describe (statements ls), ?_, ?_, title_congr titles, direction_congr directions,
    node?_perm order distinct', edges_describe_statements _, edges_describe_statements ls,
    fun line mem node => node?_of_declared distinct' mem⟩
  · rw [ofLines_eq_ok_iff, Draft.addLines_joined whole]
    exact ⟨_, entered', sound', rfl⟩
  · rintro other rfl
    exact (ofLines_eq_ok_iff _ _).mpr ⟨_, entered', sound', rfl⟩

/-- A text in which an edge mentions a node before it is declared. -/
def mentionedFirst : String :=
  "title: Draft\na -> b -> c: x\n\ndirection: LR\r\nb \x7bReady?\x7d\ntitle: Final\nc -> a"

/-- Its lines in another order. -/
def declaredFirst : List (List Char) :=
  ["c -> a", "b \x7bReady?\x7d", "title: Draft", "title: Final", "a -> b -> c: x",
    "direction: LR", ""].map String.toList

/-- The diagram that the text describes. -/
def readyDiagram : Diagram where
  title := some "Final"
  direction := .leftRight
  nodes := [.plain "a", ⟨"b", "Ready?", .diamond⟩, .plain "c"]
  edges := [⟨"a", "b", none⟩, ⟨"b", "c", some "x"⟩, ⟨"c", "a", none⟩]

theorem ofLines_reordered_declaredFirst :
    ofLines mentionedFirst = .ok readyDiagram ∧ declaredFirst.Perm (lines mentionedFirst.toList) ∧
      ∃ e, ofLines (joined declaredFirst) = .ok e ∧ e.title = some "Final" ∧
        e.node? "b" = some ⟨"b", "Ready?", .diamond⟩ ∧
        e.edges = [⟨"c", "a", none⟩, ⟨"a", "b", none⟩, ⟨"b", "c", some "x"⟩] := by
  have read : ofLines mentionedFirst = .ok readyDiagram := by decide +kernel
  have perm : declaredFirst.Perm (lines mentionedFirst.toList) := by decide +kernel
  obtain ⟨e, again, -, title, -, nodes, -, edges, -⟩ :=
    ofLines_reordered read perm (by decide +kernel) (by decide +kernel)
  exact ⟨read, perm, e, again, title, (nodes "b").trans (by decide +kernel),
    edges.trans (by decide +kernel)⟩

end Draftsman.Diagram
