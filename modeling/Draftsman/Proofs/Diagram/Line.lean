/-
What the lines of a diagram say.

A line sets the title or the direction, declares a node, or draws a chain of edges.  Here each
kind of line is written down, and read back.  Texts stand in a line as they are, and what
they hold can only matter to the line in few ways: blanks at its ends are lost, a title or a
label ends with its line, and a node is not declared but taken for the end of an edge if an
arrow stands in its line before the first colon.
-/
import Mathlib.Data.List.Chain
import Mathlib.Data.List.Infix
import Mathlib.Data.List.TakeDrop
import Draftsman.Diagram.Statement
import Draftsman.Proofs.Diagram.Read
import Draftsman.Proofs.Text.Blank
import Draftsman.Proofs.Text.Cut

namespace Draftsman.Diagram

open Draftsman.Text

/-! ### Writing -/

/-- The line that sets a title. -/
def titleLine (text : String) : List Char := "title".toList ++ ':' :: ' ' :: text.toList

/-- The line that sets a direction. -/
def directionLine (direction : Direction) : List Char :=
  "direction".toList ++ ':' :: ' ' :: direction.name.toList

/-- A label between the delimiters of a shape. -/
def Shape.around (label : List Char) : Shape → List Char
  | .box => "[".toList ++ label ++ "]".toList
  | .rounded => "(".toList ++ label ++ ")".toList
  | .ellipse => "((".toList ++ label ++ "))".toList
  | .diamond => "\x7b".toList ++ label ++ "\x7d".toList

/-- The line that declares a node. -/
def Node.line (node : Node) : List Char :=
  node.id.toList ++ ' ' :: node.shape.around node.label.toList

/-- The arrow of an edge, from one end to the other. -/
def Edge.arrow (e : Edge) : List Char :=
  e.source.toList ++ ' ' :: '-' :: '>' :: ' ' :: e.target.toList

/-- The line that draws an edge. -/
def Edge.line (e : Edge) : List Char :=
  match e.label with
  | some text => e.arrow ++ ':' :: ' ' :: text.toList
  | none => e.arrow

/-- The texts that can stand in a line as they are. -/
structure Fits (text : String) : Prop where
  solid : Solid text.toList
  whole : '\n' ∉ text.toList

instance (text : String) : Decidable (Fits text) :=
  decidable_of_iff (Solid text.toList ∧ '\n' ∉ text.toList)
    ⟨fun h => ⟨h.1, h.2⟩, fun h => ⟨h.solid, h.whole⟩⟩

/-- Nodes whose label can stand between the delimiters of their shape. -/
structure Node.Fits (node : Node) : Prop where
  label : Diagram.Fits node.label
  noArrow : ¬ ['-', '>'] <:+: node.label.toList
  /-- The delimiters of an ellipse are not made of those of a rounded box. -/
  rounded : node.shape = .rounded →
    ¬ (node.label.toList.head? = some '(' ∧ node.label.toList.getLast? = some ')')

instance (node : Node) : Decidable node.Fits :=
  decidable_of_iff (Diagram.Fits node.label ∧ ¬ ['-', '>'] <:+: node.label.toList ∧
      (node.shape = .rounded →
        ¬ (node.label.toList.head? = some '(' ∧ node.label.toList.getLast? = some ')')))
    ⟨fun h => ⟨h.1, h.2.1, h.2.2⟩, fun h => ⟨h.label, h.noArrow, h.rounded⟩⟩

/-! ### Ids -/

theorem isBlank_of_isIdChar {c : Char} (h : isIdChar c = true) : isBlank c = false := by
  simp only [isIdChar, Bool.or_eq_true, beq_iff_eq] at h
  rcases h with ((letter | rfl) | rfl) | rfl
  · exact isBlank_of_isAlphanumeric letter
  all_goals decide

theorem isIdChar_of_isId {id : List Char} (h : isId id = true) : ∀ c ∈ id, isIdChar c = true := by
  rw [isId, Bool.and_eq_true, List.all_eq_true] at h
  exact h.2

/-- An id holds none of the characters that mean something to a line. -/
theorem not_mem_of_isId {id : List Char} (h : isId id = true) (c : Char)
    (mark : c ∈ [':', '>', '#', '\n']) : c ∉ id := by
  have other : [':', '>', '#', '\n'].any isIdChar = false := by decide +kernel
  intro mem
  exact List.any_eq_false.mp other c mark (isIdChar_of_isId h c mem)

theorem solid_of_isId {id : List Char} (h : isId id = true) : Solid id := by
  have something : id ≠ [] := by
    rintro rfl
    cases h
  have seen : id.any isBlank = false := by
    simpa using fun c mem => isBlank_of_isIdChar (isIdChar_of_isId h c mem)
  exact solid_of_seen something seen

/-! ### Arrows -/

/-- Texts without an arrow, two characters at a time. -/
abbrev NoArrow (text : List Char) : Prop := text.IsChain fun a b => ¬ (a = '-' ∧ b = '>')

theorem noArrow_iff (text : List Char) : NoArrow text ↔ ¬ ['-', '>'] <:+: text := by
  rw [NoArrow, List.isChain_iff_forall_rel_of_append_cons_cons]
  constructor
  · rintro none ⟨before, behind, rfl⟩
    exact @none '-' '>' before behind (by simp) ⟨rfl, rfl⟩
  · rintro absent a b before behind rfl ⟨rfl, rfl⟩
    exact absent ⟨before, behind, by simp⟩

theorem noArrow_of_not_mem {text : List Char} (h : '>' ∉ text) : NoArrow text := by
  rw [NoArrow, List.isChain_iff_forall_rel_of_append_cons_cons]
  rintro a b before behind rfl ⟨rfl, rfl⟩
  exact h (by simp)

theorem noArrow_append {a b : List Char} (left : NoArrow a) (right : NoArrow b)
    (apart : a.getLast? ≠ some '-' ∨ b.head? ≠ some '>') : NoArrow (a ++ b) := by
  rw [NoArrow, List.isChain_append]
  refine ⟨left, right, ?_⟩
  rintro x last y first ⟨rfl, rfl⟩
  rcases apart with other | other
  · exact other last
  · exact other first

theorem splitArrows_cons {c : Char} {text : List Char}
    (plain : ¬ (c = '-' ∧ text.head? = some '>')) :
    splitArrows (c :: text) =
      match splitArrows text with
      | [] => [[c]]
      | part :: parts => (c :: part) :: parts := by
  refine splitArrows.eq_3 c text ?_
  rintro rest rfl rfl
  exact plain ⟨rfl, rfl⟩

theorem splitArrows_ne_nil (text : List Char) : splitArrows text ≠ [] := by
  unfold splitArrows
  split
  · exact List.cons_ne_nil _ _
  · exact List.cons_ne_nil _ _
  · split <;> exact List.cons_ne_nil _ _

/-- A text without an arrow is one part. -/
theorem splitArrows_of_noArrow {text : List Char} (none : NoArrow text) :
    splitArrows text = [text] := by
  induction text with
  | nil => rfl
  | cons c text ih =>
    rw [splitArrows_cons, ih none.tail]
    cases text with
    | nil => exact nofun
    | cons next text => simpa using none.rel

/-- A text that holds an arrow has a first one. -/
theorem exists_first_arrow {text : List Char} (arrow : ¬ NoArrow text) :
    ∃ before behind, text = before ++ '-' :: '>' :: behind ∧ NoArrow before := by
  induction text with
  | nil => exact absurd List.isChain_nil arrow
  | cons c text ih =>
    by_cases here : c = '-' ∧ text.head? = some '>'
    · obtain ⟨rfl, next⟩ := here
      obtain ⟨behind, rfl⟩ := List.head?_eq_some_iff.mp next
      exact ⟨[], behind, rfl, List.isChain_nil⟩
    · have further : ¬ NoArrow text := by
        intro none
        refine arrow (List.isChain_cons.mpr ⟨fun d first both => here ?_, none⟩)
        exact ⟨both.1, both.2 ▸ first⟩
      obtain ⟨before, behind, rfl, none⟩ := ih further
      refine ⟨c :: before, behind, rfl, List.isChain_cons.mpr ⟨?_, none⟩⟩
      rintro d first ⟨rfl, rfl⟩
      refine here ⟨rfl, ?_⟩
      rw [List.head?_append, first]
      rfl

/-- A text is split at its first arrow. -/
theorem splitArrows_append {before : List Char} (none : NoArrow before) (behind : List Char) :
    splitArrows (before ++ '-' :: '>' :: behind) = before :: splitArrows behind := by
  induction before with
  | nil => rfl
  | cons c before ih =>
    rw [List.cons_append, splitArrows_cons, ih none.tail]
    cases before with
    -- The dash of the arrow is no head of another one.
    | nil => exact nofun
    | cons next before => simpa using none.rel

/-! ### What lines say -/

/-- Nothing is set by a line that holds, before its first colon, what no key holds. -/
theorem setting?_eq_none {key : String} {start : List Char} (free : ':' ∉ start) {c : Char}
    (other : c ≠ ':') (seen : isBlank c = false) (strange : c.toLower ∉ key.toList)
    (rest : List Char) : setting? key (start ++ c :: rest) = none := by
  have free' : ':' ∉ start ++ [c] := by simp [free, other.symm]
  have cut_behind := cut_append_of_not_mem free' rest
  rw [List.append_assoc, List.singleton_append] at cut_behind
  rw [setting?, cut_behind]
  cases cut ':' rest with
  | none => rfl
  | some parts =>
    obtain ⟨more, value⟩ := parts
    have mem : c ∈ trim (start ++ [c] ++ more) := mem_trim seen (by simp)
    have different : (trim (start ++ [c] ++ more)).map Char.toLower ≠ key.toList := by
      intro same
      exact strange (same ▸ List.mem_map_of_mem mem)
    exact if_neg different

/-- The blanks around a line mean nothing. -/
theorem ofLine_trim (line : List Char) : Statement.ofLine (trim line) = Statement.ofLine line := by
  rw [Statement.ofLine, trim_trim, ← Statement.ofLine]

/-- A solid line is read as it stands, unless it is a remark. -/
theorem ofLine_of_solid {line : List Char} (solid : Solid line)
    (statement : line.head? ≠ some '#') :
    Statement.ofLine line = statementOf line := by
  rw [Statement.ofLine, solid.whole]
  split
  · exact absurd rfl solid.something
  · exact absurd rfl statement
  · rfl

theorem nonempty?_toList {s : String} (something : s.toList ≠ []) :
    nonempty? s.toList = some s := by
  rw [nonempty?, if_neg (by simpa using something), String.ofList_toList]

/-- A space before a solid text is lost. -/
theorem trim_space {text : List Char} (solid : Solid text) : trim (' ' :: text) = text := by
  have padded := solid.trim_padded (blank_singleton (c := ' ') rfl) blank_nil
  rwa [List.append_nil] at padded

/-- The value of a setting is what stands behind the colon and a space. -/
theorem setting?_append {key : String} (solid : Solid key.toList) (free : ':' ∉ key.toList)
    (small : key.toList.map Char.toLower = key.toList) {text : List Char} (fits : Solid text) :
    setting? key (key.toList ++ ':' :: ' ' :: text) = some text := by
  rw [setting?, cut_append free]
  simp only [solid.whole, small, if_true, trim_space fits]

theorem solid_title : Solid "title".toList := solid_of_seen (by decide) (by decide)

theorem solid_titleLine {text : String} (fits : Fits text) : Solid (titleLine text) := by
  have whole := solid_title.append fits.solid [':', ' ']
  rwa [List.append_assoc] at whole

/-- The line of a title sets it. -/
theorem ofLine_titleLine {text : String} (fits : Fits text) :
    Statement.ofLine (titleLine text) = .ok (.title (some text)) := by
  have found := setting?_append solid_title (by decide) (by decide) fits.solid
  rw [ofLine_of_solid (solid_titleLine fits) nofun, statementOf, titleLine, found]
  simp only [nonempty?_toList fits.solid.something]

theorem ofLine_directionLine (direction : Direction) :
    Statement.ofLine (directionLine direction) = .ok (.direction direction) := by
  cases direction <;> decide +kernel

/-! ### Declarations -/

/-- What stands before the label of a node with a shape. -/
def Shape.opener : Shape → List Char
  | .box => "[".toList
  | .rounded => "(".toList
  | .ellipse => "((".toList
  | .diamond => "\x7b".toList

/-- What stands behind the label of a node with a shape. -/
def Shape.closer : Shape → List Char
  | .box => "]".toList
  | .rounded => ")".toList
  | .ellipse => "))".toList
  | .diamond => "\x7d".toList

theorem Shape.around_eq (label : List Char) (shape : Shape) :
    shape.around label = shape.opener ++ label ++ shape.closer := by
  cases shape <;> rfl

theorem Shape.solid_opener (shape : Shape) : Solid shape.opener := by
  cases shape <;> exact ⟨by decide, by decide⟩

theorem Shape.solid_closer (shape : Shape) : Solid shape.closer := by
  cases shape <;> exact ⟨by decide, by decide⟩

theorem Shape.solid_around (label : List Char) (shape : Shape) : Solid (shape.around label) := by
  rw [Shape.around_eq]
  exact shape.solid_opener.append shape.solid_closer label

/-- An opener is made of marks that end an id, and mean nothing else to a line. -/
theorem Shape.mem_opener {shape : Shape} {c : Char} (mem : c ∈ shape.opener) :
    c ∈ ['[', '(', '\x7b'] := by
  have all : ∀ d ∈ shape.opener, d ∈ ['[', '(', '\x7b'] := by
    cases shape <;> simp [Shape.opener]
  exact all c mem

theorem Shape.mem_closer {shape : Shape} {c : Char} (mem : c ∈ shape.closer) :
    c ∈ [']', ')', '\x7d'] := by
  have all : ∀ d ∈ shape.closer, d ∈ [']', ')', '\x7d'] := by
    cases shape <;> simp [Shape.closer]
  exact all c mem

theorem Shape.opener_cons (shape : Shape) :
    ∃ c rest, shape.opener = c :: rest ∧ c ∈ ['[', '(', '\x7b'] := by
  cases shape <;> exact ⟨_, _, rfl, by decide⟩

theorem between?_append (opener closer : String) (label : List Char) :
    between? opener closer (opener.toList ++ label ++ closer.toList) = some label := by
  rw [between?, List.append_assoc, dropPrefix?_append]
  exact dropSuffix?_append label closer.toList

/-- The delimiters of an ellipse are not found around the label of a rounded box. -/
theorem between?_rounded {label : List Char}
    (apart : ¬ (label.head? = some '(' ∧ label.getLast? = some ')')) :
    between? "((" "))" ("(".toList ++ label ++ ")".toList) = none := by
  cases label with
  | nil => rfl
  | cons c rest =>
    by_cases opens : c = '('
    · subst opens
      -- What is left of the label would have to end as the label does.
      show dropSuffix? [')', ')'] (rest ++ [')']) = none
      have ends : rest.getLast? ≠ some ')' := by
        intro last
        refine apart ⟨rfl, ?_⟩
        rw [List.getLast?_cons, last]
        rfl
      rw [← List.head?_reverse] at ends
      rw [dropSuffix?, List.reverse_append]
      cases back : rest.reverse with
      | nil => rfl
      | cons d more =>
        rw [back] at ends
        have other : d ≠ ')' := fun same => ends (congrArg some same)
        simp [dropPrefix?, Ne.symm other]
    · simp [between?, dropPrefix?, Ne.symm opens]

/-- The label between the delimiters of a shape is found. -/
theorem labelled?_around {label : List Char} {shape : Shape}
    (rounded : shape = .rounded → ¬ (label.head? = some '(' ∧ label.getLast? = some ')')) :
    labelled? (shape.around label) = some (trim label, shape) := by
  cases shape with
  | ellipse =>
    have found := between?_append "((" "))" label
    simp only [labelled?, delimiters, Shape.around, List.findSome?_cons, found, Option.map_some]
  | box =>
    have found := between?_append "[" "]" label
    have other : between? "((" "))" ("[".toList ++ label ++ "]".toList) = none := rfl
    simp only [labelled?, delimiters, Shape.around, List.findSome?_cons, found, other,
      Option.map_some, Option.map_none]
  | rounded =>
    have found := between?_append "(" ")" label
    have other : between? "[" "]" ("(".toList ++ label ++ ")".toList) = none := rfl
    simp only [labelled?, delimiters, Shape.around, List.findSome?_cons, found, other,
      between?_rounded (rounded rfl), Option.map_some, Option.map_none]
  | diamond =>
    have found := between?_append "\x7b" "\x7d" label
    have others : between? "((" "))" ("\x7b".toList ++ label ++ "\x7d".toList) = none ∧
        between? "[" "]" ("\x7b".toList ++ label ++ "\x7d".toList) = none ∧
        between? "(" ")" ("\x7b".toList ++ label ++ "\x7d".toList) = none := ⟨rfl, rfl, rfl⟩
    simp only [labelled?, delimiters, Shape.around, List.findSome?_cons, found, others,
      Option.map_some, Option.map_none]

/-- What is taken for a chain of edges is what stands before the first colon. -/
theorem fst_cutLabel (line : List Char) : (cutLabel line).1 = line.takeWhile (· != ':') := by
  by_cases colon : ':' ∈ line
  · obtain ⟨before, behind, rfl, free⟩ := List.eq_append_cons_of_mem colon
    have passed : ∀ c ∈ before, (c != ':') = true := fun c mem =>
      bne_iff_ne.mpr fun same => free (same ▸ mem)
    rw [cutLabel, cut_append free, List.takeWhile_append_of_pos passed,
      List.takeWhile_cons_of_neg (by decide), List.append_nil]
  · have passed : ∀ c ∈ line, (c != ':') = true := fun c mem =>
      bne_iff_ne.mpr fun same => colon (same ▸ mem)
    rw [cutLabel, cut_eq_none colon, List.takeWhile_eq_self_iff.mpr passed]

/-- A line without an arrow before its first colon draws no edges. -/
theorem chain?_eq_none {line : List Char} (none : NoArrow (line.takeWhile (· != ':'))) :
    chain? line = .none := by
  rw [← fst_cutLabel] at none
  simp only [chain?, splitArrows_of_noArrow none]

theorem endsId_of_isIdChar {c : Char} (h : isIdChar c = true) : endsId c = false := by
  have others : c ∉ ['[', '(', '\x7b'] := by
    intro mem
    simp only [List.mem_cons, List.not_mem_nil, or_false] at mem
    rcases mem with rfl | rfl | rfl <;> revert h <;> decide +kernel
  simp only [List.mem_cons, List.not_mem_nil, or_false, not_or] at others
  simp [endsId, isBlank_of_isIdChar h, others]

/-- The node whose label has lost the blanks around it. -/
def Node.trimmed (node : Node) : Node := { node with label := Text.trimmed node.label }

/-- The declaration of a node is read back, and only the blanks around its label are lost. -/
theorem declaration_line {node : Node} (is_id : isId node.id.toList = true)
    (seen : ¬ Blank node.label.toList)
    (rounded : node.shape = .rounded →
      ¬ (node.label.toList.head? = some '(' ∧ node.label.toList.getLast? = some ')')) :
    declaration node.line = .ok node.trimmed := by
  have inside : ∀ c ∈ node.id.toList, (!endsId c) = true := by
    intro c mem
    rw [endsId_of_isIdChar (isIdChar_of_isId is_id c mem)]
    rfl
  have span : node.line.span (fun c => !endsId c)
      = (node.id.toList, ' ' :: node.shape.around node.label.toList) := by
    rw [Node.line, List.span_eq_takeWhile_dropWhile, List.takeWhile_append_of_pos inside,
      List.dropWhile_append_of_pos inside, List.takeWhile_cons_of_neg (by decide),
      List.dropWhile_cons_of_neg (by decide), List.append_nil]
  have around := node.shape.solid_around node.label.toList
  have something : (node.shape.around node.label.toList).isEmpty = false := by
    simpa using around.something
  have named : (trim node.label.toList).isEmpty = false := by
    rwa [← isAllBlank, ← Bool.not_eq_true, isAllBlank_iff]
  simp only [declaration, span, is_id, trim_space around, something, Bool.not_true,
    Bool.false_eq_true, if_false, labelled?_around rounded, nonempty?, named,
    String.ofList_toList, Option.getD_some, Node.trimmed, Text.trimmed]

/-- A line that begins with an id is no remark. -/
theorem head?_ne_remark {id : List Char} (is_id : isId id = true) (rest : List Char) :
    (id ++ rest).head? ≠ some '#' := by
  have solid := solid_of_isId is_id
  rw [List.head?_append_of_ne_nil _ solid.something]
  intro remark
  exact not_mem_of_isId is_id '#' (by decide) (List.mem_of_mem_head? remark)

theorem Node.solid_line {node : Node} (is_id : isId node.id.toList = true) : Solid node.line := by
  have whole := (solid_of_isId is_id).append (node.shape.solid_around node.label.toList) [' ']
  rwa [List.append_assoc] at whole

/-- No line feed stands in the line of a node, unless there is one in its label. -/
theorem Node.whole_line {node : Node} (is_id : isId node.id.toList = true)
    (whole : '\n' ∉ node.label.toList) : '\n' ∉ node.line := by
  have around : '\n' ∉ node.shape.around node.label.toList := by
    cases node.shape <;> simp [Shape.around, whole]
  simp [Node.line, not_mem_of_isId is_id '\n' (by decide), around]

/-- What stands before the label of a node in its line. -/
def Node.opening (node : Node) : List Char := node.id.toList ++ ' ' :: node.shape.opener

theorem Node.line_eq (node : Node) :
    node.line = node.opening ++ (node.label.toList ++ node.shape.closer) := by
  simp [Node.line, Node.opening, Shape.around_eq]

/-- Nothing that means something to a line stands before the label of a node. -/
theorem Node.not_mem_opening {node : Node} (is_id : isId node.id.toList = true) (c : Char)
    (mark : c ∈ [':', '>']) : c ∉ node.opening := by
  have id : c ∉ node.id.toList := not_mem_of_isId is_id c <| by
    simp only [List.mem_cons, List.not_mem_nil, or_false] at mark ⊢
    tauto
  have opener : c ∉ node.shape.opener := by
    intro mem
    have delimiter := Shape.mem_opener mem
    simp only [List.mem_cons, List.not_mem_nil, or_false] at mark delimiter
    rcases mark with rfl | rfl <;> revert delimiter <;> decide
  have space : c ≠ ' ' := by
    rintro rfl
    revert mark
    decide
  simp [Node.opening, id, opener, space]

/-- The line of a node sets nothing, since a delimiter stands before any colon. -/
theorem Node.setting?_line {node : Node} (is_id : isId node.id.toList = true) :
    ∀ key ∈ ["title", "direction"], setting? key node.line = none := by
  obtain ⟨c, opener, begins, mark⟩ := node.shape.opener_cons
  have free : ':' ∉ node.id.toList ++ [' '] := by
    simpa using not_mem_of_isId is_id ':' (by decide)
  have line : node.line
      = node.id.toList ++ [' '] ++ c :: (opener ++ (node.label.toList ++ node.shape.closer)) := by
    simp [Node.line_eq, Node.opening, begins]
  intro key known
  rw [line]
  simp only [List.mem_cons, List.not_mem_nil, or_false] at known mark
  rcases known with rfl | rfl <;> rcases mark with rfl | rfl | rfl <;>
    exact setting?_eq_none free (by decide) (by decide) (by decide) _

/-- A line that begins as that of a node draws edges if it has an arrow, and else declares one. -/
theorem Node.ofLine_line_cases {node : Node} (is_id : isId node.id.toList = true) :
    Statement.ofLine node.line =
      ((chain? node.line).getD ((declaration node.line).map .declaration)) := by
  rw [ofLine_of_solid (solid_line is_id) (head?_ne_remark is_id _), statementOf,
    setting?_line is_id "title" (by decide), setting?_line is_id "direction" (by decide)]
  cases chain? node.line <;> rfl

/-- What stands before the label of a node is no half of an arrow. -/
theorem Node.getLast?_opening (node : Node) : node.opening.getLast? ≠ some '-' := by
  obtain ⟨c, rest, begins, -⟩ := node.shape.opener_cons
  have last : node.opening.getLast? = node.shape.opener.getLast? := by
    simp [Node.opening, begins, List.getLast?_cons]
  intro dash
  rw [last] at dash
  exact absurd (Shape.mem_opener (List.mem_of_getLast? dash)) (by decide)

/-- The delimiters around a label make no arrow of it. -/
theorem Node.noArrow_line {node : Node} (is_id : isId node.id.toList = true)
    (none : NoArrow (node.label.toList.takeWhile (· != ':'))) :
    NoArrow (node.line.takeWhile (· != ':')) := by
  have free := Node.not_mem_opening is_id ':' (by decide)
  have passed : ∀ c ∈ node.opening, (c != ':') = true := fun c mem =>
    bne_iff_ne.mpr fun same => free (same ▸ mem)
  have start := noArrow_of_not_mem (Node.not_mem_opening is_id '>' (by decide))
  rw [Node.line_eq, List.takeWhile_append_of_pos passed]
  refine noArrow_append start ?_ (.inl node.getLast?_opening)
  rw [List.takeWhile_append]
  split
  · -- There is no colon in the label, and the closing delimiter stands behind it.
    rename_i all
    rw [(List.takeWhile_prefix _).eq_of_length all] at none
    have headless : '>' ∉ node.shape.closer.takeWhile (· != ':') := fun mem =>
      absurd (Shape.mem_closer ((List.takeWhile_sublist _).subset mem)) (by decide)
    exact noArrow_append none (noArrow_of_not_mem headless)
      (.inr fun first => headless (List.mem_of_mem_head? first))
  · exact none

/-- The line of a node declares it, unless an arrow stands before the first colon of its label. -/
theorem Node.ofLine_line {node : Node} (is_id : isId node.id.toList = true)
    (seen : ¬ Blank node.label.toList) (none : NoArrow (node.label.toList.takeWhile (· != ':')))
    (rounded : node.shape = .rounded →
      ¬ (node.label.toList.head? = some '(' ∧ node.label.toList.getLast? = some ')')) :
    Statement.ofLine node.line = .ok (.declaration node.trimmed) := by
  rw [ofLine_line_cases is_id, chain?_eq_none (noArrow_line is_id none),
    declaration_line is_id seen rounded]
  rfl

/-- The line of a node whose label fits declares just that node. -/
theorem Node.Fits.ofLine_line {node : Node} (fits : node.Fits)
    (is_id : isId node.id.toList = true) :
    Statement.ofLine node.line = .ok (.declaration node) := by
  have same : node.trimmed = node := by
    rw [Node.trimmed, Text.trimmed, fits.label.solid.whole, String.ofList_toList]
  have none := (noArrow_iff _).mpr fits.noArrow
  rw [← List.takeWhile_append_dropWhile (p := (· != ':')) (l := node.label.toList)] at none
  rw [Node.ofLine_line is_id fits.label.solid.not_blank none.left_of_append fits.rounded, same]

/-! ### Chains of edges -/

/-- Ids with arrows between them. -/
def arrows (ids : List String) : List Char :=
  [' ', '-', '>', ' '].intercalate (ids.map String.toList)

/-- What stands behind the ids of a chain: a colon and its label, if it has one. -/
def labelText : Option String → List Char
  | some text => ':' :: ' ' :: text.toList
  | none => []

/-- The line that draws a chain of edges. -/
def chainLine (ids : List String) (label : Option String) : List Char :=
  arrows ids ++ labelText label

/-- The label that is read of a text behind a colon. -/
def readLabel (label : Option String) : Option String :=
  label.bind fun text => nonempty? (trim text.toList)

theorem arrows_cons_cons (a b : String) (rest : List String) :
    arrows (a :: b :: rest) = a.toList ++ ' ' :: '-' :: '>' :: ' ' :: arrows (b :: rest) := by
  simp [arrows, List.intercalate_cons_cons]

theorem arrows_singleton (a : String) : arrows [a] = a.toList := by
  simp [arrows]

section Chains

variable {ids : List String}

theorem not_mem_arrows {c : Char} (free : ∀ id ∈ ids, c ∉ id.toList)
    (other : c ∉ [' ', '-', '>', ' ']) : c ∉ arrows ids := by
  induction ids with
  | nil => exact List.not_mem_nil
  | cons a rest ih =>
    rw [List.forall_mem_cons] at free
    cases rest with
    | nil =>
      rw [arrows_singleton]
      exact free.1
    | cons b rest =>
      rw [arrows_cons_cons]
      exact List.not_mem_append free.1 (List.not_mem_append other (ih free.2))

theorem solid_arrows (valid : ∀ id ∈ ids, isId id.toList = true) (some_ids : ids ≠ []) :
    Solid (arrows ids) := by
  induction ids with
  | nil => exact absurd rfl some_ids
  | cons a rest ih =>
    rw [List.forall_mem_cons] at valid
    have first := solid_of_isId valid.1
    cases rest with
    | nil => rwa [arrows_singleton]
    | cons b rest =>
      have whole := first.append (ih valid.2 (List.cons_ne_nil b rest)) [' ', '-', '>', ' ']
      rwa [List.append_assoc] at whole

/-- No line feed stands in the line of a chain, unless there is one in its label. -/
theorem whole_chainLine (valid : ∀ id ∈ ids, isId id.toList = true) {label : Option String}
    (whole : ∀ text ∈ label, '\n' ∉ text.toList) : '\n' ∉ chainLine ids label := by
  have start : '\n' ∉ arrows ids :=
    not_mem_arrows (fun id mem => not_mem_of_isId (valid id mem) '\n' (by decide)) (by decide)
  refine List.not_mem_append start ?_
  cases label with
  | none => exact List.not_mem_nil
  | some text => simpa [labelText] using whole text rfl

/-- Between the arrows of a chain stand its ids. -/
theorem splitArrows_arrows (valid : ∀ id ∈ ids, isId id.toList = true) (some_ids : ids ≠ [])
    {blanks : List Char} (blank : Blank blanks) :
    (splitArrows (blanks ++ arrows ids)).map trim = ids.map String.toList := by
  induction ids generalizing blanks with
  | nil => exact absurd rfl some_ids
  | cons a rest ih =>
    rw [List.forall_mem_cons] at valid
    have plain : '>' ∉ blanks ++ a.toList :=
      List.not_mem_append (fun mem => nomatch blank '>' mem)
        (not_mem_of_isId valid.1 '>' (by decide))
    cases rest with
    | nil =>
      have read := (solid_of_isId valid.1).trim_padded blank blank_nil
      rw [List.append_nil] at read
      rw [arrows_singleton, splitArrows_of_noArrow (noArrow_of_not_mem plain), List.map_singleton,
        read]
      rfl
    | cons b rest =>
      have space := blank_singleton (c := ' ') rfl
      have others := ih valid.2 (List.cons_ne_nil b rest) space
      have line : blanks ++ arrows (a :: b :: rest)
          = (blanks ++ a.toList ++ [' ']) ++ '-' :: '>' :: ([' '] ++ arrows (b :: rest)) := by
        simp [arrows_cons_cons]
      have before : NoArrow (blanks ++ a.toList ++ [' ']) :=
        noArrow_of_not_mem (by simpa using plain)
      rw [line, splitArrows_append before, List.map_cons, others,
        (solid_of_isId valid.1).trim_padded blank space]
      rfl

/-- The ids and the label of a chain are read back, the label without the blanks around it. -/
theorem chain?_chainLine (valid : ∀ id ∈ ids, isId id.toList = true) (long : 2 ≤ ids.length)
    {line : List Char} {label : Option String} (cut : cutLabel line = (arrows ids, label)) :
    chain? line = some (.ok (.chain ids label)) := by
  have some_ids : ids ≠ [] := List.ne_nil_of_length_pos (by omega)
  have parts := splitArrows_arrows valid some_ids blank_nil
  rw [List.nil_append] at parts
  have count := congrArg List.length parts
  rw [List.length_map, List.length_map] at count
  have all_ids : (ids.map String.toList).find? (fun id => !isId id) = none := by
    simpa using valid
  rw [chain?, cut]
  dsimp only
  split
  · rename_i one
    rw [one, List.length_singleton] at count
    omega
  · rw [parts, all_ids]
    simp [Function.comp_def]

/-- Behind the ids of a chain nothing is lost but the blanks around its label. -/
theorem exists_trim_chainLine (valid : ∀ id ∈ ids, isId id.toList = true) (some_ids : ids ≠ [])
    (label : Option String) :
    ∃ behind, trim (chainLine ids label) = arrows ids ++ behind ∧
      cutLabel (arrows ids ++ behind) = (arrows ids, readLabel label) := by
  have solid := solid_arrows valid some_ids
  have free : ':' ∉ arrows ids :=
    not_mem_arrows (fun id mem => not_mem_of_isId (valid id mem) ':' (by decide)) (by decide)
  cases label with
  | none =>
    refine ⟨[], ?_, ?_⟩
    · rw [chainLine, labelText, List.append_nil, solid.whole]
    · rw [List.append_nil, cutLabel, cut_eq_none free]
      rfl
  | some text =>
    have colon : ¬ Blank (':' :: ' ' :: text.toList) := fun blank =>
      nomatch blank ':' List.mem_cons_self
    have line : trim (chainLine ids (some text))
        = arrows ids ++ trimEnd (':' :: ' ' :: text.toList) := by
      rw [chainLine, labelText, trim, trimStart_append_of_not solid.not_blank, solid.start,
        trimEnd_append_of_not _ colon]
    obtain ⟨blanks, blank, whole⟩ := trimEnd_append (':' :: ' ' :: text.toList)
    have left : trimEnd (':' :: ' ' :: text.toList) ≠ [] := fun nothing =>
      colon ((trimEnd_eq_nil_iff _).mp nothing)
    obtain ⟨c, behind, begins⟩ := List.exists_cons_of_ne_nil left
    rw [begins, List.cons_append, List.cons.injEq] at whole
    obtain ⟨rfl, whole⟩ := whole
    have read : trim behind = trim text.toList := by
      rw [← trim_append_of_blank behind blank, whole, trim_cons_of_blank rfl]
    refine ⟨':' :: behind, by rw [line, begins], ?_⟩
    rw [cutLabel, cut_append free]
    simp only [read, readLabel, Option.bind_some]

/-- A chain is read with all its ids. -/
theorem ofLine_chainLine (valid : ∀ id ∈ ids, isId id.toList = true) (long : 2 ≤ ids.length)
    (label : Option String) :
    Statement.ofLine (chainLine ids label) = .ok (.chain ids (readLabel label)) := by
  match ids, long with
  | a :: b :: rest, long =>
    obtain ⟨behind, line, cut⟩ := exists_trim_chainLine valid (List.cons_ne_nil a _) label
    have first := (List.forall_mem_cons.mp valid).1
    have arrow : arrows (a :: b :: rest) ++ behind
        = a.toList ++ [' ', '-'] ++ '>' :: (' ' :: arrows (b :: rest) ++ behind) := by
      simp [arrows_cons_cons]
    have free : ':' ∉ a.toList ++ [' ', '-'] :=
      List.not_mem_append (not_mem_of_isId first ':' (by decide)) (by decide)
    have unset : ∀ key ∈ ["title", "direction"],
        setting? key (arrows (a :: b :: rest) ++ behind) = none := by
      intro key known
      rw [arrow]
      simp only [List.mem_cons, List.not_mem_nil, or_false] at known
      rcases known with rfl | rfl <;>
        exact setting?_eq_none free (by decide) (by decide) (by decide) _
    have solid : Solid (arrows (a :: b :: rest) ++ behind) := by
      refine ⟨?_, by rw [← line, trim_trim]⟩
      rw [arrow]
      simp
    have statement : (arrows (a :: b :: rest) ++ behind).head? ≠ some '#' := by
      rw [arrow, List.append_assoc]
      exact head?_ne_remark first _
    rw [← ofLine_trim, line, ofLine_of_solid solid statement, statementOf,
      unset "title" (by decide), unset "direction" (by decide), chain?_chainLine valid long cut]

end Chains

/-! ### Edges -/

/-- Edges between ids, whose label can stand in a line. -/
structure Edge.Fits (e : Edge) : Prop where
  source : isId e.source.toList = true
  target : isId e.target.toList = true
  label : ∀ text ∈ e.label, Diagram.Fits text

theorem Edge.Fits.valid {e : Edge} (fits : e.Fits) :
    ∀ id ∈ [e.source, e.target], isId id.toList = true :=
  List.forall_mem_cons.mpr ⟨fits.source, List.forall_mem_singleton.mpr fits.target⟩

theorem Edge.solid_arrow {e : Edge} (fits : e.Fits) : Solid e.arrow := by
  have whole := (solid_of_isId fits.source).append (solid_of_isId fits.target) [' ', '-', '>', ' ']
  rwa [List.append_assoc] at whole

theorem Edge.solid_line {e : Edge} (fits : e.Fits) : Solid e.line := by
  rw [Edge.line]
  split
  · rename_i text labelled
    have whole := (e.solid_arrow fits).append (fits.label text labelled).solid [':', ' ']
    rwa [List.append_assoc] at whole
  · exact e.solid_arrow fits

theorem Edge.line_eq (e : Edge) : e.line = chainLine [e.source, e.target] e.label := by
  have arrow : e.arrow = arrows [e.source, e.target] := by
    rw [arrows_cons_cons, arrows_singleton, Edge.arrow]
  rw [Edge.line, chainLine, arrow]
  cases e.label with
  | some text => rfl
  | none => exact (List.append_nil _).symm

/-- A label that can stand in a line is read back. -/
theorem readLabel_eq_self {label : Option String} (fits : ∀ text ∈ label, Fits text) :
    readLabel label = label := by
  cases label with
  | none => rfl
  | some text =>
    have solid := (fits text rfl).solid
    rw [readLabel, Option.bind_some, solid.whole, nonempty?_toList solid.something]

/-- The line of an edge draws it. -/
theorem Edge.ofLine_line {e : Edge} (fits : e.Fits) :
    Statement.ofLine e.line = .ok (.chain [e.source, e.target] e.label) := by
  rw [Edge.line_eq, ofLine_chainLine fits.valid (Nat.le_refl 2), readLabel_eq_self fits.label]

end Draftsman.Diagram
