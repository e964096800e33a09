/-
Labels of nodes are free, but for arrows.

A label may hold delimiters, remarks, colons and the names of settings: the id and the
delimiter in front of it keep its line from being taken for anything but a declaration.  Only
an arrow in it can be seen before the id is.  If one stands in front of all colons, the line
is taken for a chain of edges, and since no id holds a delimiter it is refused for its first
end (`Node.ofLine_line_of_arrow`).  Behind a colon an arrow does no harm, as in the label of
an edge.
-/
import Draftsman.Proofs.Diagram.Order

namespace Draftsman.Diagram

open Draftsman.Text

/-! ### Arrows in labels -/

/-- Labels with an arrow before the first colon. -/
def EarlyArrow (label : String) : Prop := ['-', '>'] <:+: label.toList.takeWhile (· != ':')

instance (label : String) : Decidable (EarlyArrow label) :=
  inferInstanceAs (Decidable (['-', '>'] <:+: label.toList.takeWhile (· != ':')))

/-- In front of the first of the early arrows there is neither a colon nor an arrow. -/
theorem EarlyArrow.exists_first {label : String} (early : EarlyArrow label) :
    ∃ before behind : String, label = before ++ "->" ++ behind ∧ ':' ∉ before.toList ∧
      ¬ ['-', '>'] <:+: before.toList := by
  have arrow := mt (noArrow_iff (label.toList.takeWhile (· != ':'))).mp (not_not_intro early)
  obtain ⟨before, between, start, none⟩ := exists_first_arrow arrow
  obtain ⟨rest, whole⟩ := List.takeWhile_prefix (· != ':') (l := label.toList)
  refine ⟨String.ofList before, String.ofList (between ++ rest), ?_, ?_, ?_⟩
  · rw [← String.toList_inj, ← whole, start]
    simp
  · rw [String.toList_ofList]
    intro colon
    have early : ':' ∈ label.toList.takeWhile (· != ':') :=
      start ▸ List.mem_append_left _ colon
    exact absurd (List.mem_takeWhile_imp (p := (· != ':')) early) (by decide)
  · rwa [String.toList_ofList, ← noArrow_iff]

/-- What stands before the first arrow has to be an id. -/
theorem chain?_eq_error {start : List Char} (free : ':' ∉ start) (none : NoArrow start)
    (strange : isId (trim start) = false) (behind : List Char) :
    chain? (start ++ '-' :: '>' :: behind)
      = some (.error (.invalidEnd (String.ofList (trim start)))) := by
  have passed : ∀ c ∈ start, (c != ':') = true := fun c mem =>
    bne_iff_ne.mpr fun same => free (same ▸ mem)
  have first : (cutLabel (start ++ '-' :: '>' :: behind)).1
      = start ++ '-' :: '>' :: behind.takeWhile (· != ':') := by
    rw [fst_cutLabel, List.takeWhile_append_of_pos passed]
    rfl
  obtain ⟨next, more, others⟩ :=
    List.exists_cons_of_ne_nil (splitArrows_ne_nil (behind.takeWhile (· != ':')))
  simp only [chain?, first, splitArrows_append none, others, List.map_cons, List.find?_cons,
    strange, Bool.not_false]

/-- A line is refused for an arrow in front of all colons of a label. -/
theorem Node.ofLine_line_of_arrow {node : Node} (is_id : isId node.id.toList = true)
    {start behind : List Char} (label : node.label.toList = start ++ '-' :: '>' :: behind)
    (free : ':' ∉ start) (none : NoArrow start) :
    Statement.ofLine node.line
      = .error (.invalidEnd (String.ofList (trim (node.opening ++ start)))) := by
  have free' : ':' ∉ node.opening ++ start :=
    List.not_mem_append (Node.not_mem_opening is_id ':' (by decide)) free
  have none' : NoArrow (node.opening ++ start) :=
    noArrow_append (noArrow_of_not_mem (Node.not_mem_opening is_id '>' (by decide))) none
      (.inl node.getLast?_opening)
  have strange : isId (trim (node.opening ++ start)) = false := by
    -- The opening delimiter is still there, and stands in no id.
    obtain ⟨c, rest, begins, mark⟩ := node.shape.opener_cons
    have delimiter : isBlank c = false ∧ endsId c = true := by
      simp only [List.mem_cons, List.not_mem_nil, or_false] at mark
      rcases mark with rfl | rfl | rfl <;> decide
    have mem : c ∈ trim (node.opening ++ start) :=
      mem_trim delimiter.1 (by simp [Node.opening, begins])
    rw [← Bool.not_eq_true]
    intro id
    have part := endsId_of_isIdChar (isIdChar_of_isId id c mem)
    rw [delimiter.2] at part
    cases part
  have line : node.line = node.opening ++ start ++ '-' :: '>' :: (behind ++ node.shape.closer) := by
    rw [Node.line_eq, label]
    simp
  rw [ofLine_line_cases is_id, line, chain?_eq_error free' none' strange]
  rfl

/-! ### Texts of one line -/

/-- The diagram of one node. -/
def single (node : Node) : Diagram := ⟨none, .topBottom, [node], []⟩

section OneLine

variable {line : List Char} (whole : '\n' ∉ line)

include whole

theorem addLines_one :
    Draft.empty.addLines 1 (lines (String.ofList line).toList) = Draft.empty.addLine 1 line := by
  have entered := Draft.empty.addLines_joined (List.forall_mem_singleton.mpr whole) 1
  rw [joined, List.intercalate_singleton] at entered
  rw [entered, Draft.addLines]
  cases Draft.empty.addLine 1 line <;> rfl

/-- A line that declares a node describes the diagram of this node. -/
theorem ofLines_of_declaration {node : Node}
    (said : Statement.ofLine line = .ok (.declaration node)) :
    ofLines (String.ofList line) = .ok (single node) := by
  have entered : Draft.empty.addLine 1 line = .ok ⟨single node, [node.id]⟩ := by
    rw [Draft.addLine, said]
    rfl
  rw [ofLines_of_entered ((addLines_one whole).trans entered)]
  exact if_neg (List.cons_ne_nil node [])

theorem ofLines_of_lineFault {why : LineFault} (said : Statement.ofLine line = .error why) :
    ofLines (String.ofList line) = .error (.line 1 why) := by
  have refused : Draft.empty.addLine 1 line = .error (.line 1 why) := by
    rw [Draft.addLine, said]
  exact ofLines_of_refused ((addLines_one whole).trans refused)

end OneLine

namespace Node

variable {node : Node} (is_id : isId node.id.toList = true) (whole : '\n' ∉ node.label.toList)

include is_id whole

/-- Without an early arrow a node is declared. -/
theorem ofLines_of_not_earlyArrow (seen : ¬ Blank node.label.toList)
    (late : ¬ EarlyArrow node.label) (angular : node.shape ≠ .rounded) :
    ofLines (String.ofList node.line) = .ok (single node.trimmed) := by
  have said := ofLine_line is_id seen ((noArrow_iff _).mpr late) fun rounded =>
    absurd rounded angular
  exact ofLines_of_declaration (whole_line is_id whole) said

/-- With an early arrow a text is refused. -/
theorem ofLines_of_earlyArrow (early : EarlyArrow node.label) :
    ∃ before behind : String, node.label = before ++ "->" ++ behind ∧ ':' ∉ before.toList ∧
      ¬ ['-', '>'] <:+: before.toList ∧
      ofLines (String.ofList node.line) = .error (.line 1 (.invalidEnd
        (Text.trimmed (node.id ++ " " ++ String.ofList node.shape.opener ++ before)))) := by
  obtain ⟨before, behind, split, free, none⟩ := early.exists_first
  have characters : node.label.toList = before.toList ++ '-' :: '>' :: behind.toList := by
    simp [split]
  have said := ofLine_line_of_arrow is_id characters free ((noArrow_iff _).mpr none)
  refine ⟨before, behind, split, free, none, ?_⟩
  rw [ofLines_of_lineFault (whole_line is_id whole) said]
  simp [Text.trimmed, opening]

end Node

/-! ### Texts of one declaration -/

/-- The texts that declare a node with a label between brackets, or between braces. -/
def declarationTexts (id label : String) : List (String × Shape) :=
  [(id ++ " [" ++ label ++ "]", .box), (id ++ " \x7b" ++ label ++ "\x7d", .diamond)]

theorem eq_line_of_mem_declarationTexts {id label text : String} {shape : Shape}
    (form : (text, shape) ∈ declarationTexts id label) :
    text = String.ofList (Node.line ⟨id, label, shape⟩) ∧ shape ≠ .rounded := by
  simp only [declarationTexts, List.mem_cons, Prod.mk.injEq, List.not_mem_nil, or_false] at form
  rcases form with ⟨rfl, rfl⟩ | ⟨rfl, rfl⟩ <;>
    exact ⟨by simp [← String.toList_inj, Node.line, Shape.around], by decide⟩

/--
**The label of a node is free text, but for an arrow before its first colon.**

The text that declares a node with a label between brackets or braces describes the diagram of
just that node, with the shape of the delimiters and with the label, less the blanks around
it, if and only if no arrow stands in the label before its first colon.  Otherwise the text
is refused, and what stands before the first of the arrows is said to be no end of an edge.
-/
theorem ofLines_declaration_iff {id label text : String} {shape : Shape}
    (is_id : isId id.toList = true) (seen : blankString label = false)
    (whole : '\n' ∉ label.toList) (form : (text, shape) ∈ declarationTexts id label) :
    (ofLines text = .ok (single ⟨id, trimmed label, shape⟩) ↔ ¬ EarlyArrow label) ∧
      (EarlyArrow label →
        ∃ before behind : String, label = before ++ "->" ++ behind ∧ ':' ∉ before.toList ∧
          ¬ ['-', '>'] <:+: before.toList ∧
          ofLines text = .error (.line 1 (.invalidEnd
            (trimmed (id ++ " " ++ String.ofList shape.opener ++ before))))) := by
  obtain ⟨rfl, angular⟩ := eq_line_of_mem_declarationTexts form
  let node : Node := ⟨id, label, shape⟩
  have is_id : isId node.id.toList = true := is_id
  have refused := Node.ofLines_of_earlyArrow is_id whole
  refine ⟨⟨fun described early => ?_, fun late => ?_⟩, refused⟩
  · obtain ⟨_, _, -, -, -, fault⟩ := refused early
    rw [described] at fault
    cases fault
  · have seen' : ¬ Blank node.label.toList := by
      rwa [← isAllBlank_iff, Bool.not_eq_true]
    exact Node.ofLines_of_not_earlyArrow is_id whole seen' late angular

theorem ofLines_declaration_iff_marked :
    ofLines "a- [ # title]: \x7b-> b]]" = .ok (single ⟨"a-", "# title]: \x7b-> b]", .box⟩) ∧
      EarlyArrow ">- -> x: -> y" ∧
      ∃ before behind : String, ">- -> x: -> y" = before ++ "->" ++ behind ∧
        ':' ∉ before.toList ∧ ¬ ['-', '>'] <:+: before.toList ∧
        ofLines "é \x7b>- -> x: -> y\x7d" = .error (.line 1 (.invalidEnd
          (trimmed ("é" ++ " " ++ String.ofList Shape.diamond.opener ++ before)))) := by
  have late : ¬ EarlyArrow " # title]: \x7b-> b]" := by decide +kernel
  have early : EarlyArrow ">- -> x: -> y" := by decide +kernel
  have box : ("a- [ # title]: \x7b-> b]]", Shape.box)
      ∈ declarationTexts "a-" " # title]: \x7b-> b]" := by decide +kernel
  have diamond : ("é \x7b>- -> x: -> y\x7d", Shape.diamond)
      ∈ declarationTexts "é" ">- -> x: -> y" := by decide +kernel
  have declared := ofLines_declaration_iff (by decide +kernel) (by decide +kernel)
    (by decide +kernel) box
  have refused := ofLines_declaration_iff (by decide +kernel) (by decide +kernel)
    (by decide +kernel) diamond
  exact ⟨declared.1.mpr late, early, refused.2 early⟩

/-- **The label of a node is not free**: an arrow makes ends of edges of its line. -/
theorem not_label_free :
    ¬ ∀ id label : String, isId id.toList = true → blankString label = false →
      '\n' ∉ label.toList → ∀ text shape, (text, shape) ∈ declarationTexts id label →
        ∃ d, ofLines text = .ok d ∧ d.nodes = [⟨id, trimmed label, shape⟩] ∧ d.edges = [] := by
  intro free
  obtain ⟨d, described, -⟩ := free "a" "x -> y" (by decide +kernel) (by decide +kernel)
    (by decide +kernel) "a [x -> y]" .box (by decide +kernel)
  have refused : ofLines "a [x -> y]" = .error (.line 1 (.invalidEnd "a [x")) := by decide +kernel
  rw [refused] at described
  cases described

end Draftsman.Diagram
