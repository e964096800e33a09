/-
Diagrams written one statement per line.

A line sets the title or the direction, declares a node, or draws a chain of edges.
What a line says does not depend on the lines before it, so reading a text has two
parts: `Statement.ofLine` reads one line, and `Draft.add` enters what it says into
the diagram made so far.  Edges bring their nodes with them; a declaration replaces
such a node in its place, and only a second declaration of one id is an offence.
-/
import Draftsman.Diagram.Basic
import Draftsman.Text.Alphanumeric

namespace Draftsman.Diagram

open Draftsman.Text

/-- What one line says. -/
inductive Statement where
  /-- A blank line or a remark. -/
  | nothing
  | title (text : Option String)
  | direction (direction : Direction)
  | declaration (node : Node)
  /-- Edges from each id to the next; the label is that of the last one. -/
  | chain (ids : List String) (label : Option String)
  deriving DecidableEq, Repr

/-! ### Reading a line -/

/-- A string, unless it is empty. -/
def nonempty? (text : List Char) : Option String :=
  if text.isEmpty then none else some (String.ofList text)

/-- The value of a line `key: value`, the key being `key` in upper or lower case. -/
def setting? (key : String) (line : List Char) : Option (List Char) :=
  match cut ':' line with
  | none => none
  | some (head, value) =>
    if (trim head).map Char.toLower = key.toList then some (trim value) else none

/-- Whether a character may stand in an id that is written in a line. -/
def isIdChar (c : Char) : Bool := isAlphanumeric c || c == '_' || c == '-' || c == '.'

/-- Whether a text may be an id that is written in a line. -/
def isId (text : List Char) : Bool := !text.isEmpty && text.all isIdChar

/-- The parts of a text between its arrows. -/
def splitArrows : List Char → List (List Char)
  | [] => [[]]
  | '-' :: '>' :: rest => [] :: splitArrows rest
  | c :: rest =>
    match splitArrows rest with
    | [] => [[c]]
    | part :: parts => (c :: part) :: parts

/-- What stands before the first colon of a line, and the label behind it. -/
def cutLabel (line : List Char) : List Char × Option String :=
  match cut ':' line with
  | some (chain, label) => (chain, nonempty? (trim label))
  | none => (line, none)

/-- The edges of a line, or none if there is no arrow before its first colon. -/
def chain? (line : List Char) : Option (Except LineFault Statement) :=
  let (chain, label) := cutLabel line
  match splitArrows chain with
  | [_] => none
  | parts =>
    let ids := parts.map trim
    match ids.find? fun id => !isId id with
    | some id => some (.error (.invalidEnd (String.ofList id)))
    | none => some (.ok (.chain (ids.map String.ofList) label))

/-- The delimiters around the labels of nodes, and the shape they stand for. -/
def delimiters : List (String × String × Shape) :=
  [("((", "))", .ellipse), ("[", "]", .box), ("(", ")", .rounded), ("\x7b", "\x7d", .diamond)]

/-- The text between two delimiters. -/
def between? (opener closer : String) (text : List Char) : Option (List Char) := do
  dropSuffix? closer.toList (← dropPrefix? opener.toList text)

/-- The label and the shape that follow an id. -/
def labelled? (text : List Char) : Option (List Char × Shape) :=
  delimiters.findSome? fun (opener, closer, shape) =>
    (between? opener closer text).map fun inner => (trim inner, shape)

/-- Whether a character ends the id at the beginning of a declaration. -/
def endsId (c : Char) : Bool := isBlank c || c == '[' || c == '(' || c == '\x7b'

/-- The node that a line declares. -/
def declaration (line : List Char) : Except LineFault Node :=
  let (id, rest) := line.span fun c => !endsId c
  if !isId id then .error (.invalidId (String.ofList id))
  else
    let id := String.ofList id
    let rest := trim rest
    if rest.isEmpty then .ok (.plain id)
    else
      match labelled? rest with
      | some (label, shape) => .ok ⟨id, (nonempty? label).getD id, shape⟩
      | none => .error (.invalidShape (String.ofList line))

/-- What a line says that is neither blank nor a remark. -/
def statementOf (line : List Char) : Except LineFault Statement :=
  match setting? "title" line with
  | some value => .ok (.title (nonempty? value))
  | none =>
    match setting? "direction" line with
    | some value =>
      match Direction.ofName (String.ofList value) with
      | .ok direction => .ok (.direction direction)
      | .error name => .error (.unknownDirection name)
    | none =>
      match chain? line with
      | some statement => statement
      | none => (declaration line).map .declaration

/-- What a line says. -/
def Statement.ofLine (line : List Char) : Except LineFault Statement :=
  match trim line with
  | [] => .ok .nothing
  | '#' :: _ => .ok .nothing
  | line => statementOf line

/-! ### Entering what lines say -/

/-- A diagram under construction, and the ids that a declaration has named. -/
structure Draft where
  diagram : Diagram
  declared : List String

/-- Nothing has been said yet. -/
def Draft.empty : Draft := ⟨.empty, []⟩

/-- Adds a node for an id unless there is one. -/
def mention (d : Diagram) (id : String) : Diagram :=
  match d.indexOf? id with
  | some _ => d
  | none => { d with nodes := d.nodes ++ [.plain id] }

/-- The edges of a chain. -/
def chainEdges (label : Option String) : List String → List Edge
  | a :: b :: rest =>
    ⟨a, b, if rest.isEmpty then label else none⟩ :: chainEdges label (b :: rest)
  | _ => []

/-- Puts a node in the place of the one with its id, or behind all others. -/
def place (d : Diagram) (node : Node) : Diagram :=
  match d.indexOf? node.id with
  | some index => { d with nodes := d.nodes.set index node }
  | none => { d with nodes := d.nodes ++ [node] }

/-- Enters what one line says. -/
def Draft.add (draft : Draft) : Statement → Except Fault Draft
  | .nothing => .ok draft
  | .title text => .ok { draft with diagram := { draft.diagram with title := text } }
  | .direction direction => .ok { draft with diagram := { draft.diagram with direction } }
  | .declaration node =>
    if node.id ∈ draft.declared then .error (.duplicateNode node.id)
    else .ok ⟨place draft.diagram node, node.id :: draft.declared⟩
  | .chain ids label =>
    let mentioned := ids.foldl mention draft.diagram
    .ok { draft with
      diagram := { mentioned with edges := mentioned.edges ++ chainEdges label ids } }

/-- Reads a line and enters what it says; `number` is its place in the text. -/
def Draft.addLine (draft : Draft) (number : Nat) (line : List Char) : Except Fault Draft :=
  match Statement.ofLine line with
  | .error fault => .error (.line number fault)
  | .ok statement => draft.add statement

/-- Enters lines of which the first has the given number. -/
def Draft.addLines (draft : Draft) (number : Nat) : List (List Char) → Except Fault Draft
  | [] => .ok draft
  | line :: rest => do (← draft.addLine number line).addLines (number + 1) rest

/-- The diagram that a text of statements describes. -/
def ofLines (text : String) : Except Fault Diagram := do
  let draft ← Draft.empty.addLines 1 (lines text.toList)
  draft.diagram.check
  .ok draft.diagram

end Draftsman.Diagram
