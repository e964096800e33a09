/-
Diagrams written as JSON, and the choice between the two ways to write one.

A text whose first character that is not blank is a brace is JSON; every other text
is a list of statements.  In JSON a node without a label, or with a blank one, is
labelled with its id.
-/
import Draftsman.Diagram.Statement
import Draftsman.Json.Codec

namespace Draftsman.Diagram

open Draftsman.Text
open Draftsman.Json (Codec Field Row)

/-- Directions, by name. -/
def Direction.codec : Codec Direction :=
  .choice
    [("TB", .topBottom), ("TD", .topBottom), ("tb", .topBottom), ("td", .topBottom),
      ("LR", .leftRight), ("lr", .leftRight)]
    Direction.name

/-- Shapes, by name. -/
def Shape.codec : Codec Shape :=
  .choice [("box", .box), ("rounded", .rounded), ("ellipse", .ellipse), ("diamond", .diamond)]
    Shape.name

/-- Nodes. -/
def Node.codec : Codec Node :=
  (Codec.record "Node" <|
    .cons (.required "id" .string) <|
    .cons (.default "label" .string "") <|
    .cons (.default "shape" Shape.codec .box) .nil).map
    (fun (id, label, shape, _) => ⟨id, label, shape⟩)
    (fun node => (node.id, node.label, node.shape, ()))

/-- Edges. -/
def Edge.codec : Codec Edge :=
  (Codec.record "Edge" <|
    .cons (.required "from" .string) <|
    .cons (.required "to" .string) <|
    .cons (.optional "label" .string) .nil).map
    (fun (source, target, label, _) => ⟨source, target, label⟩)
    (fun e => (e.source, e.target, e.label, ()))

/-- Diagrams. -/
def codec : Codec Diagram :=
  (Codec.record "DiagramSpec" <|
    .cons (.optional "title" .string) <|
    .cons (.default "direction" Direction.codec .topBottom) <|
    .cons (.default "nodes" (.list Node.codec) []) <|
    .cons (.default "edges" (.list Edge.codec) []) .nil).map
    (fun (title, direction, nodes, edges, _) => ⟨title, direction, nodes, edges⟩)
    (fun d => (d.title, d.direction, d.nodes, d.edges, ()))

/-- The node, labelled with its id if it has no label to be seen. -/
def Node.labelled (node : Node) : Node :=
  if blankString node.label then { node with label := node.id } else node

/-- The diagram that a JSON text describes. -/
def ofJson (text : String) : Except Fault Diagram := do
  let d ← (codec.decode text).mapError .json
  let d := { d with nodes := d.nodes.map Node.labelled }
  d.check
  .ok d

/-- Whether a text is to be read as JSON. -/
def looksLikeJson (text : String) : Bool := (trimStart text.toList).head? == some '\x7b'

/-- The diagram that a text describes. -/
def ofText (text : String) : Except Fault Diagram :=
  if looksLikeJson text then ofJson text else ofLines text

end Draftsman.Diagram
