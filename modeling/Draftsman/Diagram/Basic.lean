/-
What a diagram is: labelled nodes, and edges between them.

Nodes are known by their ids, and edges name their two ends by id.  A diagram is
sound when it has a node, no id is blank, no two nodes share an id, and every edge
joins nodes of the diagram.  Nothing in the type enforces this, since diagrams come
from texts; `Diagram.check` finds the first offence.
-/
import Draftsman.Text.Cut
import Draftsman.Json.Fault

namespace Draftsman

open Draftsman.Text

/-- The way the layers of a diagram follow each other. -/
inductive Diagram.Direction where
  | topBottom
  | leftRight
  deriving DecidableEq, Repr

/-- The outline of a node. -/
inductive Diagram.Shape where
  | box
  | rounded
  | ellipse
  | diamond
  deriving DecidableEq, Repr

/-- A node: its label is drawn inside its shape. -/
structure Diagram.Node where
  id : String
  label : String
  shape : Diagram.Shape
  deriving DecidableEq, Repr

/-- An edge between the nodes with two ids. -/
structure Diagram.Edge where
  source : String
  target : String
  label : Option String
  deriving DecidableEq, Repr

/-- Nodes and edges in the order in which they were declared. -/
structure Diagram where
  title : Option String
  direction : Diagram.Direction
  nodes : List Diagram.Node
  edges : List Diagram.Edge
  deriving DecidableEq, Repr

namespace Diagram

/-- The diagram without any nodes. -/
def empty : Diagram := ⟨none, .topBottom, [], []⟩

/-- A box that is labelled with its own id. -/
def Node.plain (id : String) : Node := ⟨id, id, .box⟩

/-- The ids of the nodes. -/
def ids (d : Diagram) : List String := d.nodes.map Node.id

/-- The position of the first node with an id. -/
def indexOf? (d : Diagram) (id : String) : Option Nat := d.nodes.findIdx? fun node => node.id == id

/-- The two ends of an edge. -/
def Edge.ends (e : Edge) : List String := [e.source, e.target]

/-! ### The names of directions and shapes -/

/-- The name of a direction. -/
def Direction.name : Direction → String
  | .topBottom => "TB"
  | .leftRight => "LR"

/-- The name of a shape. -/
def Shape.name : Shape → String
  | .box => "box"
  | .rounded => "rounded"
  | .ellipse => "ellipse"
  | .diamond => "diamond"

/-- A name without blanks around it, and with `f` done to each of its characters. -/
def folded (f : Char → Char) (name : String) : String :=
  String.ofList ((trim name.toList).map f)

/--
The direction that a name means, its ASCII letters in upper or lower case; or the name
nobody knows.
-/
def Direction.ofName (name : String) : Except String Direction :=
  match folded Char.toUpper name with
  | "TB" => .ok .topBottom
  | "TD" => .ok .topBottom
  | "LR" => .ok .leftRight
  | unknown => .error unknown

/--
The shape that a name means, its ASCII letters in upper or lower case; or the name nobody
knows.
-/
def Shape.ofName (name : String) : Except String Shape :=
  match folded Char.toLower name with
  | "box" => .ok .box
  | "rect" => .ok .box
  | "rounded" => .ok .rounded
  | "ellipse" => .ok .ellipse
  | "circle" => .ok .ellipse
  | "diamond" => .ok .diamond
  | unknown => .error unknown

/-- The message for a direction nobody knows. -/
def Direction.unknownMessage (name : String) : String :=
  s!"unknown direction {backquoted name} (expected TB or LR)"

/-- The message for a shape nobody knows. -/
def Shape.unknownMessage (name : String) : String := s!"unknown shape {backquoted name}"

/-! ### Faults -/

/-- Why a line is no statement about a diagram. -/
inductive LineFault where
  | unknownDirection (name : String)
  /-- An edge leads from or to something that is no id. -/
  | invalidEnd (id : String)
  /-- A declaration begins with something that is no id. -/
  | invalidId (id : String)
  /-- Something other than a shape follows the id. -/
  | invalidShape (line : String)
  deriving DecidableEq, Repr

/-- Why there is no diagram. -/
inductive Fault where
  /-- There are no nodes. -/
  | empty
  /-- An edge names a node that is not there. -/
  | unknownNode (source target missing : String)
  /-- Two nodes have one id. -/
  | duplicateNode (id : String)
  /-- The id of a node is blank. -/
  | blankId
  /-- The text is not the JSON of a diagram. -/
  | json (fault : Json.Fault)
  /-- A line, counted from one, is no statement. -/
  | line (number : Nat) (fault : LineFault)
  deriving DecidableEq, Repr

/-- The message for a line that is no statement. -/
def LineFault.message : LineFault → String
  | .unknownDirection name => Direction.unknownMessage name
  | .invalidEnd id => s!"invalid node id {backquoted id} in edge"
  | .invalidId id => s!"invalid node id {backquoted id}"
  | .invalidShape line => s!"cannot parse node declaration {backquoted line}"

/-- The message for a fault. -/
def Fault.message : Fault → String
  | .empty => "diagram has no nodes"
  | .unknownNode source target missing =>
    s!"edge {source} -> {target} references unknown node {backquoted missing}"
  | .duplicateNode id => s!"node {backquoted id} is declared more than once"
  | .blankId => "invalid JSON spec: node id must not be empty"
  | .json fault => s!"invalid JSON spec: {fault.message}"
  | .line number fault => s!"line {number}: {fault.message}"

/-! ### Soundness -/

/-- The first offence among nodes, `seen` being the ids of those before. -/
def checkNodes (seen : List String) : List Node → Except Fault Unit
  | [] => .ok ()
  | node :: rest =>
    if blankString node.id then .error .blankId
    else if node.id ∈ seen then .error (.duplicateNode node.id)
    else checkNodes (node.id :: seen) rest

/-- The offence of an edge, if it has one: the first of its ends that is no node. -/
def checkEdge (ids : List String) (e : Edge) : Except Fault Unit :=
  match e.ends.find? fun id => id ∉ ids with
  | some missing => .error (.unknownNode e.source e.target missing)
  | none => .ok ()

/-- The first offence of a diagram. -/
def check (d : Diagram) : Except Fault Unit := do
  if d.nodes.isEmpty then .error .empty
  checkNodes [] d.nodes
  d.edges.forM (checkEdge d.ids)

end Diagram

end Draftsman
