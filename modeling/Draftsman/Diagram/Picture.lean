/-
The picture of a diagram: what is drawn where.

A picture holds the geometry only: the title, a line or a loop for each edge, and
an outline for each node, all with the texts that go with them.  How that becomes
a document is no concern of this module.
-/
import Draftsman.Diagram.Outline

namespace Draftsman.Diagram

variable {α : Type} [Add α] [Sub α] [Mul α] [Div α] [Scalar α]

/-- A text and the point in its middle. -/
structure Caption (α : Type) where
  centre : Point α
  text : String
  deriving Repr

/-- How the path of an edge runs. -/
inductive Route (α : Type) where
  /-- Straight from one point to another. -/
  | line (start finish : Point α)
  /-- An arc off the side of a node at `x`, from `top` to `bottom` and as far out as `reach`. -/
  | loop (x top bottom reach : α)
  deriving Repr

/-- An edge as it is drawn. -/
structure Stroke (α : Type) where
  route : Route α
  /-- An edge that was set aside is dashed. -/
  dashed : Bool
  label : Option (Caption α)
  deriving Repr

/-- A node as it is drawn. -/
structure Figure (α : Type) where
  node : Node
  placement : Placement α
  deriving Repr

/-- A diagram as it is drawn. -/
structure Picture (α : Type) where
  width : α
  height : α
  title : Option (Caption α)
  strokes : List (Stroke α)
  figures : List (Figure α)
  deriving Repr

/-- The point halfway between two. -/
def midpoint (p q : Point α) : Point α := ⟨(p.x + q.x) / units 2, (p.y + q.y) / units 2⟩

/-- How far a loop reaches out of its node. -/
def loopReach : α := units 36

/-- The gap between a loop and its label. -/
def loopGap : α := units 4

/-- The edge from a node to itself, off its right-hand side. -/
def loopStroke (p : Placement α) (label : Option String) (dashed : Bool) : Stroke α :=
  let x := p.x + p.width / units 2
  let reach := x + loopReach
  { route := .loop x (p.y - p.height / units 4) (p.y + p.height / units 4) reach
    dashed
    label := label.map fun text => ⟨⟨reach + loopGap, p.y⟩, text⟩ }

/-- The edge from one node to another, between their outlines. -/
def lineStroke (source target : Figure α) (label : Option String) (dashed : Bool) : Stroke α :=
  let start := source.placement.boundary source.node.shape target.placement.centre
  let finish := target.placement.boundary target.node.shape source.placement.centre
  { route := .line start finish
    dashed
    label := label.map fun text => ⟨midpoint start finish, text⟩ }

/-- The edge with a number, if both its ends are there. -/
def stroke? (d : Diagram) (figures : List (Figure α)) (backEdges : List Bool) (edge : Edge × Nat) :
    Option (Stroke α) := do
  let source ← d.indexOf? edge.1.source
  let target ← d.indexOf? edge.1.target
  let dashed := backEdges.getD edge.2 false
  let start ← figures[source]?
  let finish ← figures[target]?
  if source = target then some (loopStroke start.placement edge.1.label dashed)
  else some (lineStroke start finish edge.1.label dashed)

/-- The title, in the middle of the room above the nodes. -/
def titleCaption (d : Diagram) (width : α) : Option (Caption α) :=
  d.title.map fun text => ⟨⟨width / units 2, margin + titleRoom / units 2⟩, text⟩

/-- The nodes with their placements. -/
def figures (d : Diagram) (layout : Layout α) : List (Figure α) :=
  (d.nodes.zip layout.nodes).map fun (node, placement) => ⟨node, placement⟩

/-- The picture of a diagram that is laid out. -/
def picture (d : Diagram) (layout : Layout α) : Picture α :=
  let figures := d.figures layout
  { width := layout.width
    height := layout.height
    title := d.titleCaption layout.width
    strokes := d.edges.zipIdx.filterMap (d.stroke? figures layout.backEdges)
    figures }

end Draftsman.Diagram
