/-
Where the nodes of a diagram are drawn.

Nodes stand in layers, each layer across the direction of the diagram.  An edge
leads from a lower layer to a higher one, unless it was set aside because it closes
a cycle.  Inside a layer nodes keep their order and have ranks from zero on.  All
nodes have one size, wide enough for the longest label, and every layer is centred
on the others.
-/
import Draftsman.Diagram.Basic
import Draftsman.Diagram.Graph
import Draftsman.Diagram.Scalar

namespace Draftsman.Diagram

open Draftsman.Graph (Adjacency Arc)

/-! ### The graph of a diagram -/

/-- The position of the last node with an id. -/
def lastIndex? (id : String) : List Node → Option Nat
  | [] => none
  | node :: rest =>
    match lastIndex? id rest with
    | some index => some (index + 1)
    | none => if node.id = id then some 0 else none

/-- An edge between positions: where it begins, and the arc that it is. -/
structure Link where
  source : Nat
  arc : Arc
  deriving DecidableEq, Repr

/-- The edge with a number as a link, if both its ends are there. -/
def link? (d : Diagram) (edge : Edge × Nat) : Option Link := do
  let source ← lastIndex? edge.1.source d.nodes
  let target ← lastIndex? edge.1.target d.nodes
  some ⟨source, ⟨edge.2, target⟩⟩

/-- The edges between nodes that are there, in their order. -/
def links (d : Diagram) : List Link := d.edges.zipIdx.filterMap d.link?

/-- The arcs that leave each node. -/
def adjacency (d : Diagram) : Adjacency :=
  let links := d.links
  (List.range d.nodes.length).map fun node =>
    (links.filter fun link => link.source == node).map Link.arc

/-- The edges that are set aside because they close a cycle, by number. -/
def backEdges (d : Diagram) : List Nat := Graph.backEdges d.adjacency

/-- The layer of each node. -/
def layers (d : Diagram) : List Nat := Graph.layers d.adjacency d.backEdges

/-! ### Layers and ranks -/

/-- How many layers there are. -/
def layerCount (layers : List Nat) : Nat :=
  layers.foldl (fun count layer => max count (layer + 1)) 0

/-- How many nodes each layer holds. -/
def layerSizes (layers : List Nat) : List Nat :=
  (List.range (layerCount layers)).map fun layer => layers.count layer

/-- The rank of each node: how many nodes before it are in its layer. -/
def ranks (layers : List Nat) : List Nat :=
  layers.zipIdx.map fun (layer, index) => (layers.take index).count layer

/-- The greatest number of a list; zero if it is empty. -/
def greatest (ns : List Nat) : Nat := ns.foldl max 0

/-! ### Sizes -/

/-- Where a node is drawn: its centre, its size, and its place among the layers. -/
structure Placement (α : Type) where
  x : α
  y : α
  width : α
  height : α
  layer : Nat
  rank : Nat
  deriving Repr

/-- Where everything is drawn. -/
structure Layout (α : Type) where
  width : α
  height : α
  /-- The placement of each node. -/
  nodes : List (Placement α)
  /-- Which edges were set aside. -/
  backEdges : List Bool
  layerCount : Nat
  deriving Repr

variable {α : Type} [Add α] [Sub α] [Mul α] [Div α] [Scalar α]

/-- A natural number as a length. -/
def units (n : Nat) : α := Scalar.ofNat n

/-- The height of every node. -/
def nodeHeight : α := units 56

/-- The space left free around everything. -/
def margin : α := units 32

/-- The room that a title takes. -/
def titleRoom : α := units 40

/-- The width that is reckoned for a character. -/
def charWidth : α := units 8

/-- The least width of a node. -/
def leastWidth : α := units 120

/-- The room around the longest label inside its node. -/
def padding : α := units 32

/-- The gap between layers. -/
def layerGap : α := units 72

/-- The gap between the nodes of a layer. -/
def siblingGap : α := units 40

/-- The length of the longest label. -/
def longestLabel (d : Diagram) : Nat := greatest (d.nodes.map fun node => node.label.length)

/-- The width of every node. -/
def nodeWidth (d : Diagram) : α :=
  Scalar.max (units d.longestLabel * charWidth + padding) leastWidth

/-- The height above the nodes that the title needs. -/
def titleHeight (d : Diagram) : α := if d.title.isSome then titleRoom else units 0

/-- The width that the title needs. -/
def titleWidth (d : Diagram) : α :=
  match d.title with
  | some title => units title.length * charWidth * (units 5 / units 4)
  | none => units 0

/-- The size of a node along the direction of the diagram. -/
def mainSize (d : Diagram) : α :=
  match d.direction with
  | .topBottom => nodeHeight
  | .leftRight => d.nodeWidth

/-- The size of a node across the direction of the diagram. -/
def crossSize (d : Diagram) : α :=
  match d.direction with
  | .topBottom => d.nodeWidth
  | .leftRight => nodeHeight

/-- The distance from one layer to the next. -/
def mainStep (d : Diagram) : α := d.mainSize + layerGap

/-- The length of things of one size in a row with gaps between them. -/
def span (count : Nat) (size gap : α) : α :=
  if count = 0 then units 0 else units count * size + units (count - 1) * gap

/-- The length of a layer with a number of nodes. -/
def crossSpan (d : Diagram) (count : Nat) : α := span count d.crossSize siblingGap

/-- The length of the layers along the direction of the diagram. -/
def mainExtent (d : Diagram) (count : Nat) : α := span count d.mainSize (d.mainStep - d.mainSize)

/-- The width of everything. -/
def canvasWidth (d : Diagram) (layers : List Nat) : α :=
  let content :=
    match d.direction with
    | .topBottom => d.crossSpan (greatest (layerSizes layers))
    | .leftRight => d.mainExtent (layerCount layers)
  Scalar.max content d.titleWidth + units 2 * margin

/-- The height of everything. -/
def canvasHeight (d : Diagram) (layers : List Nat) : α :=
  let content :=
    match d.direction with
    | .topBottom => d.mainExtent (layerCount layers)
    | .leftRight => d.crossSpan (greatest (layerSizes layers))
  content + d.titleHeight + units 2 * margin

/-- The length in which every layer is centred. -/
def availableCross (d : Diagram) (layers : List Nat) : α :=
  match d.direction with
  | .topBottom => d.canvasWidth layers - units 2 * margin
  | .leftRight => d.crossSpan (greatest (layerSizes layers))

/-- The middle of a node along the direction of the diagram. -/
def mainMiddle (d : Diagram) (layer : Nat) : α :=
  units layer * d.mainStep + d.mainSize / units 2

/--
The middle of a node across the direction of the diagram, in a layer of `count`
nodes that is centred in the length `available`.
-/
def crossMiddle (d : Diagram) (available : α) (count rank : Nat) : α :=
  (available - d.crossSpan count) / units 2 + units rank * (d.crossSize + siblingGap) +
    d.crossSize / units 2

/-- Where the node with a rank in a layer of `count` nodes is drawn. -/
def placement (d : Diagram) (available : α) (count layer rank : Nat) : Placement α :=
  let main : α := d.mainMiddle layer
  let cross : α := d.crossMiddle available count rank
  let (x, y) :=
    match d.direction with
    | .topBottom => (margin + cross, margin + d.titleHeight + main)
    | .leftRight => (margin + main, margin + d.titleHeight + cross)
  { x, y, width := d.nodeWidth, height := nodeHeight, layer, rank }

/-- Where everything is drawn, the nodes being in the given layers. -/
def layoutIn (d : Diagram) (back layers : List Nat) : Layout α :=
  let available := d.availableCross layers
  { width := d.canvasWidth layers
    height := d.canvasHeight layers
    nodes := (layers.zip (ranks layers)).map fun (layer, rank) =>
      d.placement available (layers.count layer) layer rank
    backEdges := d.edges.zipIdx.map fun (_, edge) => back.contains edge
    layerCount := layerCount layers }

/-- Where everything is drawn. -/
def layout (d : Diagram) : Layout α :=
  let back := d.backEdges
  d.layoutIn back (Graph.layers d.adjacency back)

end Draftsman.Diagram
