/-
The layers of a directed graph.

A graph is given by the arcs that leave each node, an arc being the number of an
edge and the node it leads to; several arcs may join the same two nodes.

First a depth-first search finds the edges that close a cycle: those that lead to a
node the search has entered and not yet left.  Without them the graph has no cycle,
so its nodes can be taken one by one, each after all nodes with an arc to it, and a
node's layer is the length of the longest way to it.

Both parts go on one step at a time, and the number of steps is known beforehand:
every node is entered and left once, and every arc is looked at once.
-/
namespace Draftsman.Graph

/-- An edge as it leaves a node: its number, and the node it leads to. -/
structure Arc where
  edge : Nat
  target : Nat
  deriving DecidableEq, Repr

/-- The arcs that leave each node, in the order in which they are followed. -/
abbrev Adjacency := List (List Arc)

/-- The arcs that leave a node. -/
def arcsOf (g : Adjacency) (node : Nat) : List Arc := g.getD node []

/-! ### The search for edges that close a cycle -/

/-- How far the search is with a node. -/
inductive Mark where
  /-- It has not been entered. -/
  | fresh
  /-- It has been entered, and not all its arcs have been followed. -/
  | active
  /-- It has been left. -/
  | finished
  deriving DecidableEq, Repr

/-- A node that has been entered, and its arcs that are still to be followed. -/
structure Frame where
  node : Nat
  arcs : List Arc
  deriving DecidableEq, Repr

/-- A search under way. -/
structure Search where
  /-- How far it is with each node. -/
  marks : List Mark
  /-- The nodes from which it has still to start, unless it has come to them before. -/
  roots : List Nat
  /-- The nodes it has entered and not left, the last one first. -/
  stack : List Frame
  /-- The edges found to close a cycle, the last one first. -/
  back : List Nat
  deriving DecidableEq, Repr

/-- The search that has not begun. -/
def Search.start (g : Adjacency) : Search where
  marks := g.map fun _ => .fresh
  roots := List.range g.length
  stack := []
  back := []

/-- The mark of a node; nothing is to be done for one that is not there. -/
def Search.mark (s : Search) (node : Nat) : Mark := s.marks.getD node .finished

/-- Enters a node. -/
def Search.enter (g : Adjacency) (s : Search) (node : Nat) : Search :=
  { s with marks := s.marks.set node .active, stack := ⟨node, arcsOf g node⟩ :: s.stack }

/-- Follows one arc, the search being otherwise as in `s`. -/
def Search.follow (g : Adjacency) (s : Search) (arc : Arc) : Search :=
  match s.mark arc.target with
  | .active => { s with back := arc.edge :: s.back }
  | .fresh => s.enter g arc.target
  | .finished => s

/-- The next step: follows an arc, leaves a node, or starts from a root. -/
def Search.step (g : Adjacency) (s : Search) : Option Search :=
  match s.stack, s.roots with
  | ⟨node, arc :: arcs⟩ :: below, _ =>
    some (Search.follow g { s with stack := ⟨node, arcs⟩ :: below } arc)
  | ⟨node, []⟩ :: below, _ =>
    some { s with marks := s.marks.set node .finished, stack := below }
  | [], root :: roots =>
    let s := { s with roots }
    some (if s.mark root = .fresh then s.enter g root else s)
  | [], [] => none

/-- Up to `fuel` steps. -/
def Search.run (g : Adjacency) : (fuel : Nat) → Search → Search
  | 0, s => s
  | fuel + 1, s =>
    match s.step g with
    | none => s
    | some next => next.run g fuel

/-- How many arcs there are. -/
def arcCount (g : Adjacency) : Nat := g.flatten.length

/-- How many steps a whole search takes: two for every node and one for every arc. -/
def searchSteps (g : Adjacency) : Nat := 2 * g.length + arcCount g

/-- The edges that close a cycle. -/
def backEdges (g : Adjacency) : List Nat := ((Search.start g).run g (searchSteps g)).back

/-! ### Layers -/

/-- The arcs of a node that are not among the edges `back`. -/
def forward (g : Adjacency) (back : List Nat) (node : Nat) : List Arc :=
  (arcsOf g node).filter fun arc => !back.contains arc.edge

/-- Nodes that are being put into layers. -/
structure Layering where
  /-- The longest way to each node that has been found. -/
  layers : List Nat
  /-- How many arcs to each node have still to be followed. -/
  waiting : List Nat
  /-- The nodes that have no such arc, and whose own arcs are to be followed next. -/
  ready : List Nat
  deriving DecidableEq, Repr

/-- All arcs that are not among the edges `back`. -/
def forwardArcs (g : Adjacency) (back : List Nat) : List Arc :=
  (List.range g.length).flatMap (forward g back)

/-- How many arcs lead to a node. -/
def indegree (arcs : List Arc) (node : Nat) : Nat := arcs.countP fun arc => arc.target == node

/-- Nothing has been followed yet. -/
def Layering.start (g : Adjacency) (back : List Nat) : Layering :=
  let arcs := forwardArcs g back
  let waiting := (List.range g.length).map (indegree arcs)
  { layers := g.map fun _ => 0
    waiting
    ready := (List.range g.length).filter fun node => waiting.getD node 0 == 0 }

/-- Follows an arc from a node in a layer; its target is ready after the last such arc. -/
def Layering.follow (layer : Nat) (l : Layering) (arc : Arc) : Layering :=
  let left := l.waiting.getD arc.target 0 - 1
  { layers := l.layers.set arc.target (max (l.layers.getD arc.target 0) (layer + 1))
    waiting := l.waiting.set arc.target left
    ready := if left = 0 then l.ready ++ [arc.target] else l.ready }

/-- Takes the next node that is ready and follows its arcs. -/
def Layering.step (g : Adjacency) (back : List Nat) (l : Layering) : Option Layering :=
  match l.ready with
  | [] => none
  | node :: ready =>
    some ((forward g back node).foldl (Layering.follow (l.layers.getD node 0)) { l with ready })

/-- Takes up to `fuel` nodes. -/
def Layering.run (g : Adjacency) (back : List Nat) : (fuel : Nat) → Layering → Layering
  | 0, l => l
  | fuel + 1, l =>
    match l.step g back with
    | none => l
    | some next => next.run g back fuel

/-- The layer of each node, the edges `back` not being counted. -/
def layers (g : Adjacency) (back : List Nat) : List Nat :=
  ((Layering.start g back).run g back g.length).layers

end Draftsman.Graph
