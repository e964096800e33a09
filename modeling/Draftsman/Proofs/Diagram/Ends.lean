/-
Where the ends of edges are found.

An id is looked up three times: the check asks whether there is a node with it, the layout
takes the last such node, and the picture the first one.  What the layout does not find it
leaves out of the graph, and what the picture does not find it does not draw; neither says
so.  The check is what keeps that from happening: it accepts exactly the diagrams in which
each end of an edge is the id of a node, and of one node only, so that all three lookups
come to the same node (`Found`), and every edge is an arc of the graph and a stroke of the
picture.
-/
import Draftsman.Proofs.Diagram.Picture

namespace Draftsman.Diagram

open Draftsman.Text (blankString)
open Draftsman.Graph (Arc arcsOf)

variable {α : Type} {d : Diagram}

/-! ### The node of an id -/

/-- A node as it is found by its id: where it stands, and where it is drawn. -/
structure Found (d : Diagram) (l : Layout α) (id : String) (i : Nat) (node : Node)
    (p : Placement α) : Prop where
  /-- The layout finds it. -/
  last : lastIndex? id d.nodes = some i
  /-- The picture finds it. -/
  first : d.indexOf? id = some i
  there : d.nodes[i]? = some node
  named : node.id = id
  placed : l.nodes[i]? = some p

/-- An edge between nodes that are found joins their positions. -/
theorem Found.joins (sound : d.Sound) {l : Layout α} {number i j : Nat} {e : Edge} {n m : Node}
    {p q : Placement α} (edge : d.edges[number]? = some e) (source : d.Found l e.source i n p)
    (target : d.Found l e.target j m q) : d.Joins number i j :=
  ⟨e, edge, (indexOf?_eq_some_iff sound.distinct _ _).mp source.first,
    (indexOf?_eq_some_iff sound.distinct _ _).mp target.first⟩

variable [Add α] [Sub α] [Mul α] [Div α] [Scalar α]

/-- Of a sound diagram every id of a node is found. -/
theorem Sound.exists_found (sound : d.Sound) {id : String} (mem : id ∈ d.ids) :
    ∃ i node p, d.Found (d.layout : Layout α) id i node p := by
  obtain ⟨i, first, bound⟩ := sound.exists_indexOf? mem
  have last := first
  rw [← lastIndex?_eq_indexOf? sound.distinct] at last
  have node := List.getElem?_eq_getElem bound
  have here := (indexOf?_eq_some_iff sound.distinct id i).mp first
  rw [ids, List.getElem?_map, node] at here
  have placed := bound
  rw [← layout_nodes_length (α := α) d] at placed
  exact ⟨i, d.nodes[i], _, last, first, node, Option.some.inj here, List.getElem?_eq_getElem placed⟩

/-! ### Every edge is an arc -/

/-- The arcs of a sound diagram lead from node to node. -/
theorem Sound.arc_inside (sound : d.Sound) {u : Nat} {arc : Arc}
    (mem : arc ∈ arcsOf d.adjacency u) :
    u < d.nodes.length ∧ arc.target < d.nodes.length ∧ arc.edge < d.edges.length := by
  have source := Graph.lt_length_of_mem_arcsOf mem
  have target := sound.proper.inside u arc mem
  rw [adjacency_length] at source target
  exact ⟨source, target, ((mem_arcsOf_adjacency sound.distinct u arc).mp mem).lt_length⟩

/-- **Every edge of a sound diagram is an arc of its graph, and only once.** -/
theorem Sound.arcs_perm (sound : d.Sound) :
    (d.adjacency.flatten.map Arc.edge).Perm (List.range d.edges.length) := by
  rw [List.perm_ext_iff_of_nodup d.adjacency_edges_nodup List.nodup_range]
  intro edge
  rw [List.mem_range, List.mem_map]
  constructor
  · rintro ⟨arc, mem, rfl⟩
    obtain ⟨arcs, among, mem⟩ := List.mem_flatten.mp mem
    obtain ⟨u, bound, rfl⟩ := List.getElem_of_mem among
    refine (sound.arc_inside (u := u) ?_).2.2
    rwa [arcsOf, List.getD_eq_getElem?_getD, List.getElem?_eq_getElem bound]
  · intro bound
    obtain ⟨u, v, joins⟩ := sound.exists_joins bound
    have mem := (mem_arcsOf_adjacency sound.distinct u ⟨edge, v⟩).mpr joins
    have among := Graph.arcsOf_mem (Graph.lt_length_of_mem_arcsOf mem)
    exact ⟨⟨edge, v⟩, List.mem_flatten.mpr ⟨_, among, mem⟩, rfl⟩

/-! ### What the check is for -/

theorem Sound.strokes_length (sound : d.Sound) :
    (d.picture (d.layout : Layout α)).strokes.length = d.edges.length := by
  have shown := congrArg List.length (sound.strokes_shown (α := α))
  simpa using shown

/-- What becomes of an edge of a sound diagram. -/
theorem Sound.edge_settled (sound : d.Sound) {number : Nat} {e : Edge}
    (edge : d.edges[number]? = some e) :
    ∃ i n p j m q, d.Found (d.layout : Layout α) e.source i n p ∧
      d.Found (d.layout : Layout α) e.target j m q ∧
      ⟨number, j⟩ ∈ arcsOf d.adjacency i ∧
      (d.picture (d.layout : Layout α)).strokes[number]? =
        let dashed := (d.layout : Layout α).backEdges.getD number false
        some (if i = j then loopStroke p e.label dashed
          else lineStroke ⟨n, p⟩ ⟨m, q⟩ e.label dashed) := by
  obtain ⟨source, target⟩ := sound.joined e (List.mem_of_getElem? edge)
  obtain ⟨i, n, p, start⟩ := sound.exists_found (α := α) source
  obtain ⟨j, m, q, finish⟩ := sound.exists_found (α := α) target
  refine ⟨i, n, p, j, m, q, start, finish, ?_, ?_⟩
  · exact (mem_arcsOf_adjacency sound.distinct i _).mpr (Found.joins sound edge start finish)
  · exact sound.getElem?_strokes edge ⟨start.there, start.named⟩ ⟨finish.there, finish.named⟩
      start.placed finish.placed

/--
**What the check of a diagram settles.**

It accepts exactly the diagrams that have a node, whose ids are neither blank nor the same,
and whose edges have ids of nodes at both ends.  In such a diagram every id is found at the
same position by the layout and by the picture, if at all.  Of each edge both ends are
found; it is an arc of the graph, between positions that are there and only once, and it is
drawn between the placements of the two nodes.  So no edge is left out.
-/
theorem check_settles_edges (d : Diagram) :
    (d.check = .ok () ↔ d.nodes ≠ [] ∧ (∀ id ∈ d.ids, blankString id = false) ∧ d.ids.Nodup ∧
      ∀ e ∈ d.edges, e.source ∈ d.ids ∧ e.target ∈ d.ids) ∧
    (d.check = .ok () →
      let l : Layout α := d.layout
      (∀ id, lastIndex? id d.nodes = d.indexOf? id) ∧
      (∀ number e, d.edges[number]? = some e → ∃ i n p j m q,
        d.Found l e.source i n p ∧ d.Found l e.target j m q ∧
        ⟨number, j⟩ ∈ arcsOf d.adjacency i ∧
        (d.picture l).strokes[number]? =
          let dashed := l.backEdges.getD number false
          some (if i = j then loopStroke p e.label dashed
            else lineStroke ⟨n, p⟩ ⟨m, q⟩ e.label dashed)) ∧
      (d.adjacency.flatten.map Arc.edge).Perm (List.range d.edges.length) ∧
      (d.picture l).strokes.length = d.edges.length ∧
      d.adjacency.length = d.nodes.length ∧ l.nodes.length = d.nodes.length ∧
      l.backEdges.length = d.edges.length ∧
      ∀ u, ∀ arc ∈ arcsOf d.adjacency u,
        u < d.nodes.length ∧ arc.target < d.nodes.length ∧ arc.edge < d.edges.length) := by
  constructor
  · rw [check_eq_ok_iff]
    constructor
    · intro sound
      exact ⟨sound.inhabited, sound.named, sound.distinct, sound.joined⟩
    · rintro ⟨inhabited, named, distinct, joined⟩
      exact ⟨inhabited, named, distinct, joined⟩
  · intro checked l
    have sound := (check_eq_ok_iff d).mp checked
    exact ⟨lastIndex?_eq_indexOf? sound.distinct, fun _ _ edge => sound.edge_settled edge,
      sound.arcs_perm, sound.strokes_length, adjacency_length d, layout_nodes_length d,
      layout_backEdges_length d, fun _ _ mem => sound.arc_inside mem⟩

/-- The edge that closes a circle leads from its last node back to the first one. -/
theorem check_settles_edges_circle :
    circle.check = .ok () ∧ circle.edges[2]? = some ⟨"c", "a", none⟩ ∧
      ∃ n p m q, circle.Found (circle.layout : Layout Float) "c" 2 n p ∧
        circle.Found (circle.layout : Layout Float) "a" 0 m q ∧
        ⟨2, 0⟩ ∈ arcsOf circle.adjacency 2 ∧
        (circle.picture (circle.layout : Layout Float)).strokes[2]?
          = some (lineStroke ⟨n, p⟩ ⟨m, q⟩ none true) := by
  have checked : circle.check = .ok () := rfl
  have edge : circle.edges[2]? = some ⟨"c", "a", none⟩ := rfl
  obtain ⟨i, n, p, j, m, q, source, target, arc, stroke⟩ :=
    ((check_settles_edges (α := Float) circle).2 checked).2.1 2 _ edge
  obtain rfl : i = 2 := Option.some.inj (source.first.symm.trans rfl)
  obtain rfl : j = 0 := Option.some.inj (target.first.symm.trans rfl)
  exact ⟨checked, edge, n, p, m, q, source, target, arc, stroke⟩

end Draftsman.Diagram
