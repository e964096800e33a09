/-
What a layout makes of cycles, and the layers of its nodes.

The edges that a layout sets aside are told by their numbers.  `Diagram.Without` is the
diagram without some of its edges, as a relation between positions; without those that
are set aside it has no cycle, and the layer of a node is the greatest number of edges
on a way to it.  None of them is set aside in vain: put back alone, it would close a
cycle again.
-/
import Mathlib.Order.Minimal
import Draftsman.Proofs.Diagram.Layering
import Draftsman.Proofs.Diagram.Sound

namespace Draftsman.Diagram

open Draftsman.Graph (Leads Way mem_forward)
open Relation (TransGen ReflTransGen)

/-! ### The edges that are set aside -/

/-- Whether an edge that is not removed leads from the node at one position to that at another. -/
def Without (d : Diagram) (removed : Set Nat) (u v : Nat) : Prop :=
  ∃ edge ∉ removed, d.Joins edge u v

/-- Whether no cycle is left when some edges are removed. -/
def BreaksCycles (d : Diagram) (removed : Set Nat) : Prop := ∀ v, ¬TransGen (d.Without removed) v v

/-- The numbers of the edges that a layout has set aside. -/
def Layout.setAside {α : Type} (l : Layout α) : Set Nat := {edge | l.backEdges[edge]? = some true}

section Layout

variable {α : Type} [Add α] [Sub α] [Mul α] [Div α] [Scalar α] {d : Diagram}

/-- For every edge it is known whether it is set aside. -/
theorem layout_backEdges_length (d : Diagram) :
    (d.layout : Layout α).backEdges.length = d.edges.length := by
  simp [layout, layoutIn]

theorem mem_setAside_iff {edge : Nat} (bound : edge < d.edges.length) :
    edge ∈ (d.layout : Layout α).setAside ↔ edge ∈ d.backEdges := by
  simp [Layout.setAside, layout, layoutIn, bound]

theorem ranks_length (layers : List Nat) : (ranks layers).length = layers.length := by
  simp [ranks]

/-- The nodes are drawn in their layers. -/
theorem layout_layers (d : Diagram) :
    (d.layout : Layout α).nodes.map Placement.layer = d.layers := by
  have drawn : ∀ (available : α) (count layer rank : Nat),
      (d.placement available count layer rank).layer = layer := by
    intro available count layer rank
    unfold placement
    cases d.direction <;> rfl
  simp only [layout, layoutIn, List.map_map, Function.comp_def, drawn]
  exact List.map_fst_zip (Nat.le_of_eq (ranks_length _).symm)

theorem Joins.lt_length {edge u v : Nat} (joins : d.Joins edge u v) : edge < d.edges.length := by
  obtain ⟨e, there, -⟩ := joins
  exact (List.getElem?_eq_some_iff.mp there).1

/-- Every edge of a sound diagram joins two of its nodes. -/
theorem Sound.exists_joins (sound : d.Sound) {edge : Nat} (bound : edge < d.edges.length) :
    ∃ u v, d.Joins edge u v := by
  obtain ⟨source, target⟩ := sound.joined _ (List.getElem_mem bound)
  obtain ⟨u, hu⟩ := List.mem_iff_getElem?.mp source
  obtain ⟨v, hv⟩ := List.mem_iff_getElem?.mp target
  exact ⟨u, v, d.edges[edge], List.getElem?_eq_getElem bound, hu, hv⟩

/-- What is not set aside are the arcs that count for the layers. -/
theorem Sound.without_setAside_iff (sound : d.Sound) (u v : Nat) :
    d.Without (d.layout : Layout α).setAside u v ↔ Leads d.adjacency d.backEdges u v := by
  constructor
  · rintro ⟨edge, kept, joins⟩
    rw [mem_setAside_iff joins.lt_length] at kept
    exact ⟨⟨edge, v⟩, mem_forward.mpr ⟨(mem_arcsOf_adjacency sound.distinct u _).mpr joins, kept⟩,
      rfl⟩
  · rintro ⟨arc, mem, rfl⟩
    obtain ⟨mem, kept⟩ := mem_forward.mp mem
    have joins := (mem_arcsOf_adjacency sound.distinct u arc).mp mem
    exact ⟨arc.edge, (mem_setAside_iff joins.lt_length).not.mpr kept, joins⟩

theorem Sound.without_setAside (sound : d.Sound) :
    d.Without (d.layout : Layout α).setAside = Leads d.adjacency d.backEdges := by
  funext u v
  exact propext (sound.without_setAside_iff u v)

/-! ### Layers -/

theorem lt_of_transGen {R : Nat → Nat → Prop} {rank : Nat → Nat}
    (rising : ∀ u v, R u v → rank u < rank v) {u v : Nat} (way : TransGen R u v) :
    rank u < rank v := by
  induction way with
  | single last => exact rising _ _ last
  | tail _ last ih => exact ih.trans (rising _ _ last)

/-- Without the edges that are set aside there is no cycle. -/
theorem Sound.breaksCycles (sound : d.Sound) :
    d.BreaksCycles (d.layout : Layout α).setAside := by
  obtain ⟨rank, rising⟩ := Graph.exists_rank sound.proper
  intro v cycle
  rw [sound.without_setAside] at cycle
  exact Nat.lt_irrefl _ (lt_of_transGen rising cycle)

/-- An edge that is set aside leads back to where a way of edges that are not has begun. -/
theorem Sound.setAside_closes (sound : d.Sound) {edge u v : Nat} (joins : d.Joins edge u v)
    (back : edge ∈ (d.layout : Layout α).setAside) :
    ReflTransGen (d.Without (d.layout : Layout α).setAside) v u := by
  rw [mem_setAside_iff joins.lt_length] at back
  rw [sound.without_setAside]
  have mem := (mem_arcsOf_adjacency sound.distinct u ⟨edge, v⟩).mpr joins
  exact Graph.backEdges_close sound.proper mem back

/-- An edge between two nodes joins different layers, whether it is set aside or not. -/
theorem Sound.layer_ne (sound : d.Sound) {edge u v : Nat} (joins : d.Joins edge u v)
    (other : u ≠ v) : d.layers.getD u 0 ≠ d.layers.getD v 0 := by
  obtain ⟨rank, rising⟩ := Graph.exists_rank sound.proper
  obtain ⟨rises, -⟩ := Graph.layers_longest sound.proper.inside rising
  have mem := (mem_arcsOf_adjacency sound.distinct u ⟨edge, v⟩).mpr joins
  by_cases back : edge ∈ d.backEdges
  · have way : ReflTransGen (Leads d.adjacency d.backEdges) v u :=
      Graph.backEdges_close sound.proper mem back
    rcases Relation.reflTransGen_iff_eq_or_transGen.mp way with same | way
    · exact absurd same other
    · exact (lt_of_transGen rises way).ne'
  · exact (rises u v ⟨⟨edge, v⟩, mem_forward.mpr ⟨mem, back⟩, rfl⟩).ne

/--
**The layer of a node is the greatest number of edges on a way to it**, the edges that
are set aside not being counted; these are such that the others have no cycle, and every
other edge leads to a higher layer.
-/
theorem layers_longest_ways (checked : d.check = .ok ()) :
    let l : Layout α := d.layout
    l.backEdges.length = d.edges.length ∧ l.nodes.length = d.nodes.length ∧
    d.BreaksCycles l.setAside ∧
    (∀ v placement, l.nodes[v]? = some placement →
      IsGreatest {length | ∃ u, Way (d.Without l.setAside) length u v} placement.layer) ∧
    ∀ u v lower upper, d.Without l.setAside u v → l.nodes[u]? = some lower →
      l.nodes[v]? = some upper → lower.layer < upper.layer := by
  intro l
  have sound := (check_eq_ok_iff d).mp checked
  obtain ⟨rank, rising⟩ := Graph.exists_rank sound.proper
  obtain ⟨rises, greatest⟩ := Graph.layers_longest sound.proper.inside rising
  have layers := layout_layers (α := α) d
  have layer : ∀ v placement, l.nodes[v]? = some placement →
      (Graph.layers d.adjacency d.backEdges).getD v 0 = placement.layer := by
    intro v placement there
    have same : d.layers[v]? = some placement.layer := by
      rw [← layers, List.getElem?_map, there]
      rfl
    rw [List.getD_eq_getElem?_getD]
    exact congrArg (Option.getD · 0) same
  refine ⟨layout_backEdges_length d, ?_, sound.breaksCycles, ?_, ?_⟩
  · have lengths := congrArg List.length layers
    rw [List.length_map, Diagram.layers, Graph.layers_length, adjacency_length] at lengths
    exact lengths
  · intro v placement there
    rw [sound.without_setAside, ← layer v placement there]
    exact greatest v
  · intro u v lower upper step below above
    rw [sound.without_setAside] at step
    rw [← layer u lower below, ← layer v upper above]
    exact rises u v step

/-- Three nodes in a circle, the last one with an edge to itself. -/
def circle : Diagram where
  title := none
  direction := .topBottom
  nodes := [.plain "a", .plain "b", .plain "c"]
  edges := [⟨"a", "b", none⟩, ⟨"b", "c", none⟩, ⟨"c", "a", none⟩, ⟨"c", "c", none⟩]

/-- In a circle the layers are counted from where it was begun. -/
theorem layers_longest_ways_circle :
    circle.check = .ok () ∧ ∃ placement,
      (circle.layout : Layout Float).nodes[2]? = some placement ∧ placement.layer = 2 ∧
      IsGreatest
        {length | ∃ u, Way (circle.Without (circle.layout : Layout Float).setAside) length u 2}
        placement.layer := by
  have checked : circle.check = .ok () := rfl
  exact ⟨checked, _, rfl, rfl, (layers_longest_ways checked).2.2.2.1 2 _ rfl⟩

/-! ### None is set aside in vain -/

/-- Removing fewer edges leaves more ways. -/
theorem without_mono {fewer more : Set Nat} (h : fewer ⊆ more) {u v : Nat}
    (step : d.Without more u v) : d.Without fewer u v := by
  obtain ⟨edge, kept, joins⟩ := step
  exact ⟨edge, fun mem => kept (h mem), joins⟩

/--
**No edge is set aside in vain.**  The edges that are set aside break all cycles, and no
smaller set of edges among them does: each leads back along a way of edges that are not
set aside, which may be empty.  So every edge from a node to itself is set aside, and no
edge of a diagram without cycles.
-/
theorem setAside_minimal (checked : d.check = .ok ()) :
    let l : Layout α := d.layout
    Minimal d.BreaksCycles l.setAside ∧
    (∀ edge u v, d.Joins edge u v → edge ∈ l.setAside →
      ReflTransGen (d.Without l.setAside) v u) ∧
    (∀ edge u, d.Joins edge u u → edge ∈ l.setAside) ∧
    (d.BreaksCycles ∅ → l.setAside = ∅) := by
  intro l
  have sound := (check_eq_ok_iff d).mp checked
  have breaks : d.BreaksCycles l.setAside := sound.breaksCycles
  have closes : ∀ edge u v, d.Joins edge u v → edge ∈ l.setAside →
      ReflTransGen (d.Without l.setAside) v u :=
    fun _ _ _ joins back => sound.setAside_closes joins back
  have least : ∀ removed, d.BreaksCycles removed → removed ⊆ l.setAside →
      l.setAside ⊆ removed := by
    intro removed breaks fewer edge back
    by_contra kept
    have bound : edge < d.edges.length := by
      rw [← layout_backEdges_length (α := α) d]
      exact (List.getElem?_eq_some_iff.mp back).1
    obtain ⟨u, v, joins⟩ := sound.exists_joins bound
    have way : ReflTransGen (d.Without removed) v u :=
      .mono (fun _ _ step => without_mono fewer step) _ _ (closes edge u v joins back)
    exact breaks u (.head' ⟨edge, kept, joins⟩ way)
  refine ⟨⟨breaks, fun removed breaks fewer => least removed breaks fewer⟩, closes, ?_, ?_⟩
  · intro edge u joins
    by_contra kept
    exact breaks u (.single ⟨edge, kept, joins⟩)
  · intro acyclic
    exact Set.subset_empty_iff.mp (least ∅ acyclic (Set.empty_subset _))

/-- Of a circle one edge is set aside, and an edge from a node to itself always is. -/
theorem setAside_minimal_circle :
    circle.check = .ok () ∧ circle.Joins 2 2 0 ∧ circle.Joins 3 2 2 ∧
      3 ∈ (circle.layout : Layout Float).setAside ∧
      ReflTransGen (circle.Without (circle.layout : Layout Float).setAside) 0 2 := by
  have checked : circle.check = .ok () := rfl
  have back : circle.Joins 2 2 0 := ⟨_, rfl, rfl, rfl⟩
  have loop : circle.Joins 3 2 2 := ⟨_, rfl, rfl, rfl⟩
  have minimal := setAside_minimal (α := Float) checked
  exact ⟨checked, back, loop, minimal.2.2.1 3 2 loop, minimal.2.1 2 2 0 back rfl⟩

end Layout

end Draftsman.Diagram
