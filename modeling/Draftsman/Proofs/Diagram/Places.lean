/-
Every node has a place of its own.

A layer other than the first one is there because some edge leads to it from the layer below
(`Sound.layer_below`), so that the layers of a sound diagram are the numbers from zero on and
none of them is empty.  In each layer the ranks are the numbers from zero on, in the order in
which its nodes were declared.
-/
import Draftsman.Proofs.Diagram.Boxes
import Draftsman.Proofs.Diagram.Layers

namespace Draftsman.Diagram

open Draftsman.Graph (Leads Way mem_forward)

variable {d : Diagram}

/-! ### No layer is empty -/

/-- Below the layer of a node there is a node in the layer before it. -/
theorem Sound.layer_below (sound : d.Sound) {layer : Nat} (mem : layer + 1 ∈ d.layers) :
    layer ∈ d.layers := by
  obtain ⟨rank, rising⟩ := Graph.exists_rank sound.proper
  have longest := Graph.layers_longest sound.proper.inside rising
  have rises : ∀ u v, Leads d.adjacency d.backEdges u v →
      d.layers.getD u 0 < d.layers.getD v 0 := longest.1
  have greatest : ∀ v, IsGreatest
      {length | ∃ u, Way (Leads d.adjacency d.backEdges) length u v} (d.layers.getD v 0) :=
    longest.2
  obtain ⟨v, here⟩ := List.mem_iff_getElem?.mp mem
  have top : d.layers.getD v 0 = layer + 1 := by rw [List.getD_eq_getElem?_getD, here]; rfl
  -- The last edge of a longest way to the node comes from the layer before.
  obtain ⟨u, way⟩ := (greatest v).1
  rw [top] at way
  cases way with
  | @step _ _ w _ way last =>
    have below := rises w v last
    have above : layer ≤ d.layers.getD w 0 := (greatest w).2 ⟨u, way⟩
    have same : d.layers.getD w 0 = layer := by omega
    obtain ⟨arc, leaves, -⟩ := last
    have inside : w < d.layers.length := by
      rw [layers, Graph.layers_length]
      exact Graph.lt_length_of_mem_arcsOf (mem_forward.mp leaves).1
    rw [List.getD_eq_getElem _ 0 inside] at same
    exact same ▸ List.getElem_mem inside

/-- The layers of a sound diagram are the numbers from zero on. -/
theorem Sound.mem_layers_iff (sound : d.Sound) (layer : Nat) :
    layer ∈ d.layers ↔ layer < layerCount d.layers := by
  refine ⟨lt_layerCount, fun inside => ?_⟩
  obtain ⟨top, mem, le⟩ := exists_le_of_lt_layerCount inside
  obtain ⟨above, rfl⟩ := Nat.exists_eq_add_of_le le
  -- From the highest layer down, one layer at a time.
  induction above with
  | zero => exact mem
  | succ above ih => exact ih (sound.layer_below mem) (Nat.le_add_right layer above)

/-! ### The places of a layout -/

section Layout

variable {α : Type} [Add α] [Sub α] [Mul α] [Div α] [Scalar α]

/-- The nodes of a layer, in the order in which they were declared. -/
def Layout.inLayer {α : Type} (l : Layout α) (layer : Nat) : List (Placement α) :=
  l.nodes.filter fun p => p.layer == layer

/-- The layer and the rank of each node. -/
def Layout.places {α : Type} (l : Layout α) : List (Nat × Nat) :=
  l.nodes.map fun p => (p.layer, p.rank)

theorem layout_places (d : Diagram) :
    (d.layout : Layout α).places = d.layers.zip (ranks d.layers) := by
  rw [Layout.places, layout_nodes_eq, List.map_map]
  refine (List.map_congr_left fun x _ => ?_).trans (List.map_id _)
  simp

theorem layout_ranks (d : Diagram) :
    (d.layout : Layout α).nodes.map Placement.rank = ranks d.layers := by
  have places := congrArg (List.map Prod.snd) (layout_places (α := α) d)
  rw [Layout.places, List.map_map, List.map_snd_zip (Nat.le_of_eq (ranks_length _))] at places
  exact places

theorem inLayer_length (d : Diagram) (layer : Nat) :
    ((d.layout : Layout α).inLayer layer).length = d.layers.count layer := by
  rw [Layout.inLayer, ← List.countP_eq_length_filter, ← layout_layers (α := α), List.count,
    List.countP_map]
  rfl

theorem inLayer_ranks (d : Diagram) (layer : Nat) :
    ((d.layout : Layout α).inLayer layer).map Placement.rank
      = List.range (d.layers.count layer) := by
  rw [← ranks_of_layer, ← layout_places (α := α), Layout.places, List.filter_map, List.map_map]
  rfl

/--
**The layers of a layout are filled without gaps.**  Every node has a placement.  The layers
that have nodes are those below the number of layers; in each of them the ranks are the
numbers from zero on, in the order in which the nodes were declared; and no two nodes share
both.  When ranks are given out node by node, there is an entry for the layer of each node,
and in the end the entries are the sizes of the layers.
-/
theorem layers_filled (checked : d.check = .ok ()) :
    let l : Layout α := d.layout
    l.nodes.length = d.nodes.length ∧ 0 < l.layerCount ∧
    (∀ layer, l.inLayer layer ≠ [] ↔ layer < l.layerCount) ∧
    (∀ layer, (l.inLayer layer).map Placement.rank = List.range (l.inLayer layer).length) ∧
    l.places.Nodup ∧
    ∃ sizes, tally l.layerCount (l.nodes.map Placement.layer)
        = some ⟨l.nodes.map Placement.rank, sizes⟩ ∧
      ∀ layer < l.layerCount, sizes[layer]? = some (l.inLayer layer).length := by
  intro l
  have sound := (check_eq_ok_iff d).mp checked
  have count : l.layerCount = layerCount d.layers := rfl
  have filled : ∀ layer, l.inLayer layer ≠ [] ↔ layer < l.layerCount := by
    intro layer
    rw [count, ← sound.mem_layers_iff, ← List.count_pos_iff, ← inLayer_length (α := α),
      List.length_pos_iff]
  refine ⟨layout_nodes_length d, ?_, filled, ?_, ?_, ?_⟩
  · obtain ⟨node, mem⟩ := List.exists_mem_of_ne_nil _ sound.inhabited
    obtain ⟨i, here⟩ := List.mem_iff_getElem?.mp mem
    obtain ⟨p, drawn⟩ := d.exists_placement (α := α) here
    have inside := lt_layerCount (List.mem_of_getElem? (layers_of_placement drawn))
    rw [count]
    omega
  · intro layer
    rw [inLayer_ranks, inLayer_length]
  · rw [layout_places]
    exact zip_ranks_nodup d.layers
  · refine ⟨(List.range l.layerCount).map d.layers.count, ?_, ?_⟩
    · rw [layout_layers, layout_ranks, count]
      exact tally_eq fun layer mem => lt_layerCount mem
    · intro layer inside
      rw [inLayer_length, List.getElem?_map, List.getElem?_range inside]
      rfl

/-- Two parts that meet in one node, and a node that no edge leads to. -/
def meeting : Diagram where
  title := none
  direction := .leftRight
  nodes := [.plain "a", .plain "c", .plain "b", .plain "x", .plain "y"]
  edges := [⟨"a", "b", none⟩, ⟨"b", "c", none⟩, ⟨"x", "c", none⟩, ⟨"c", "a", none⟩]

/-- The nodes without edges that lead to them are of the first layer, in their order. -/
theorem layers_filled_meeting :
    meeting.check = .ok () ∧ (meeting.layout : Layout Float).layerCount = 3 ∧
      ((meeting.layout : Layout Float).inLayer 0).map Placement.rank = [0, 1, 2] ∧
      (meeting.layout : Layout Float).places = [(0, 0), (2, 0), (1, 0), (0, 1), (0, 2)] ∧
      (meeting.layout : Layout Float).places.Nodup := by
  have checked : meeting.check = .ok () := rfl
  have filled := layers_filled (α := Float) checked
  exact ⟨checked, rfl, filled.2.2.2.1 0, rfl, filled.2.2.2.2.1⟩

end Layout

end Draftsman.Diagram
