/-
What a picture shows of its diagram.

The picture of a sound diagram has a stroke for each edge and a figure for each node, in
their order: both ends of an edge are found, and every node has its placement.  A stroke
is a loop if the edge leads from a node to itself, it is dashed if the layout has set the
edge aside, and it bears the label of the edge.
-/
import Draftsman.Diagram.Picture
import Draftsman.Proofs.Diagram.Layers

namespace Draftsman.Diagram

/-! ### The position of an id -/

/-- Where no two ids are the same, the position of an id is its only one. -/
theorem indexOf?_eq_some_iff {d : Diagram} (distinct : d.ids.Nodup) (id : String) (i : Nat) :
    d.indexOf? id = some i ↔ d.ids[i]? = some id := by
  rw [indexOf?, List.findIdx?_eq_some_iff_getElem]
  constructor
  · rintro ⟨bound, here, -⟩
    simpa [ids, bound] using here
  · intro there
    obtain ⟨bound, here⟩ := List.getElem?_eq_some_iff.mp there
    rw [ids, List.length_map] at bound
    refine ⟨bound, by simpa [ids] using here, ?_⟩
    intro j before same
    have same : d.ids[j]? = some id := by
      have inside : j < d.nodes.length := by omega
      simpa [ids, inside] using same
    have := (List.getElem?_inj (by rw [ids, List.length_map]; omega) distinct).mp
      (same.trans there.symm)
    omega

/-- The first and the last position of an id are the same. -/
theorem lastIndex?_eq_indexOf? {d : Diagram} (distinct : d.ids.Nodup) (id : String) :
    lastIndex? id d.nodes = d.indexOf? id := by
  apply Option.ext
  intro i
  rw [lastIndex?_eq_some_iff distinct, indexOf?_eq_some_iff distinct]

/-- Of a node that is there the position is found. -/
theorem Sound.exists_indexOf? {d : Diagram} (sound : d.Sound) {id : String} (mem : id ∈ d.ids) :
    ∃ i, d.indexOf? id = some i ∧ i < d.nodes.length := by
  obtain ⟨i, there⟩ := List.mem_iff_getElem?.mp mem
  obtain ⟨bound, -⟩ := List.getElem?_eq_some_iff.mp there
  refine ⟨i, (indexOf?_eq_some_iff sound.distinct id i).mpr there, ?_⟩
  simpa [ids] using bound

/-- Two ids with one position are the same. -/
theorem Sound.indexOf?_inj {d : Diagram} (sound : d.Sound) {a b : String} (mem : a ∈ d.ids) :
    d.indexOf? a = d.indexOf? b ↔ a = b := by
  constructor
  · intro same
    obtain ⟨i, there, -⟩ := sound.exists_indexOf? mem
    have here := (indexOf?_eq_some_iff sound.distinct a i).mp there
    have other := (indexOf?_eq_some_iff sound.distinct b i).mp (same ▸ there)
    exact Option.some.inj (here.symm.trans other)
  · rintro rfl
    rfl

/-! ### Figures and strokes -/

section Picture

variable {α : Type} [Add α] [Sub α] [Mul α] [Div α] [Scalar α] {d : Diagram}

theorem layout_nodes_length (d : Diagram) :
    (d.layout : Layout α).nodes.length = d.nodes.length := by
  have layers := congrArg List.length (layout_layers (α := α) d)
  rw [List.length_map] at layers
  rw [layers, Diagram.layers, Graph.layers_length, adjacency_length]

/-- Every node has its figure. -/
theorem figures_node (d : Diagram) :
    (d.figures (d.layout : Layout α)).map Figure.node = d.nodes := by
  have enough := Nat.le_of_eq (layout_nodes_length (α := α) d).symm
  rw [figures, List.map_map]
  exact List.map_fst_zip enough

/-- The nodes are shown, in their order. -/
theorem picture_nodes (d : Diagram) :
    (d.picture (d.layout : Layout α)).figures.map Figure.node = d.nodes := figures_node d

/-- The title is shown if there is one. -/
theorem picture_title (d : Diagram) :
    (d.picture (d.layout : Layout α)).title.map Caption.text = d.title := by
  cases titled : d.title <;> simp [picture, titleCaption, titled]

/-- Whether a route is a loop. -/
def Route.isLoop : Route α → Bool
  | .line .. => false
  | .loop .. => true

/-- What a stroke shows: whether it is a loop, whether it is dashed, and its label. -/
def Stroke.shown (s : Stroke α) : Bool × Bool × Option String :=
  (s.route.isLoop, s.dashed, s.label.map Caption.text)

/-- What is to be shown of an edge. -/
def Edge.shown (e : Edge) (back : Bool) : Bool × Bool × Option String :=
  (decide (e.source = e.target), back, e.label)

/-- An edge of a sound diagram has its stroke. -/
theorem Sound.stroke_shown (sound : d.Sound) {e : Edge} (mem : e ∈ d.edges) (number : Nat) :
    (d.stroke? (d.figures (d.layout : Layout α)) (d.layout : Layout α).backEdges (e, number)).map
        Stroke.shown
      = some (e.shown ((d.layout : Layout α).backEdges.getD number false)) := by
  obtain ⟨source, target⟩ := sound.joined e mem
  obtain ⟨i, from_here, i_lt⟩ := sound.exists_indexOf? source
  obtain ⟨j, to_there, j_lt⟩ := sound.exists_indexOf? target
  have count := congrArg List.length (figures_node (α := α) d)
  rw [List.length_map] at count
  have start := List.getElem?_eq_getElem (count ▸ i_lt)
  have finish := List.getElem?_eq_getElem (count ▸ j_lt)
  have same : i = j ↔ e.source = e.target := by
    rw [← sound.indexOf?_inj source, from_here, to_there, Option.some.injEq]
  by_cases loop : i = j
  · simp [stroke?, to_there, finish, same.mp loop, Stroke.shown, Edge.shown, loopStroke,
      Route.isLoop, Function.comp_def]
  · simp [stroke?, from_here, to_there, start, finish, loop, mt same.mpr loop, Stroke.shown,
      Edge.shown, lineStroke, Route.isLoop, Function.comp_def]

/-- **Every edge has its stroke, and no other stroke is there.** -/
theorem Sound.strokes_shown (sound : d.Sound) :
    (d.picture (d.layout : Layout α)).strokes.map Stroke.shown
      = d.edges.zipIdx.map fun x =>
          x.1.shown ((d.layout : Layout α).backEdges.getD x.2 false) := by
  have each : ∀ x ∈ d.edges.zipIdx,
      (d.stroke? (d.figures (d.layout : Layout α)) (d.layout : Layout α).backEdges x).map
          Stroke.shown
        = some (x.1.shown ((d.layout : Layout α).backEdges.getD x.2 false)) := by
    intro x mem
    exact sound.stroke_shown (List.fst_mem_of_mem_zipIdx mem) x.2
  rw [picture, List.map_filterMap, List.filterMap_congr each]
  exact congrFun List.filterMap_eq_map d.edges.zipIdx

/-! ### The stroke of an edge -/

/-- A `filterMap` that leaves nothing out keeps everything in its place. -/
theorem getElem?_filterMap_of_isSome {β γ : Type} {f : β → Option γ} {xs : List β}
    (all : ∀ x ∈ xs, (f x).isSome = true) (i : Nat) : (xs.filterMap f)[i]? = xs[i]?.bind f := by
  induction xs generalizing i with
  | nil => rfl
  | cons x xs ih =>
    obtain ⟨first, others⟩ := List.forall_mem_cons.mp all
    obtain ⟨y, found⟩ := Option.isSome_iff_exists.mp first
    rw [List.filterMap_cons_some found]
    cases i with
    | zero => exact found.symm
    | succ i => exact ih others i

theorem Sound.indexOf?_id (sound : d.Sound) {i : Nat} {node : Node}
    (there : d.nodes[i]? = some node) : d.indexOf? node.id = some i := by
  rw [indexOf?_eq_some_iff sound.distinct, ids, List.getElem?_map, there]
  rfl

/-- What the stroke of an edge is: a loop at one node, or a line between two. -/
theorem Sound.getElem?_strokes (sound : d.Sound) {number i j : Nat} {e : Edge} {n m : Node}
    {p q : Placement α} (edge : d.edges[number]? = some e)
    (source : d.nodes[i]? = some n ∧ n.id = e.source)
    (target : d.nodes[j]? = some m ∧ m.id = e.target)
    (start : (d.layout : Layout α).nodes[i]? = some p)
    (finish : (d.layout : Layout α).nodes[j]? = some q) :
    (d.picture (d.layout : Layout α)).strokes[number]? =
      let dashed := (d.layout : Layout α).backEdges.getD number false
      some (if i = j then loopStroke p e.label dashed
        else lineStroke ⟨n, p⟩ ⟨m, q⟩ e.label dashed) := by
  have drawn : ∀ x ∈ d.edges.zipIdx, (d.stroke? (d.figures (d.layout : Layout α))
      (d.layout : Layout α).backEdges x).isSome = true := by
    intro x mem
    rw [← Option.isSome_map, sound.stroke_shown (List.fst_mem_of_mem_zipIdx mem) x.2]
    rfl
  have figure : ∀ {k : Nat} {node : Node} {place : Placement α}, d.nodes[k]? = some node →
      (d.layout : Layout α).nodes[k]? = some place →
      (d.figures (d.layout : Layout α))[k]? = some ⟨node, place⟩ := by
    intro k node place here placed
    rw [figures, List.getElem?_map, List.zip, List.getElem?_zipWith, here, placed]
    rfl
  have numbered : d.edges.zipIdx[number]? = some (e, number) := by
    rw [List.getElem?_zipIdx, edge, Option.map_some, Nat.zero_add]
  show (d.edges.zipIdx.filterMap _)[number]? = _
  rw [getElem?_filterMap_of_isSome drawn, numbered, Option.bind_some, stroke?, ← source.2,
    ← target.2, sound.indexOf?_id source.1, sound.indexOf?_id target.1]
  simp only [Option.bind_eq_bind, Option.bind_some, figure source.1 start, figure target.1 finish]
  split <;> rfl

/-! ### Diagrams that are drawn alike -/

/-- How an edge joins the nodes of a diagram, and whether it has a label. -/
def joint (d : Diagram) (e : Edge) : Option Nat × Option Nat × Bool :=
  (d.indexOf? e.source, d.indexOf? e.target, e.label.isSome)

/-- Diagrams that differ in nothing but their texts and their direction. -/
structure Alike (d d' : Diagram) : Prop where
  titled : d.title.isSome = d'.title.isSome
  shapes : d.nodes.map Node.shape = d'.nodes.map Node.shape
  joints : d.edges.map d.joint = d'.edges.map d'.joint

theorem links_eq_filterMap (distinct : d.ids.Nodup) :
    d.links = (d.edges.map d.joint).zipIdx.filterMap fun x =>
      x.1.1.bind fun source => x.1.2.1.map fun target => ⟨source, ⟨x.2, target⟩⟩ := by
  rw [links, List.zipIdx_map, List.filterMap_map]
  apply List.filterMap_congr
  intro x _
  simp only [link?, lastIndex?_eq_indexOf? distinct, Function.comp_apply, Prod.map, joint, id_eq]
  cases d.indexOf? x.1.source <;> cases d.indexOf? x.1.target <;> rfl

theorem layout_backEdges (d : Diagram) :
    (d.layout : Layout α).backEdges
      = (List.range' 0 d.edges.length).map d.backEdges.contains := by
  rw [← List.zipIdx_map_snd, List.map_map]
  rfl

/-- Diagrams that are alike have the same edges set aside. -/
theorem Alike.backEdges {d' : Diagram} (alike : d.Alike d') (sound : d.Sound) (sound' : d'.Sound) :
    (d.layout : Layout α).backEdges = (d'.layout : Layout α).backEdges := by
  have nodes := congrArg List.length alike.shapes
  have edges := congrArg List.length alike.joints
  rw [List.length_map, List.length_map] at nodes edges
  have links : d.links = d'.links := by
    rw [links_eq_filterMap sound.distinct, links_eq_filterMap sound'.distinct, alike.joints]
  have same : d.backEdges = d'.backEdges := by
    rw [Diagram.backEdges, Diagram.backEdges, adjacency, adjacency, links, nodes]
  rw [layout_backEdges, layout_backEdges, edges, same]

/-- Whether a stroke is a loop, is dashed, and has a label. -/
def Stroke.kind (s : Stroke α) : Bool × Bool × Bool :=
  (s.route.isLoop, s.dashed, s.label.isSome)

/-- Of which kind a stroke is depends on the joint of its edge. -/
theorem Sound.strokes_kind (sound : d.Sound) :
    (d.picture (d.layout : Layout α)).strokes.map Stroke.kind
      = (d.edges.map d.joint).zipIdx.map fun x =>
          (decide (x.1.1 = x.1.2.1), (d.layout : Layout α).backEdges.getD x.2 false, x.1.2.2) := by
  have kinds : ∀ strokes : List (Stroke α), strokes.map Stroke.kind
      = (strokes.map Stroke.shown).map fun x => (x.1, x.2.1, x.2.2.isSome) := by
    intro strokes
    simp [Stroke.kind, Stroke.shown]
  rw [kinds, sound.strokes_shown, List.map_map, List.zipIdx_map, List.map_map]
  apply List.map_congr_left
  intro x mem
  have source := (sound.joined x.1 (List.fst_mem_of_mem_zipIdx mem)).1
  have ends := sound.indexOf?_inj (b := x.1.target) source
  simp [Edge.shown, joint, ends]

/-- Pictures of diagrams that are alike have strokes of the same kinds. -/
theorem Alike.strokes_kind {d' : Diagram} (alike : d.Alike d') (sound : d.Sound)
    (sound' : d'.Sound) :
    (d.picture (d.layout : Layout α)).strokes.map Stroke.kind
      = (d'.picture (d'.layout : Layout α)).strokes.map Stroke.kind := by
  rw [sound.strokes_kind, sound'.strokes_kind, alike.joints, alike.backEdges sound sound']

/-- Pictures of diagrams that are alike have figures of the same shapes. -/
theorem Alike.figures_shape {d' : Diagram} (alike : d.Alike d') :
    ((d.picture (d.layout : Layout α)).figures.map fun f => f.node.shape)
      = (d'.picture (d'.layout : Layout α)).figures.map fun f => f.node.shape := by
  have shapes : ∀ d : Diagram, ((d.picture (d.layout : Layout α)).figures.map fun f => f.node.shape)
      = d.nodes.map Node.shape := by
    intro d
    rw [← picture_nodes (α := α) d, List.map_map]
    rfl
  rw [shapes d, shapes d', alike.shapes]

end Picture

end Draftsman.Diagram
