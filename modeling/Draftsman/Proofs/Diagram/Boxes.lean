/-
Where the boxes of nodes are.

The layers of a diagram are a row of things of one size with gaps between them, and so is
every layer.  Hence a node stands as far along each axis as things before it in a row take
(`low_main`, `low_cross`), and from what holds of rows follows what holds of boxes: they
stay inside the margins, and no two of them come closer than the gap of their row.
-/
import Draftsman.Diagram.Outline
import Draftsman.Proofs.Diagram.Exact
import Draftsman.Proofs.Diagram.Ranks
import Draftsman.Proofs.Diagram.Picture

namespace Draftsman.Diagram

/-! ### Axes -/

/-- The two axes of the plane. -/
inductive Axis where
  | horizontal
  | vertical
  deriving DecidableEq, Repr

/-- The axis along which the layers follow each other. -/
def Direction.main : Direction → Axis
  | .topBottom => .vertical
  | .leftRight => .horizontal

/-- The axis along which the nodes of a layer follow each other. -/
def Direction.cross : Direction → Axis
  | .topBottom => .horizontal
  | .leftRight => .vertical

/-- The other axis. -/
def Axis.other : Axis → Axis
  | .horizontal => .vertical
  | .vertical => .horizontal

section Axes

variable {α : Type}

/-- The coordinate of a point on an axis. -/
def Point.on (p : Point α) : Axis → α
  | .horizontal => p.x
  | .vertical => p.y

/-- The size of a placement along an axis. -/
def Placement.size (p : Placement α) : Axis → α
  | .horizontal => p.width
  | .vertical => p.height

/-- The size of everything along an axis. -/
def Layout.extent (l : Layout α) : Axis → α
  | .horizontal => l.width
  | .vertical => l.height

theorem Direction.axis_cases (dir : Direction) (a : Axis) : a = dir.main ∨ a = dir.cross := by
  cases dir <;> cases a <;> decide

end Axes

/-! ### Boxes -/

section Box

variable {α : Type} [Field α]

/-- Where the box of a placement begins on an axis. -/
def Placement.low (p : Placement α) (a : Axis) : α := p.centre.on a - p.size a / 2

/-- Where the box of a placement ends on an axis. -/
def Placement.high (p : Placement α) (a : Axis) : α := p.centre.on a + p.size a / 2

theorem Placement.high_eq [CharZero α] (p : Placement α) (a : Axis) :
    p.high a = p.low a + p.size a := by
  rw [high, low]
  ring

variable [LinearOrder α]

/-- The points of the box of a placement, its border included. -/
def Placement.box (p : Placement α) : Set (Point α) :=
  {pt | ∀ a, p.low a ≤ pt.on a ∧ pt.on a ≤ p.high a}

/-- How far a point is from the centre of a placement on an axis, in half its size. -/
def Placement.offset (p : Placement α) (pt : Point α) (a : Axis) : α :=
  |pt.on a - p.centre.on a| / (p.size a / 2)

/-- Whether there is a gap of some width at least between two boxes on an axis. -/
def Placement.Apart (p q : Placement α) (a : Axis) (gap : α) : Prop :=
  p.high a + gap ≤ q.low a ∨ q.high a + gap ≤ p.low a

/-- Boxes with a gap between them are disjoint. -/
theorem Placement.Apart.disjoint [IsStrictOrderedRing α] {p q : Placement α} {a : Axis} {gap : α}
    (apart : p.Apart q a gap) (wide : 0 < gap) : Disjoint p.box q.box := by
  rw [Set.disjoint_left]
  intro pt inside there
  obtain ⟨from_p, to_p⟩ := inside a
  obtain ⟨from_q, to_q⟩ := there a
  rcases apart with before | behind <;> linarith

end Box

/-! ### Where a node stands -/

section Stand

variable {α : Type} [Add α] [Sub α] [Mul α] [Div α] [Scalar α]
variable (d : Diagram) (available : α) (count layer rank : Nat)

@[simp]
theorem placement_layer : (d.placement available count layer rank).layer = layer := by
  unfold placement
  cases d.direction <;> rfl

@[simp]
theorem placement_rank : (d.placement available count layer rank).rank = rank := by
  unfold placement
  cases d.direction <;> rfl

@[simp]
theorem size_main :
    (d.placement available count layer rank).size d.direction.main = d.mainSize := by
  unfold placement mainSize
  cases d.direction <;> rfl

@[simp]
theorem size_cross :
    (d.placement available count layer rank).size d.direction.cross = d.crossSize := by
  unfold placement crossSize
  cases d.direction <;> rfl

/-- Where the node at a position is drawn in a layer. -/
def placedIn (i layer : Nat) : Placement α :=
  d.placement (d.availableCross d.layers) (d.layers.count layer) layer (rankAt d.layers i layer)

theorem layout_nodes_eq : (d.layout : Layout α).nodes = (d.layers.zip (ranks d.layers)).map
    fun x => d.placement (d.availableCross d.layers) (d.layers.count x.1) x.1 x.2 := rfl

/-- The node at a position is drawn in its layer, and at its rank. -/
theorem getElem?_layout_nodes (i : Nat) :
    (d.layout : Layout α).nodes[i]? = d.layers[i]?.map (d.placedIn i) := by
  rw [layout_nodes_eq, List.getElem?_map, List.zip, List.getElem?_zipWith, getElem?_ranks]
  cases d.layers[i]? <;> rfl

theorem layout_nodes_eq_some_iff {i : Nat} {p : Placement α} :
    (d.layout : Layout α).nodes[i]? = some p ↔
      ∃ layer, d.layers[i]? = some layer ∧ d.placedIn i layer = p := by
  rw [getElem?_layout_nodes, Option.map_eq_some_iff]

/-- What is drawn is drawn in its layer, and at its rank. -/
theorem exists_placedIn {p : Placement α} (drawn : p ∈ (d.layout : Layout α).nodes) :
    ∃ i, d.layers[i]? = some p.layer ∧ rankAt d.layers i p.layer = p.rank ∧
      d.placedIn i p.layer = p := by
  obtain ⟨i, there⟩ := List.mem_iff_getElem?.mp drawn
  obtain ⟨layer, here, rfl⟩ := d.layout_nodes_eq_some_iff.mp there
  rw [placedIn, placement_layer, placement_rank]
  exact ⟨i, here, rfl, rfl⟩

variable {d} {p : Placement α}

theorem layers_of_placement {i : Nat} (drawn : (d.layout : Layout α).nodes[i]? = some p) :
    d.layers[i]? = some p.layer := by
  obtain ⟨layer, here, rfl⟩ := d.layout_nodes_eq_some_iff.mp drawn
  rw [here, placedIn, placement_layer]

theorem size_main_of_mem (drawn : p ∈ (d.layout : Layout α).nodes) :
    p.size d.direction.main = d.mainSize := by
  obtain ⟨i, -, -, same⟩ := d.exists_placedIn drawn
  rw [← same, placedIn, size_main]

theorem size_cross_of_mem (drawn : p ∈ (d.layout : Layout α).nodes) :
    p.size d.direction.cross = d.crossSize := by
  obtain ⟨i, -, -, same⟩ := d.exists_placedIn drawn
  rw [← same, placedIn, size_cross]

variable (d)

/-- Every node is drawn. -/
theorem exists_placement {i : Nat} {node : Node} (here : d.nodes[i]? = some node) :
    ∃ p : Placement α, (d.layout : Layout α).nodes[i]? = some p := by
  have length : d.layers.length = d.nodes.length := by
    rw [layers, Graph.layers_length, adjacency_length]
  have inside := (List.getElem?_eq_some_iff.mp here).1
  rw [getElem?_layout_nodes, List.getElem?_eq_getElem (length ▸ inside)]
  exact ⟨_, rfl⟩

end Stand

/-! ### Rows -/

section Row

variable {α : Type} [Field α] [LinearOrder α] {size gap : α} {count j k : Nat}

theorem span_eq [Scalar α] [Exact α] (some : 0 < count) :
    span count size gap = count * (size + gap) - gap := by
  obtain ⟨n, rfl⟩ := Nat.exists_eq_add_one.mpr some
  rw [span, if_neg (Nat.succ_ne_zero n), units_eq, units_eq, Nat.add_sub_cancel]
  push_cast
  ring

variable [IsStrictOrderedRing α]

/-- Things in a row come in their order. -/
theorem row_mono (wide : 0 ≤ size + gap) (le : j ≤ k) : j * (size + gap) ≤ k * (size + gap) :=
  mul_le_mul_of_nonneg_right (Nat.cast_le.mpr le) wide

/-- Things in a row come one behind the other, with the gap between them. -/
theorem row_step (wide : 0 ≤ size + gap) (before : j < k) :
    j * (size + gap) + size + gap ≤ k * (size + gap) := by
  calc (j : α) * (size + gap) + size + gap = (j + 1 : ℕ) * (size + gap) := by push_cast; ring
    _ ≤ k * (size + gap) := row_mono wide before

variable [Scalar α] [Exact α]

/-- Things in a row do not reach beyond it. -/
theorem row_fits (wide : 0 ≤ size + gap) (inside : k < count) :
    k * (size + gap) + size ≤ span count size gap := by
  have step := row_step wide inside
  rw [span_eq (Nat.zero_lt_of_lt inside)]
  linarith

/-- A row of more things is longer. -/
theorem span_mono (wide : 0 ≤ size + gap) (some : 0 < j) (le : j ≤ k) :
    span j size gap ≤ span k size gap := by
  have longer := row_mono wide le
  rw [span_eq some, span_eq (Nat.lt_of_lt_of_le some le)]
  linarith

end Row

/-! ### Sizes -/

section Sizes

variable {α : Type} [Field α] [LinearOrder α] [Scalar α] [Exact α] (d : Diagram)

theorem nodeWidth_eq : (d.nodeWidth : α) = max ((d.longestLabel : α) * 8 + 32) 120 := by
  simp [nodeWidth, charWidth, padding, leastWidth]

@[simp]
theorem nodeHeight_eq : (nodeHeight : α) = 56 := by simp [nodeHeight]

@[simp]
theorem margin_eq : (margin : α) = 32 := by simp [margin]

@[simp]
theorem siblingGap_eq : (siblingGap : α) = 40 := by simp [siblingGap]

@[simp]
theorem layerGap_eq : (layerGap : α) = 72 := by simp [layerGap]

@[simp]
theorem titleHeight_eq : (d.titleHeight : α) = (if d.title.isSome then 40 else 0 : ℕ) := by
  simp [titleHeight, titleRoom]

variable [IsStrictOrderedRing α]

theorem nodeWidth_pos : (0 : α) < d.nodeWidth := by
  rw [nodeWidth_eq]
  exact lt_max_of_lt_right (by norm_num : (0 : α) < 120)

theorem nodeHeight_pos : (0 : α) < nodeHeight := by norm_num

theorem mainSize_pos : (0 : α) < d.mainSize := by
  unfold mainSize
  cases d.direction with
  | topBottom => exact nodeHeight_pos
  | leftRight => exact d.nodeWidth_pos

theorem crossSize_pos : (0 : α) < d.crossSize := by
  unfold crossSize
  cases d.direction with
  | topBottom => exact d.nodeWidth_pos
  | leftRight => exact nodeHeight_pos

end Sizes

/-! ### Where the nodes begin -/

section Origin

variable {α : Type} [Field α] (d : Diagram)

/-- Where the room for the nodes begins: behind the margins, and below the title if there is one. -/
def origin : Axis → α
  | .horizontal => 32
  | .vertical => 32 + ((if d.title.isSome then 40 else 0 : ℕ) : α)

variable [LinearOrder α]

theorem origin_nonneg [IsStrictOrderedRing α] (a : Axis) : (0 : α) ≤ d.origin a := by
  cases a with
  | horizontal => simp [origin]
  | vertical => exact add_nonneg (by norm_num) (Nat.cast_nonneg _)

variable [Scalar α] [Exact α] (available : α) (count layer rank : Nat)

theorem centre_main : (d.placement available count layer rank).centre.on d.direction.main
    = d.origin d.direction.main + d.mainMiddle layer := by
  unfold placement
  cases d.direction <;> simp [Direction.main, Placement.centre, Point.on, origin]

theorem centre_cross : (d.placement available count layer rank).centre.on d.direction.cross
    = d.origin d.direction.cross + d.crossMiddle available count rank := by
  unfold placement
  cases d.direction <;> simp [Direction.cross, Placement.centre, Point.on, origin]

end Origin

/-! ### The boxes of a layout -/

section Layout

variable {α : Type} [Field α] [Scalar α] (d : Diagram) {i j layer layer' : Nat}

theorem high_main [CharZero α] : (d.placedIn i layer : Placement α).high d.direction.main
    = (d.placedIn i layer : Placement α).low d.direction.main + d.mainSize := by
  rw [Placement.high_eq, placedIn, size_main]

theorem high_cross [CharZero α] : (d.placedIn i layer : Placement α).high d.direction.cross
    = (d.placedIn i layer : Placement α).low d.direction.cross + d.crossSize := by
  rw [Placement.high_eq, placedIn, size_cross]

/-- The free room before the nodes of a layer, on the axis along which they stand. -/
def indent (layer : Nat) : α :=
  (d.availableCross d.layers - d.crossSpan (d.layers.count layer)) / 2

variable [LinearOrder α] [Exact α]

/-- The room across the layers is what is left of everything beside the margins and the title. -/
theorem availableCross_eq : d.origin d.direction.cross + d.availableCross d.layers
    = (d.layout : Layout α).extent d.direction.cross - 32 := by
  show _ = (d.layoutIn d.backEdges d.layers).extent d.direction.cross - _
  cases dir : d.direction with
  | topBottom =>
    simp only [Direction.cross, origin, layoutIn, Layout.extent, availableCross, dir, units_eq,
      margin_eq]
    push_cast
    ring
  | leftRight =>
    simp only [Direction.cross, origin, layoutIn, Layout.extent, canvasHeight, availableCross, dir,
      units_eq, margin_eq, titleHeight_eq]
    push_cast
    ring

variable [IsStrictOrderedRing α]

/-- A node stands behind the layers before its own. -/
theorem low_main : (d.placedIn i layer : Placement α).low d.direction.main
    = d.origin d.direction.main + layer * (d.mainSize + 72) := by
  rw [placedIn, Placement.low, centre_main, size_main, mainMiddle, mainStep, units_eq, units_eq,
    layerGap_eq]
  push_cast
  ring

/-- A node stands behind the nodes of its layer before it. -/
theorem low_cross : (d.placedIn i layer : Placement α).low d.direction.cross
    = d.origin d.direction.cross + d.indent layer
      + rankAt d.layers i layer * (d.crossSize + 40) := by
  rw [placedIn, Placement.low, centre_cross, size_cross, crossMiddle, indent, units_eq, units_eq,
    siblingGap_eq]
  push_cast
  ring

variable {d} {p : Placement α}

theorem low_main_of_mem (drawn : p ∈ (d.layout : Layout α).nodes) :
    p.low d.direction.main = d.origin d.direction.main + p.layer * (d.mainSize + 72) := by
  obtain ⟨i, -, -, same⟩ := d.exists_placedIn drawn
  rw [← d.low_main (i := i), same]

theorem low_cross_of_mem (drawn : p ∈ (d.layout : Layout α).nodes) :
    p.low d.direction.cross = d.origin d.direction.cross + d.indent p.layer
      + p.rank * (d.crossSize + 40) := by
  obtain ⟨i, -, rank, same⟩ := d.exists_placedIn drawn
  rw [← rank, ← d.low_cross (i := i), same]

variable (d)

/-- There is room for all layers. -/
theorem mainExtent_le : d.origin d.direction.main + d.mainExtent (layerCount d.layers)
    ≤ (d.layout : Layout α).extent d.direction.main - 32 := by
  show _ ≤ (d.layoutIn d.backEdges d.layers).extent d.direction.main - _
  cases dir : d.direction with
  | topBottom =>
    simp only [Direction.main, origin, layoutIn, Layout.extent, canvasHeight, dir, units_eq,
      margin_eq, titleHeight_eq]
    push_cast
    linarith
  | leftRight =>
    have longer := le_max_left (d.mainExtent (layerCount d.layers) : α) d.titleWidth
    simp only [Direction.main, origin, layoutIn, Layout.extent, canvasWidth, dir, units_eq,
      margin_eq, Scalar.max_eq]
    push_cast
    linarith

variable {d} in
theorem size_pos_of_mem {p : Placement α} (drawn : p ∈ (d.layout : Layout α).nodes) (a : Axis) :
    0 < p.size a := by
  rcases d.direction.axis_cases a with rfl | rfl
  · exact d.mainSize_pos.trans_eq (size_main_of_mem drawn).symm
  · exact d.crossSize_pos.trans_eq (size_cross_of_mem drawn).symm

/-- A layer is behind the whole of a layer before it, and the gap. -/
theorem layer_step (before : layer < layer') :
    (layer : α) * (d.mainSize + 72) + d.mainSize + 72 ≤ layer' * (d.mainSize + 72) := by
  have size := d.mainSize_pos (α := α)
  exact row_step (by linarith) before

/-- A layer does not reach beyond the room for all of them. -/
theorem layer_fits (inside : layer < layerCount d.layers) :
    (layer : α) * (d.mainSize + 72) + d.mainSize ≤ d.mainExtent (layerCount d.layers) := by
  have size := d.mainSize_pos (α := α)
  rw [mainExtent, mainStep, add_sub_cancel_left, layerGap_eq]
  exact row_fits (by linarith) inside

/-- There is room for the widest layer. -/
theorem widest_le : (d.crossSpan (greatest (layerSizes d.layers)) : α)
    ≤ d.availableCross d.layers := by
  unfold availableCross
  cases dir : d.direction with
  | topBottom =>
    have longer := le_max_left (d.crossSpan (greatest (layerSizes d.layers)) : α) d.titleWidth
    simp only [canvasWidth, dir, units_eq, Scalar.max_eq]
    push_cast
    linarith
  | leftRight => exact le_rfl

/-- There is room for every layer. -/
theorem indent_nonneg (here : d.layers[i]? = some layer) : (0 : α) ≤ d.indent layer := by
  have mem := List.mem_of_getElem? here
  have wide : (0 : α) ≤ d.crossSize + siblingGap := by
    have := d.crossSize_pos (α := α)
    rw [siblingGap_eq]
    linarith
  have fits : (d.crossSpan (d.layers.count layer) : α) ≤ d.availableCross d.layers :=
    (span_mono wide (List.count_pos_iff.mpr mem) (count_le_widest mem)).trans d.widest_le
  rw [indent]
  linarith

/-- A box stays inside the room for the nodes. -/
theorem box_inside (here : d.layers[i]? = some layer) (a : Axis) :
    d.origin a ≤ (d.placedIn i layer : Placement α).low a ∧
      (d.placedIn i layer : Placement α).high a ≤ (d.layout : Layout α).extent a - 32 := by
  have mem := List.mem_of_getElem? here
  rcases d.direction.axis_cases a with rfl | rfl
  · have size := d.mainSize_pos (α := α)
    have fits := d.layer_fits (α := α) (lt_layerCount mem)
    have before : (0 : α) ≤ layer * (d.mainSize + 72) := by positivity
    have room := d.mainExtent_le (α := α)
    rw [high_main, low_main]
    constructor <;> linarith
  · have size := d.crossSize_pos (α := α)
    have fits : (rankAt d.layers i layer : α) * (d.crossSize + 40) + d.crossSize
        ≤ d.crossSpan (d.layers.count layer) := by
      rw [crossSpan, siblingGap_eq]
      exact row_fits (by linarith) (rankAt_lt_count here)
    have before : (0 : α) ≤ rankAt d.layers i layer * (d.crossSize + 40) := by positivity
    have free := d.indent_nonneg (α := α) here
    have room := d.availableCross_eq (α := α)
    rw [high_cross, low_cross]
    rw [indent] at free ⊢
    constructor <;> linarith

/-- Boxes of different layers leave the gap between layers free. -/
theorem apart_main (other : layer ≠ layer') :
    (d.placedIn i layer : Placement α).Apart (d.placedIn j layer') d.direction.main 72 := by
  rw [Placement.Apart, high_main, high_main, low_main, low_main]
  rcases Nat.lt_or_gt_of_ne other with before | behind
  · have step := d.layer_step (α := α) before
    exact Or.inl (by linarith)
  · have step := d.layer_step (α := α) behind
    exact Or.inr (by linarith)

/-- Boxes of one layer leave the gap between siblings free. -/
theorem apart_cross (here : d.layers[i]? = some layer) (there : d.layers[j]? = some layer)
    (other : i ≠ j) :
    (d.placedIn i layer : Placement α).Apart (d.placedIn j layer) d.direction.cross 40 := by
  have size := d.crossSize_pos (α := α)
  rw [Placement.Apart, high_cross, high_cross, low_cross, low_cross]
  rcases Nat.lt_or_gt_of_ne (rankAt_ne here there other) with before | behind
  · have step : (rankAt d.layers i layer : α) * (d.crossSize + 40) + d.crossSize + 40
        ≤ rankAt d.layers j layer * (d.crossSize + 40) := row_step (by linarith) before
    exact Or.inl (by linarith)
  · have step : (rankAt d.layers j layer : α) * (d.crossSize + 40) + d.crossSize + 40
        ≤ rankAt d.layers i layer * (d.crossSize + 40) := row_step (by linarith) behind
    exact Or.inr (by linarith)

end Layout

/-! ### Whole and half units -/

section Units

/-- The whole numbers among the rationals. -/
def whole : Subring ℚ := (Int.castRingHom ℚ).range

theorem exists_half {x : ℚ} (twice : 2 * x ∈ whole) : ∃ k : ℤ, x = k / 2 := by
  obtain ⟨k, same⟩ := twice
  refine ⟨k, ?_⟩
  rw [eq_intCast] at same
  linarith

variable (d : Diagram)

theorem whole_nodeWidth : (d.nodeWidth : ℚ) ∈ whole := by
  rw [nodeWidth_eq]
  rcases max_choice ((d.longestLabel : ℚ) * 8 + 32) 120 with long | short
  · rw [long]
    exact add_mem (mul_mem (natCast_mem whole _) (ofNat_mem whole 8)) (ofNat_mem whole 32)
  · rw [short]
    exact ofNat_mem whole 120

theorem whole_nodeHeight : (nodeHeight : ℚ) ∈ whole := nodeHeight_eq (α := ℚ) ▸ ofNat_mem whole 56

theorem whole_mainSize : (d.mainSize : ℚ) ∈ whole := by
  unfold mainSize
  cases d.direction with
  | topBottom => exact whole_nodeHeight
  | leftRight => exact d.whole_nodeWidth

theorem whole_crossSize : (d.crossSize : ℚ) ∈ whole := by
  unfold crossSize
  cases d.direction with
  | topBottom => exact d.whole_nodeWidth
  | leftRight => exact whole_nodeHeight

theorem whole_units (n : Nat) : (units n : ℚ) ∈ whole := units_eq (α := ℚ) n ▸ natCast_mem whole n

theorem whole_span {size gap : ℚ} (count : Nat) (size_whole : size ∈ whole)
    (gap_whole : gap ∈ whole) : span count size gap ∈ whole := by
  unfold span
  split
  · exact whole_units 0
  · exact add_mem (mul_mem (whole_units count) size_whole) (mul_mem (whole_units _) gap_whole)

theorem whole_crossSpan (count : Nat) : (d.crossSpan count : ℚ) ∈ whole :=
  whole_span count d.whole_crossSize (whole_units 40)

theorem whole_mainExtent (count : Nat) : (d.mainExtent count : ℚ) ∈ whole := by
  have step : (d.mainStep : ℚ) ∈ whole := add_mem d.whole_mainSize (whole_units 72)
  exact whole_span count d.whole_mainSize (sub_mem step d.whole_mainSize)

theorem whole_titleHeight : (d.titleHeight : ℚ) ∈ whole := by
  unfold titleHeight
  split <;> exact whole_units _

/-- A character of the title takes ten units. -/
theorem whole_titleWidth : (d.titleWidth : ℚ) ∈ whole := by
  unfold titleWidth
  cases d.title with
  | none => exact whole_units 0
  | some title =>
    have tens : (units title.length * charWidth * (units 5 / units 4) : ℚ)
        = units title.length * 10 := by
      simp only [charWidth, units_eq]
      norm_num [mul_assoc]
    show units title.length * charWidth * (units 5 / units 4) ∈ whole
    rw [tens]
    exact mul_mem (whole_units _) (ofNat_mem whole 10)

theorem whole_max {x y : ℚ} (hx : x ∈ whole) (hy : y ∈ whole) : Scalar.max x y ∈ whole := by
  unfold Scalar.max
  split
  · exact hy
  · exact hx

theorem whole_extent (a : Axis) : (d.layout : Layout ℚ).extent a ∈ whole := by
  have margins : (units 2 * margin : ℚ) ∈ whole := mul_mem (whole_units 2) (whole_units 32)
  cases a with
  | horizontal =>
    refine add_mem (whole_max ?_ d.whole_titleWidth) margins
    cases d.direction with
    | topBottom => exact d.whole_crossSpan _
    | leftRight => exact d.whole_mainExtent _
  | vertical =>
    refine add_mem (add_mem ?_ d.whole_titleHeight) margins
    cases d.direction with
    | topBottom => exact d.whole_mainExtent _
    | leftRight => exact d.whole_crossSpan _

theorem whole_origin (a : Axis) : (d.origin a : ℚ) ∈ whole := by
  cases a with
  | horizontal => exact ofNat_mem whole 32
  | vertical => exact add_mem (ofNat_mem whole 32) (d.titleHeight_eq (α := ℚ) ▸ d.whole_titleHeight)

theorem whole_availableCross : (d.availableCross d.layers : ℚ) ∈ whole := by
  have room := d.availableCross_eq (α := ℚ)
  have all := sub_mem (sub_mem (d.whole_extent d.direction.cross) (ofNat_mem whole 32))
    (d.whole_origin d.direction.cross)
  rwa [← room, add_sub_cancel_left] at all

/-- Centres stand on halves of units, since layers are centred. -/
theorem half_centre (i layer : Nat) (a : Axis) :
    ∃ k : ℤ, (d.placedIn i layer : Placement ℚ).centre.on a = k / 2 := by
  refine exists_half ?_
  rcases d.direction.axis_cases a with rfl | rfl
  · have twice : 2 * (d.placedIn i layer : Placement ℚ).centre.on d.direction.main
        = 2 * (d.origin d.direction.main + layer * d.mainStep) + d.mainSize := by
      rw [placedIn, centre_main, mainMiddle, units_eq, units_eq]
      push_cast
      ring
    rw [twice]
    refine add_mem (mul_mem (ofNat_mem whole 2) (add_mem (d.whole_origin _) ?_)) d.whole_mainSize
    exact mul_mem (natCast_mem whole _) (add_mem d.whole_mainSize (whole_units 72))
  · have twice : 2 * (d.placedIn i layer : Placement ℚ).centre.on d.direction.cross
        = 2 * d.origin d.direction.cross
          + (d.availableCross d.layers - d.crossSpan (d.layers.count layer))
          + 2 * (rankAt d.layers i layer * (d.crossSize + siblingGap)) + d.crossSize := by
      rw [placedIn, centre_cross, crossMiddle, units_eq, units_eq]
      push_cast
      ring
    rw [twice]
    have two := ofNat_mem whole 2
    refine add_mem (add_mem (add_mem ?_ ?_) ?_) d.whole_crossSize
    · exact mul_mem two (d.whole_origin _)
    · exact sub_mem d.whole_availableCross (d.whole_crossSpan _)
    · exact mul_mem two (mul_mem (natCast_mem whole _) (add_mem d.whole_crossSize (whole_units 40)))

theorem half_size (i layer : Nat) (a : Axis) :
    ∃ k : ℤ, (d.placedIn i layer : Placement ℚ).size a = k / 2 := by
  refine exists_half (mul_mem (ofNat_mem whole 2) ?_)
  rcases d.direction.axis_cases a with rfl | rfl
  · rw [placedIn, size_main]
    exact d.whole_mainSize
  · rw [placedIn, size_cross]
    exact d.whole_crossSize

end Units

/-! ### All boxes -/

/--
**Boxes stay inside the margins and apart from each other.**  Every node has a box; none
reaches into the margins, or into the room of the title; and two of them have a gap of 40
between them across the layers if they are of one layer, and of 72 along the direction of
the diagram if they are not.  All this is exact: what is computed are halves of units.
-/
theorem boxes_inside_and_apart (d : Diagram) :
    let l : Layout ℚ := d.layout
    l.nodes.length = d.nodes.length ∧
    (∀ p ∈ l.nodes, ∀ a, d.origin a ≤ p.low a ∧ p.high a ≤ l.extent a - 32) ∧
    (∀ (i j : Nat) (p q : Placement ℚ), l.nodes[i]? = some p → l.nodes[j]? = some q → i ≠ j →
      Disjoint p.box q.box ∧
      (p.layer = q.layer → p.Apart q d.direction.cross 40) ∧
      (p.layer ≠ q.layer → p.Apart q d.direction.main 72)) ∧
    (∀ p ∈ l.nodes, ∀ a, (∃ k : ℤ, p.centre.on a = k / 2) ∧ ∃ k : ℤ, p.size a = k / 2) ∧
    ∀ a, ∃ k : ℤ, l.extent a = k / 2 := by
  intro l
  refine ⟨layout_nodes_length d, ?_, ?_, ?_, ?_⟩
  · intro p drawn a
    obtain ⟨i, here, -, same⟩ := d.exists_placedIn drawn
    exact same ▸ d.box_inside (α := ℚ) here a
  · intro i j p q hp hq other
    obtain ⟨layer, here, rfl⟩ := d.layout_nodes_eq_some_iff.mp hp
    obtain ⟨layer', there, rfl⟩ := d.layout_nodes_eq_some_iff.mp hq
    rw [placedIn, placedIn, placement_layer, placement_layer, ← placedIn, ← placedIn]
    by_cases same : layer = layer'
    · subst same
      have apart := d.apart_cross (α := ℚ) here there other
      exact ⟨apart.disjoint (by norm_num), fun _ => apart, fun ne => absurd rfl ne⟩
    · have apart := d.apart_main (α := ℚ) (i := i) (j := j) same
      exact ⟨apart.disjoint (by norm_num), fun eq => absurd eq same, fun _ => apart⟩
  · intro p drawn a
    obtain ⟨i, -, -, same⟩ := d.exists_placedIn drawn
    exact same ▸ ⟨d.half_centre i p.layer a, d.half_size i p.layer a⟩
  · exact fun a => exists_half (mul_mem (ofNat_mem whole 2) (d.whole_extent a))

end Draftsman.Diagram
